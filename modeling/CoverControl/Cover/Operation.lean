import CoverControl.Cover.Basic
import CoverControl.Transport

/-!
# Operations of a cover

The operations that talk to the transport. Each runs on a cover beside the state of its transport,
and collects what it announces and reports. A request that the transport refuses ends the operation
with a failure, and what was done before stays done: the cover always knows which filters it is
subscribed to.
-/

namespace CoverControl

/-- A cover at work, with the state of its transport. -/
structure Running (σ : Type) where
  cover : Cover
  transport : σ
  notices : List Notice
  journal : List Journal.Entry

namespace Running

variable {σ : Type}

/-- A cover before it does anything. -/
def start (cover : Cover) (transport : σ) : Running σ := ⟨cover, transport, [], []⟩

def report (run : Running σ) (entries : List Journal.Entry) : Running σ :=
  { run with journal := run.journal ++ entries }

/-- Takes over the state and the reports of an answer of the transport. -/
def receive (run : Running σ) (reply : Reply σ) : Running σ :=
  { run with transport := reply.state, journal := run.journal ++ reply.journal }

/-- Sets the filters that the cover is subscribed to. -/
def setActive (run : Running σ) (topics : List String) : Running σ :=
  { run with cover := { run.cover with activeTopics := topics } }

end Running

namespace Cover

variable {σ : Type} (transport : Transport σ)

/-- Gives up the listed filters, the first one first. -/
def unsubscribeAll : List String → Running σ → Except Failure Unit × Running σ
  | [], run => (.ok (), run.setActive [])
  | topic :: topics, run =>
    let reply := transport.unsubscribe topic run.transport
    let run := run.receive reply
    match reply.result with
    | .error fault => (.error (.transport fault), run)
    | .ok () =>
      unsubscribeAll topics
        ((run.report [.unsubscribed run.cover.entityId topic]).setActive topics)

/-- Subscribes to those of the listed filters that are not active yet. -/
def subscribeAll (qos : Qos) : List String → Running σ → Except Failure Unit × Running σ
  | [], run => (.ok (), run)
  | topic :: topics, run =>
    if run.cover.activeTopics.contains topic then subscribeAll qos topics run
    else
      let reply := transport.subscribe topic qos run.transport
      let run := run.receive reply
      match reply.result with
      | .error fault => (.error (.transport fault), run)
      | .ok () =>
        subscribeAll qos topics
          ((run.report [.subscribed run.cover.entityId topic]).setActive
            (run.cover.activeTopics ++ [topic]))

/-- Subscribes to the filters of the configuration. -/
def subscribeTopics (run : Running σ) : Except Failure Unit × Running σ :=
  subscribeAll transport run.cover.config.qos run.cover.config.inboundTopics run

/-- Gives up all subscriptions and makes those of the configuration. -/
def renewTopics (run : Running σ) : Except Failure Unit × Running σ :=
  match unsubscribeAll transport run.cover.activeTopics run with
  | (.error failure, run) => (.error failure, run)
  | (.ok (), run) => subscribeTopics transport run

/-- Changes the entity id and renews the subscriptions. -/
def rename (entityId : String) (run : Running σ) : Except Failure Unit × Running σ :=
  let run := run.report [.renamed run.cover.entityId entityId]
  renewTopics transport { run with cover := { run.cover with entityId := entityId } }

/-- Changes the configuration and renews the subscriptions; the state stays. A configuration that
is refused changes nothing. -/
def updateConfig (config : Config) (run : Running σ) : Except Failure Unit × Running σ :=
  let prepared : Except ConfigFault (Encoder × Tracker) := do
    config.validate
    let encoder ← Encoder.ofConfig config
    let tracker ← run.cover.tracker.reconfigure config
    .ok (encoder, tracker)
  match prepared with
  | .error fault => (.error (.config fault), run)
  | .ok (encoder, tracker) =>
    let run := run.report [.reconfigured run.cover.entityId]
    renewTopics transport
      { run with cover := { run.cover with encoder := encoder, tracker := tracker } }

/-- Gives up all subscriptions. -/
def remove (run : Running σ) : Except Failure Unit × Running σ :=
  unsubscribeAll transport run.cover.activeTopics
    (run.report [.removed run.cover.entityId])

/-- The first step of a command: its order is made and the message published. -/
def send (command : Command) (run : Running σ) : Except Failure Order × Running σ :=
  match run.cover.encoder.encode command with
  | .error failure => (.error failure, run)
  | .ok order =>
    let message := order.message
    let run := run.report
      [.sending run.cover.entityId command.text message.topic message.payload]
    let reply := transport.publish message run.transport
    let run := run.receive reply
    match reply.result with
    | .error fault => (.error (.transport fault), run)
    | .ok () => (.ok order, run)

/-- The second step of a command: what its order assumes is made true. -/
def assume (order : Order) (run : Running σ) : Running σ :=
  match order.assumed with
  | none => run
  | some change =>
    let (cover, notices) := run.cover.applyChange change
    { run with cover := cover, notices := run.notices ++ notices }

/-- Carries out a command. -/
def execute (command : Command) (run : Running σ) : Except Failure Unit × Running σ :=
  match send transport command run with
  | (.error failure, run) => (.error failure, run)
  | (.ok order, run) => (.ok (), assume order run)

end Cover

end CoverControl
