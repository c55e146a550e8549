import CoverControl.Cover.Run

/-!
# Recorded transports

What a cover asks of its transport is written down by a transport that hands every request on to
another one and keeps a record. The record changes nothing: without it, every run on the recorded
transport is the run on the transport itself (`performAll_forget`).
-/

namespace CoverControl

inductive Request where
  | publish (message : Message)
  | subscribe (topic : String) (qos : Qos)
  | unsubscribe (topic : String)

/-- A request and what became of it. -/
structure Exchange where
  request : Request
  result : Except TransportFault Unit

variable {σ : Type}

/-- An answer of a transport that is written down behind a record. -/
def Reply.recorded (record : List Exchange) (request : Request) (reply : Reply σ) :
    Reply (σ × List Exchange) :=
  ⟨reply.result, (reply.state, record ++ [⟨request, reply.result⟩]), reply.journal⟩

/-- Hands every request on and writes it down. -/
def Transport.recorded (transport : Transport σ) : Transport (σ × List Exchange) where
  publish message machine :=
    (transport.publish message machine.1).recorded machine.2 (.publish message)
  subscribe topic qos machine :=
    (transport.subscribe topic qos machine.1).recorded machine.2 (.subscribe topic qos)
  unsubscribe topic machine :=
    (transport.unsubscribe topic machine.1).recorded machine.2 (.unsubscribe topic)

namespace Running

/-- A run without its record. -/
def forget (run : Running (σ × List Exchange)) : Running σ :=
  ⟨run.cover, run.transport.1, run.notices, run.journal⟩

def record (run : Running (σ × List Exchange)) : List Exchange := run.transport.2

theorem record_subscribe (transport : Transport σ) (run : Running (σ × List Exchange))
    (topic : String) (qos : Qos) :
    (run.receive (transport.recorded.subscribe topic qos run.transport)).record =
      run.record ++
        [⟨.subscribe topic qos, (transport.recorded.subscribe topic qos run.transport).result⟩] := rfl

theorem record_unsubscribe (transport : Transport σ) (run : Running (σ × List Exchange))
    (topic : String) : (run.receive (transport.recorded.unsubscribe topic run.transport)).record =
      run.record ++
        [⟨.unsubscribe topic, (transport.recorded.unsubscribe topic run.transport).result⟩] := rfl

end Running

namespace Cover
open Running
variable (transport : Transport σ) (run : Running (σ × List Exchange))

/-- An operation without its record. -/
def unrecorded {α : Type} (outcome : α × Running (σ × List Exchange)) : α × Running σ :=
  (outcome.1, outcome.2.forget)

theorem unsubscribeAll_forget (topics : List String) :
    unsubscribeAll transport topics run.forget =
      unrecorded (unsubscribeAll transport.recorded topics run) := by
  induction topics generalizing run with
  | nil => rfl
  | cons topic topics ih =>
    have hsame : (transport.recorded.unsubscribe topic run.transport).result =
        (transport.unsubscribe topic run.forget.transport).result := rfl
    simp only [unsubscribeAll, hsame]
    split
    · rfl
    · rw [← ih]; rfl

theorem subscribeAll_forget (qos : Qos) (topics : List String) :
    subscribeAll transport qos topics run.forget =
      unrecorded (subscribeAll transport.recorded qos topics run) := by
  induction topics generalizing run with
  | nil => rfl
  | cons topic topics ih =>
    have hsame : (transport.recorded.subscribe topic qos run.transport).result =
        (transport.subscribe topic qos run.forget.transport).result := rfl
    have hactive : run.forget.cover.activeTopics = run.cover.activeTopics := rfl
    simp only [subscribeAll, hsame, hactive]
    split
    · exact ih run
    split
    · rfl
    · rw [← ih]; rfl

theorem renewTopics_forget :
    renewTopics transport run.forget = unrecorded (renewTopics transport.recorded run) := by
  have hactive : run.forget.cover.activeTopics = run.cover.activeTopics := rfl
  rw [renewTopics, renewTopics, hactive, unsubscribeAll_forget]
  cases hall : unsubscribeAll transport.recorded run.cover.activeTopics run with
  | mk result later =>
    cases result with
    | error failure => rfl
    | ok u => exact subscribeAll_forget transport later _ _

theorem send_forget (command : Command) :
    send transport command run.forget = unrecorded (send transport.recorded command run) := by
  have hencode : run.forget.cover.encoder = run.cover.encoder := rfl
  rw [send, send, hencode]
  cases run.cover.encoder.encode command with
  | error failure => rfl
  | ok order =>
    have hsame : (transport.recorded.publish order.message run.transport).result =
        (transport.publish order.message run.forget.transport).result := rfl
    simp only [report, hsame]
    split <;> rfl

theorem perform_forget (act : Act) :
    perform transport act run.forget = unrecorded (perform transport.recorded act run) := by
  cases act with
  | message topic payload => rfl
  | execute command =>
    simp only [perform, execute, send_forget]
    cases hsend : send transport.recorded command run with
    | mk result later =>
      cases result with
      | error failure => rfl
      | ok order =>
        simp only [unrecorded, assume]
        cases order.assumed <;> rfl
  | subscribe => exact subscribeAll_forget transport run _ _
  | rename entityId =>
    exact renewTopics_forget transport
      { run.report [.renamed run.cover.entityId entityId] with
        cover := { run.cover with entityId := entityId } }
  | updateConfig config =>
    have hcover : run.forget.cover = run.cover := rfl
    simp only [perform, updateConfig, hcover]
    split
    · rfl
    · rename_i encoder tracker _
      exact renewTopics_forget transport
        { run.report [.reconfigured run.cover.entityId] with
          cover := { run.cover with encoder := encoder, tracker := tracker } }
  | remove =>
    exact unsubscribeAll_forget transport (run.report [.removed run.cover.entityId]) _

theorem performAll_forget (acts : List Act) :
    performAll transport acts run.forget = (performAll transport.recorded acts run).forget := by
  induction acts generalizing run with
  | nil => rfl
  | cons act acts ih =>
    rw [performAll, performAll, perform_forget]
    exact ih _

end Cover

end CoverControl
