import CoverControl.Mqtt.Settings
import CoverControl.Network

/-!
# Sessions

A session shares one connection to a server among many handlers. Its router tells which handlers
listen to which filters, and its subscriptions tell which filters the server has to know, so that
they can be restored on a new connection. A request waits in a queue until the session has a
connection and time to send it; it is refused if the session has ended.

A subscription or its end takes several steps, and others may use the session where a request is
sent: after `enroll` and before `note`, after `leave` and before `sweep`, and after each `giveUp`.
-/

namespace CoverControl.Mqtt

/-- How far a session is. -/
inductive Phase where
  /-- The first connection is not accepted yet. -/
  | opening
  | running
  | ended
deriving DecidableEq, Repr

structure Session where
  settings : Settings
  router : Router
  /-- The filters the server has to know, with the quality of service last asked for. -/
  subscriptions : List (String × Qos)
  /-- Whether the session shows itself as connected. -/
  connected : Bool
  /-- Whether the session was asked to end. -/
  closing : Bool
  phase : Phase
  /-- Whether the client has a connection. -/
  linked : Bool
  /-- Whether the server has one. It does not notice that the client breaks it off. -/
  served : Bool
  /-- Whether the server said goodbye on the last connection, which shows only on the next one. -/
  goodbye : Bool
  /-- The requests that are not sent yet, the first one first. -/
  waiting : List Packet
  /-- All packets sent, the first one first. -/
  sent : List Packet
deriving Repr

namespace Session

/-- A session before its first connection. -/
def fresh (settings : Settings) : Session :=
  ⟨settings, .empty, [], false, false, .opening, false, false, false, [], []⟩

/-- The session after a request, none if the request is refused. -/
def request (packet : Packet) (session : Session) : Option Session :=
  if session.phase = .ended ∨ packet.isSendable = false then none
  else some { session with waiting := session.waiting ++ [packet] }

def publish (message : Message) (session : Session) : Except TransportFault Unit × Session :=
  match session.request (.publish message) with
  | none => (.error .requestRefused, session)
  | some session => (.ok (), session)

/-! ### Subscriptions -/

/-- Sets the quality of service of a filter in its place; a new filter goes to the end. -/
def putQos (filter : String) (qos : Qos) : List (String × Qos) → List (String × Qos)
  | [] => [(filter, qos)]
  | (f, q) :: rest => if f = filter then (filter, qos) :: rest else (f, q) :: putQos filter qos rest

/-- The first step of a subscription: the handler is registered and the server asked. If the
request is refused, the handler is taken off again. -/
def enroll (handler : Handler) (filter : String) (qos : Qos) (session : Session) :
    Except TransportFault Unit × Session :=
  let session := { session with router := (session.router.register filter handler).1 }
  match session.request (.subscribe filter qos) with
  | none =>
    (.error .requestRefused,
      { session with router := (session.router.unregister filter handler).1 })
  | some session => (.ok (), session)

/-- The second step of a subscription: its filter is to be restored from now on. -/
def note (filter : String) (qos : Qos) (session : Session) : Session :=
  { session with subscriptions := putQos filter qos session.subscriptions }

/-- Subscribes a handler to a filter. A filter that is shared is asked for again, so that the
server repeats the messages it retains. -/
def subscribe (handler : Handler) (filter : String) (qos : Qos) (session : Session) :
    Except TransportFault Unit × Session :=
  match session.enroll handler filter qos with
  | (.error fault, session) => (.error fault, session)
  | (.ok (), session) => (.ok (), session.note filter qos)

/-- Gives up one filter. It is not restored any more, even if the request is refused. -/
def giveUp (filter : String) (session : Session) : Except TransportFault Unit × Session :=
  let session :=
    { session with subscriptions := session.subscriptions.filter fun (f, _) => f != filter }
  match session.request (.unsubscribe filter) with
  | none => (.error .requestRefused, session)
  | some session => (.ok (), session)

/-- Gives up filters one after another, until a request is refused. -/
def giveUpAll : List String → Session → Except TransportFault Unit × Session
  | [], session => (.ok (), session)
  | filter :: filters, session =>
    match session.giveUp filter with
    | (.error fault, session) => (.error fault, session)
    | (.ok (), session) => giveUpAll filters session

/-- The first step of the end of a subscription: the handler is taken off, and the filter given up
if it was the last one. -/
def leave (handler : Handler) (filter : String) (session : Session) :
    Except TransportFault Unit × Session :=
  let (router, last) := session.router.unregister filter handler
  let session := { session with router := router }
  if last then session.giveUp filter else (.ok (), session)

/-- The second step of the end of a subscription: handlers that are gone are swept out, which
leaves some filters without handlers. -/
def sweep (session : Session) : Session × List String :=
  let (router, stale) := session.router.cleanup
  ({ session with router := router }, stale)

/-- Ends the subscription of a handler to a filter, and gives up all filters whose handlers are
gone. -/
def unsubscribe (handler : Handler) (filter : String) (session : Session) :
    Except TransportFault Unit × Session :=
  match session.leave handler filter with
  | (.error fault, session) => (.error fault, session)
  | (.ok (), session) =>
    let (session, stale) := session.sweep
    giveUpAll stale session

/-- Notes that a handler is gone. -/
def forget (handler : Handler) (session : Session) : Session :=
  { session with router := session.router.drop handler }

/-- A session as the network of its handlers. -/
def network : Network Session :=
  let reply := fun (outcome : Except TransportFault Unit × Session) =>
    (⟨outcome.1, outcome.2, []⟩ : Reply Session)
  { transport := fun handler =>
      ⟨fun message session => reply (session.publish message),
        fun filter qos session => reply (session.subscribe handler filter qos),
        fun filter session => reply (session.unsubscribe handler filter)⟩
    forget := forget }

/-- How a session shows in messages. -/
def describe (session : Session) : String :=
  "MqttBroker \x7b host: " ++ Text.quote session.settings.host
    ++ ", port: " ++ toString session.settings.port
    ++ ", connected: " ++ toString session.connected ++ ", .. \x7d"

end Session

end CoverControl.Mqtt
