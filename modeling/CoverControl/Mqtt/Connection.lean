import CoverControl.Mqtt.Session

/-!
# Connections

What happens to a session from outside: a server accepts or refuses a connection, sends messages,
says goodbye or goes away. The first connection has to succeed; a connection that is lost later is
tried again, unless the session was asked to end. On a new connection the requests made since the
last one are sent first and then all subscriptions, because the server knows none of them any more.

A packet that is too large to be sent, or a message too large to be received, breaks the
connection. Requests that wait while a connection breaks are lost.
-/

namespace CoverControl.Mqtt

inductive Event where
  /-- The server accepts the connection. -/
  | accepted
  /-- The server acknowledges a subscription. -/
  | acknowledged
  | received (topic : String) (payload : ByteArray)
  /-- The server says goodbye. -/
  | dismissed
  /-- A connection cannot be made or is lost. -/
  | failed

/-- What a server does when a client wants to connect. -/
inductive Greeting where
  | accept
  /-- Closes the connection without an answer. -/
  | hangUp
  /-- Answers that the client is not welcome. -/
  | reject
  /-- Never answers. -/
  | silent
  /-- Nobody is there. -/
  | absent
deriving DecidableEq, Repr

namespace Session

/-- Ends a session that was asked to end. -/
def endIfClosing (session : Session) : Session :=
  if session.closing then { session with phase := .ended } else session

/-- Handles an event. -/
def handle (event : Event) (session : Session) : Session :=
  match event with
  | .accepted =>
    let session := { session with connected := true }
    if session.phase = .opening then { session with phase := .running } else session
  | .acknowledged => session
  | .received _ _ => session
  | .dismissed => endIfClosing { session with connected := false }
  | .failed =>
    let session :=
      { session with
        connected := false
        linked := false
        waiting := if session.linked then [] else session.waiting }
    if session.phase = .opening then { session with phase := .ended } else session.endIfClosing

/-- Sends the waiting requests, up to one that is too large. -/
def flush (session : Session) : Session :=
  if session.linked then
    let (packets, later) := session.waiting.span Packet.fits
    let session := { session with waiting := later, sent := session.sent ++ packets }
    if later.isEmpty then session else session.handle .failed
  else session

/-- Asks for all subscriptions again. -/
def restore (session : Session) : Session :=
  session.subscriptions.foldl
    (fun session (filter, qos) => (session.request (.subscribe filter qos)).getD session) session

/-! ### Messages -/

/-- The handlers that get a message, and its text; a payload that is no text reaches nobody. -/
def recipients (topic : String) (payload : ByteArray) (session : Session) :
    Option (String × List Handler) :=
  (String.fromUTF8? payload).map fun text => (text, session.router.recipients topic)

/-- The server publishes a message, which is lost if the client broke the connection off. -/
def receive (topic : String) (payload : ByteArray) (qos : Qos) (session : Session) :
    Session × Option (String × List Handler) :=
  if session.linked = false then (session, none)
  else if publicationSize topic payload.size qos ≤ sizeLimit then
    (session.handle (.received topic payload), session.recipients topic payload)
  else (session.handle .failed, none)

/-! ### Connecting -/

/-- Takes up an accepted connection. A goodbye from the last one shows now. The subscriptions are
restored behind the waiting requests; a first connection finds none of either. -/
def welcome (session : Session) : Session :=
  let session := session.handle .accepted
  let session :=
    if session.goodbye then handle .dismissed { session with goodbye := false } else session
  if session.phase = .ended then session
  else (flush { session with linked := true }).restore.flush

/-- Tries to connect. -/
def attempt (greeting : Greeting) (session : Session) : Session :=
  let opening := session.settings.opening
  if greeting = .absent ∨ opening.fits = false then session.handle .failed
  else
    let session := { session with sent := session.sent ++ [opening] }
    if greeting = .accept then { session.welcome with served := true } else session.handle .failed

/-- How many seconds an answer of the server is waited for. -/
def answerLimit : Nat := 5

/-- Opens a session with its first connection. If the server is silent, the time of the settings may
be over before that of the client; if it is none, it is over before anything happens. -/
def connect (settings : Settings) (greeting : Greeting) : Except TransportFault Unit × Session :=
  let session := (fresh settings).attempt greeting
  let quiet := greeting = .silent ∧ settings.opening.fits
  if settings.timeout = 0 ∨ (quiet ∧ settings.timeout < answerLimit) then
    (.error (.connectionFailed
      ("MQTT connection timeout after " ++ toString settings.timeout ++ "s")), session)
  else if session.phase = .ended then
    (.error (.connectionFailed "MQTT event loop terminated unexpectedly"), session)
  else (.ok (), session)

/-- Tries to connect again, if the connection is lost and the session has not ended. -/
def reconnect (greeting : Greeting) (session : Session) : Session :=
  if session.linked then session
  else
    let session := { session with served := false }
    if session.phase = .ended then session else session.attempt greeting

/-! ### Losing the connection -/

/-- The server closes its connection. -/
def lose (session : Session) : Session :=
  let session := { session with served := false }
  if session.linked then session.handle .failed else session

/-- The server says goodbye and closes its connection. -/
def kick (session : Session) : Session :=
  lose { session with goodbye := session.goodbye || session.linked }

/-- Asks a session to end. Without a connection it ends at the next attempt. -/
def disconnect (session : Session) : Except TransportFault Unit × Session :=
  let session := { session with closing := true }
  match session.request .disconnect with
  | none => (.error .requestRefused, session)
  | some session => (.ok (), { session with connected := false })

/-- Asks a session to end; then the server closes its connection. -/
def close (session : Session) : Except TransportFault Unit × Session :=
  let (reply, session) := session.disconnect
  (reply, session.flush.lose)

end Session

end CoverControl.Mqtt
