import CoverControl.Fault
import CoverControl.Mqtt.Packet
import CoverControl.Text.Quoted

/-!
# Settings of a connection

Where the server is, who logs in, and the time limits, in whole seconds.
-/

namespace CoverControl.Mqtt

structure Settings where
  host : String
  port : Nat
  /-- The user name and the password. -/
  login : Option (String × String)
  keepAlive : Nat
  /-- How long to wait for the first connection. -/
  timeout : Nat
deriving DecidableEq, Repr

namespace Settings

def default : Settings := ⟨"", 1883, none, 30, 10⟩

/-- Settings without a host cannot be used. -/
def check (settings : Settings) : Except TransportFault Unit :=
  if settings.host = "" then .error (.invalidAddress "MQTT broker host is required") else .ok ()

/-- The packet that opens a connection. The keep-alive interval has 16 bits there, and a login of
two empty texts is none. -/
def opening (settings : Settings) : Packet :=
  .connect (settings.keepAlive % Nat.pow 2 16) (settings.login.filter (· ≠ ("", "")))

/-- A time in messages: a zero shows in the smallest unit. -/
def describeSeconds (seconds : Nat) : String :=
  if seconds = 0 then "0ns" else toString seconds ++ "s"

def describeLogin : Option (String × String) → String
  | none => "None"
  | some (user, password) => "Some((" ++ Text.quote user ++ ", " ++ Text.quote password ++ "))"

/-- How settings show in messages. -/
def describe (settings : Settings) : String :=
  "MqttBrokerBuilder \x7b config: MqttBrokerConfig \x7b host: " ++ Text.quote settings.host
    ++ ", port: " ++ toString settings.port
    ++ ", credentials: " ++ describeLogin settings.login
    ++ ", keep_alive: " ++ describeSeconds settings.keepAlive
    ++ ", connection_timeout: " ++ describeSeconds settings.timeout ++ " \x7d \x7d"

end Settings

end CoverControl.Mqtt
