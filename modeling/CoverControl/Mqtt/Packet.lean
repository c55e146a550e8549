import CoverControl.Encoder

/-!
# Packets

What a client sends to its server. Acknowledgements and pings are no part of it: they carry
nothing a subscriber or publisher could see.

A packet has a body after a byte for its kind and the size of the body, written in groups of seven
bits. A text in the body has its length before it, in two bytes.
-/

namespace CoverControl.Mqtt

inductive Packet where
  /-- Opens a connection with a clean session: the server forgets all subscriptions. -/
  | connect (keepAlive : Nat) (login : Option (String × String))
  | subscribe (filter : String) (qos : Qos)
  | unsubscribe (filter : String)
  | publish (message : Message)
  | disconnect
deriving DecidableEq, Repr

/-- Whether a client takes on the sending of a packet: no message is published to a wildcard, and a
filter to subscribe to has its wildcards in place. Filters to give up are not looked at. -/
def Packet.isSendable : Packet → Bool
  | publish message => !(message.topic.contains '+' || message.topic.contains '#')
  | subscribe filter _ => filter != "" && (Topic.checkLevels (Topic.levels filter)).isOk
  | _ => true

/-! ### Sizes -/

/-- The most bytes of a packet that a client sends, and of the body of one that it receives. -/
def sizeLimit : Nat := 10 * 1024

/-- The size of the name under which a client opens a connection. -/
def clientNameSize : Nat := 16

def textSize (text : String) : Nat := 2 + text.utf8ByteSize

/-- The size of a user name or a password; an empty one is left out. -/
def credentialSize (text : String) : Nat := if text = "" then 0 else textSize text

/-- The size of the body of a publication, which has a number if it is acknowledged. -/
def publicationSize (topic : String) (payloadSize : Nat) (qos : Qos) : Nat :=
  textSize topic + payloadSize + if qos = .atMostOnce then 0 else 2

namespace Packet

/-- The size of the body. That of a connection begins with the name and version of the protocol,
its flags and the keep-alive interval, that of a subscription or its end with a number. -/
def bodySize : Packet → Nat
  | connect _ none => 12 + clientNameSize
  | connect _ (some (user, password)) =>
    12 + clientNameSize + credentialSize user + credentialSize password
  | subscribe filter _ => 2 + textSize filter + 1
  | unsubscribe filter => 2 + textSize filter
  | publish message => publicationSize message.topic message.payload.utf8ByteSize message.qos
  | disconnect => 0

def size (packet : Packet) : Nat := 1 + (packet.bodySize.log2 / 7 + 1) + packet.bodySize

/-- Whether a packet is small enough to be sent. -/
def fits (packet : Packet) : Bool := packet.size ≤ sizeLimit

end Packet

end CoverControl.Mqtt
