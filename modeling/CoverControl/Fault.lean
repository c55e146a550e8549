import CoverControl.Json.Fault

/-!
# Faults

What can go wrong, by the moment it happens: a value out of range, a configuration that is refused
before any message is handled, a payload that cannot be decoded, a template that fails, a transport
that fails. `Failure` joins them for the callers of a cover. Each kind has one function that words
its message.
-/

namespace CoverControl

/-- The kinds of feedback a topic can carry. -/
inductive Channel where
  | state
  | position
  | tilt
  | availability
  | attributes
deriving DecidableEq, Repr

/-- The name of a channel in messages. -/
def Channel.name : Channel → String
  | state => "state"
  | position => "position"
  | tilt => "tilt status"
  | availability => "availability"
  | attributes => "json attributes"

inductive ValueFault where
  | outOfRange (min max actual : Nat)
deriving DecidableEq, Repr

def ValueFault.message : ValueFault → String
  | outOfRange min max actual =>
    "value " ++ toString actual ++ " is out of range [" ++ toString min ++ ", " ++ toString max
      ++ "]"

inductive ConfigFault where
  | emptyRange (axis : String) (bound : Binary64)
  | invalidTopic (field topic reason : String)
  | invalidQos (level : Nat)
  | invalidDeviceClass (name : String)
  | malformed (reason : String)
deriving DecidableEq, Repr

def ConfigFault.message : ConfigFault → String
  | emptyRange axis bound =>
    axis ++ " range is empty: both bounds are " ++ Decimal.plain.render bound
  | invalidTopic field topic reason =>
    "invalid " ++ field ++ " " ++ Text.quote topic ++ ": " ++ reason
  | invalidQos level => "invalid qos " ++ toString level ++ ", expected 0, 1 or 2"
  | invalidDeviceClass name => "invalid device class: " ++ name
  | malformed reason => "invalid JSON configuration: " ++ reason

/-- Why a template did not render. -/
structure TemplateFault where
  message : String
deriving DecidableEq, Repr

inductive PayloadFault where
  | notNumeric (text : String)
  | unexpected (channel : Channel) (text : String)
  | template (fault : TemplateFault)
  | notJson (text : String) (fault : Json.Fault)
  | notObject (text : String)
deriving DecidableEq, Repr

def PayloadFault.message : PayloadFault → String
  | notNumeric text => "payload is not numeric: " ++ Text.quote text
  | unexpected channel text =>
    "unexpected payload on " ++ channel.name ++ " topic: " ++ Text.quote text
  | template fault => "value template failed: " ++ fault.message
  | notJson text _ => "erroneous JSON: " ++ text
  | notObject text => "JSON result was not a dictionary: " ++ text

/-- The messages of the faults that led to a payload fault. -/
def PayloadFault.causes : PayloadFault → List String
  | template fault => [fault.message]
  | notJson _ fault => [fault.message]
  | _ => []

inductive TransportFault where
  | requestRefused
  | connectionFailed (reason : String)
  | invalidAddress (reason : String)
  | channelClosed (reason : String)
deriving DecidableEq, Repr

def TransportFault.message : TransportFault → String
  | requestRefused => "MQTT error: Failed to send mqtt requests to eventloop"
  | connectionFailed reason => "connection failed: " ++ reason
  | invalidAddress reason => "invalid address: " ++ reason
  | channelClosed reason => "channel closed: " ++ reason

/-- Why an operation of a cover failed. -/
inductive Failure where
  | value (fault : ValueFault)
  | config (fault : ConfigFault)
  | transport (fault : TransportFault)
  | payload (fault : PayloadFault)
  | template (fault : TemplateFault)
  | unsupported (command : String)
deriving DecidableEq, Repr

namespace Failure

def message : Failure → String
  | value fault => "value error: " ++ fault.message
  | config fault => "configuration error: " ++ fault.message
  | transport fault => "protocol error: " ++ fault.message
  | payload fault => "decode error: " ++ fault.message
  | template fault => "template error: " ++ fault.message
  | unsupported command => "cover does not support " ++ command

/-- The messages of the faults behind a failure, the nearest first. -/
def causes : Failure → List String
  | value fault => [fault.message]
  | config fault => [fault.message]
  | transport fault => [fault.message]
  | payload fault => fault.message :: fault.causes
  | template fault => [fault.message]
  | unsupported _ => []

end Failure

end CoverControl
