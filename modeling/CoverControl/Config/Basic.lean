import CoverControl.DeviceClass
import CoverControl.Qos
import CoverControl.Scale
import CoverControl.Template
import CoverControl.Topic

/-!
# Configuration of a cover

Which topics a cover listens to and publishes to, what payloads mean, and the ranges of its
positions and tilts. `validate` finds the first problem of a configuration; the derived values are
defined for every configuration, valid or not.
-/

namespace CoverControl

/-- The tilt of a cover with slats. -/
structure TiltSection where
  commandTopic : Option String
  statusTopic : Option String
  /-- The raw value that opening the tilt publishes. -/
  openedValue : Int64
  /-- The raw value that closing the tilt publishes. -/
  closedValue : Int64
  min : Int64
  max : Int64
  inverted : Bool
  /-- Whether tilt commands are assumed to succeed; if unset, they are without a status topic. -/
  optimistic : Option Bool
deriving DecidableEq, Repr

structure Config where
  name : String
  uniqueId : Option String
  stateTopic : Option String
  commandTopic : Option String
  positionTopic : Option String
  setPositionTopic : Option String
  availabilityTopic : Option String
  attributesTopic : Option String
  payloadOpen : String
  payloadClose : String
  payloadStop : String
  /-- What the state topic says for open; the open payload if unset. -/
  stateOpened : Option String
  /-- What the state topic says for closed; the close payload if unset. -/
  stateClosed : Option String
  payloadAvailable : String
  payloadUnavailable : String
  /-- The raw position of a fully open cover. -/
  positionOpened : Int64
  /-- The raw position of a fully closed cover. -/
  positionClosed : Int64
  optimistic : Bool
  qos : Qos
  retain : Bool
  deviceClass : Option DeviceClass
  valueTemplate : Option ValueTemplate
  positionTemplate : Option PositionTemplate
  tilt : Option TiltSection

namespace TiltSection

def default : TiltSection where
  commandTopic := none
  statusTopic := none
  openedValue := 100
  closedValue := 0
  min := 0
  max := 100
  inverted := false
  optimistic := none

/-- Whether tilt commands are assumed to succeed. -/
def isOptimistic (tilt : TiltSection) : Bool := tilt.optimistic.getD tilt.statusTopic.isNone

def scale (tilt : TiltSection) : Except ConfigFault Scale :=
  Scale.tilt tilt.min tilt.max tilt.inverted

end TiltSection

/-- The channels in the order in which a message is handled and topics are subscribed to. -/
def Channel.all : List Channel := [state, position, tilt, availability, attributes]

namespace Config

/-- A configuration without topics, with the usual payloads and ranges. -/
def named (name : String) : Config where
  name := name
  uniqueId := none
  stateTopic := none
  commandTopic := none
  positionTopic := none
  setPositionTopic := none
  availabilityTopic := none
  attributesTopic := none
  payloadOpen := "OPEN"
  payloadClose := "CLOSE"
  payloadStop := "STOP"
  stateOpened := none
  stateClosed := none
  payloadAvailable := "online"
  payloadUnavailable := "offline"
  positionOpened := 100
  positionClosed := 0
  optimistic := false
  qos := .atMostOnce
  retain := false
  deviceClass := none
  valueTemplate := none
  positionTemplate := none
  tilt := none

def default : Config := named "MQTT Cover"

/-! ### Derived values -/

/-- Whether commands are assumed to succeed; without any feedback they always are. -/
def isOptimistic (config : Config) : Bool :=
  config.optimistic || (config.stateTopic.isNone && config.positionTopic.isNone)

def openedLiteral (config : Config) : String := config.stateOpened.getD config.payloadOpen

def closedLiteral (config : Config) : String := config.stateClosed.getD config.payloadClose

def positionScale (config : Config) : Except ConfigFault Scale :=
  Scale.position config.positionOpened config.positionClosed

/-- The scale of tilts; without a tilt section, that of the default section. -/
def tiltScale (config : Config) : Except ConfigFault Scale :=
  (config.tilt.getD .default).scale

def tiltCommandTopic (config : Config) : Option String := config.tilt.bind (·.commandTopic)

def tiltStatusTopic (config : Config) : Option String := config.tilt.bind (·.statusTopic)

/-- The filter that feeds a channel. -/
def filter (config : Config) : Channel → Option String
  | .state => config.stateTopic
  | .position => config.positionTopic
  | .tilt => config.tiltStatusTopic
  | .availability => config.availabilityTopic
  | .attributes => config.attributesTopic

/-- Appends a text to a list that does not contain it. -/
def addNew (texts : List String) (text : String) : List String :=
  if texts.contains text then texts else texts ++ [text]

/-- The filters a cover subscribes to, in the order of their channels, each once. -/
def inboundTopics (config : Config) : List String :=
  (Channel.all.filterMap config.filter).foldl addNew []

/-- The channels that a message on a topic feeds, in their order. -/
def classify (config : Config) (topic : String) : List Channel :=
  Channel.all.filter fun channel =>
    match config.filter channel with
    | some filter => Topic.accepts filter topic
    | none => false

/-! ### Validation -/

/-- Names the field in the fault of a topic that is set. -/
def checkTopic (check : String → Except Topic.Fault Unit) (field : String) :
    Option String → Except ConfigFault Unit
  | none => .ok ()
  | some topic => match check topic with
    | .ok () => .ok ()
    | .error fault => .error (.invalidTopic field topic fault.message)

/-- The first problem, if any: in the topics published to, the filters, then the ranges. -/
def validate (config : Config) : Except ConfigFault Unit := do
  checkTopic Topic.checkPublished "command_topic" config.commandTopic
  checkTopic Topic.checkPublished "set_position_topic" config.setPositionTopic
  checkTopic Topic.checkPublished "tilt_command_topic" config.tiltCommandTopic
  checkTopic Topic.checkFilter "state_topic" config.stateTopic
  checkTopic Topic.checkFilter "position_topic" config.positionTopic
  checkTopic Topic.checkFilter "availability_topic" config.availabilityTopic
  checkTopic Topic.checkFilter "json_attributes_topic" config.attributesTopic
  checkTopic Topic.checkFilter "tilt_status_topic" config.tiltStatusTopic
  let _ ← config.positionScale
  match config.tilt with
  | some tilt =>
    let _ ← tilt.scale
    .ok ()
  | none => .ok ()

end Config

end CoverControl
