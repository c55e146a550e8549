import CoverControl.Config.Basic

/-!
# Settings

A configuration is built up by settings, each of which sets one value or a few that belong
together. Every setting of the tilt brings the tilt section about if there is none yet.
-/

namespace CoverControl

inductive Setting where
  | stateTopic (topic : String)
  | commandTopic (topic : String)
  | positionTopic (topic : String)
  | setPositionTopic (topic : String)
  | availabilityTopic (topic : String)
  | attributesTopic (topic : String)
  | tiltCommandTopic (topic : String)
  | tiltStatusTopic (topic : String)
  | payloads (opening closing stopping : String)
  | stateLiterals (opened closed : String)
  | availabilityPayloads (available unavailable : String)
  | positionRange (opened closed : Int64)
  | tiltValues (opened closed : Int64)
  | tiltRange (min max : Int64) (inverted : Bool)
  | tiltOptimistic (optimistic : Bool)
  | optimistic (optimistic : Bool)
  | qos (qos : Qos)
  | retain (retain : Bool)
  | deviceClass (deviceClass : DeviceClass)
  | uniqueId (id : String)
  | valueTemplate (template : ValueTemplate)
  | positionTemplate (template : PositionTemplate)

namespace Config

/-- Changes the tilt section, the default one if there is none. -/
def modifyTilt (config : Config) (change : TiltSection → TiltSection) : Config :=
  { config with tilt := some (change (config.tilt.getD .default)) }

/-- The configuration with one setting made. -/
def set (config : Config) : Setting → Config
  | .stateTopic topic => { config with stateTopic := some topic }
  | .commandTopic topic => { config with commandTopic := some topic }
  | .positionTopic topic => { config with positionTopic := some topic }
  | .setPositionTopic topic => { config with setPositionTopic := some topic }
  | .availabilityTopic topic => { config with availabilityTopic := some topic }
  | .attributesTopic topic => { config with attributesTopic := some topic }
  | .tiltCommandTopic topic =>
    config.modifyTilt fun tilt => { tilt with commandTopic := some topic }
  | .tiltStatusTopic topic => config.modifyTilt fun tilt => { tilt with statusTopic := some topic }
  | .payloads opening closing stopping =>
    { config with payloadOpen := opening, payloadClose := closing, payloadStop := stopping }
  | .stateLiterals opened closed =>
    { config with stateOpened := some opened, stateClosed := some closed }
  | .availabilityPayloads available unavailable =>
    { config with payloadAvailable := available, payloadUnavailable := unavailable }
  | .positionRange opened closed =>
    { config with positionOpened := opened, positionClosed := closed }
  | .tiltValues opened closed =>
    config.modifyTilt fun tilt => { tilt with openedValue := opened, closedValue := closed }
  | .tiltRange min max inverted =>
    config.modifyTilt fun tilt => { tilt with min := min, max := max, inverted := inverted }
  | .tiltOptimistic optimistic =>
    config.modifyTilt fun tilt => { tilt with optimistic := some optimistic }
  | .optimistic optimistic => { config with optimistic := optimistic }
  | .qos qos => { config with qos := qos }
  | .retain retain => { config with retain := retain }
  | .deviceClass deviceClass => { config with deviceClass := some deviceClass }
  | .uniqueId id => { config with uniqueId := some id }
  | .valueTemplate template => { config with valueTemplate := some template }
  | .positionTemplate template => { config with positionTemplate := some template }

/-- The configuration with settings made one after the other. -/
def setAll (config : Config) (settings : List Setting) : Config := settings.foldl set config

end Config

end CoverControl
