import CoverControl.Config.Basic

/-!
# Configurations as JSON

The hub gives a configuration as one flat JSON record. A field that is missing keeps its default.
The tilt section exists if one of its topics is given. What was read is validated before the rest
of the text is looked at.
-/

namespace CoverControl

/-- A configuration while it is read: its tilt section apart, its device class still a name. -/
structure Draft where
  config : Config
  tilt : TiltSection
  deviceClass : Option String

namespace Draft

open Json

def default : Draft := ⟨.default, .default, none⟩

/-- A field of the configuration. -/
def field {α : Type} (name : String) (read : Reader α) (set : α → Config → Config) :
    Json.Field Draft :=
  .of name read (fun value draft => { draft with config := set value draft.config }) []

/-- A field of the tilt section. -/
def tiltField {α : Type} (name : String) (read : Reader α) (set : α → TiltSection → TiltSection)
    (aliases : List String) : Json.Field Draft :=
  .of name read (fun value draft => { draft with tilt := set value draft.tilt }) aliases

/-- The fields of a configuration, in the order they have in an array. -/
def fields : List (Json.Field Draft) :=
  let text := readTextValue
  let textOrNull := readOptional readTextValue
  [field "name" text fun value config => { config with name := value },
    field "unique_id" textOrNull fun value config => { config with uniqueId := value },
    field "state_topic" textOrNull fun value config => { config with stateTopic := value },
    field "command_topic" textOrNull fun value config => { config with commandTopic := value },
    .of "position_topic" textOrNull
      (fun value draft => { draft with config := { draft.config with positionTopic := value } })
      ["get_position_topic"],
    field "set_position_topic" textOrNull
      fun value config => { config with setPositionTopic := value },
    field "availability_topic" textOrNull
      fun value config => { config with availabilityTopic := value },
    field "json_attributes_topic" textOrNull
      fun value config => { config with attributesTopic := value },
    field "payload_open" text fun value config => { config with payloadOpen := value },
    field "payload_close" text fun value config => { config with payloadClose := value },
    field "payload_stop" text fun value config => { config with payloadStop := value },
    field "state_open" textOrNull fun value config => { config with stateOpened := value },
    field "state_closed" textOrNull fun value config => { config with stateClosed := value },
    field "payload_available" text fun value config => { config with payloadAvailable := value },
    field "payload_not_available" text
      fun value config => { config with payloadUnavailable := value },
    field "position_open" readInt64 fun value config => { config with positionOpened := value },
    field "position_closed" readInt64 fun value config => { config with positionClosed := value },
    field "optimistic" readBool fun value config => { config with optimistic := value },
    field "qos" Qos.reader fun value config => { config with qos := value },
    field "retain" readBool fun value config => { config with retain := value },
    .of "device_class" textOrNull (fun value draft => { draft with deviceClass := value }) [],
    tiltField "tilt_command_topic" textOrNull
      (fun value tilt => { tilt with commandTopic := value }) [],
    tiltField "tilt_status_topic" textOrNull
      (fun value tilt => { tilt with statusTopic := value }) [],
    tiltField "tilt_opened_value" readInt64
      (fun value tilt => { tilt with openedValue := value }) ["tilt_open_position"],
    tiltField "tilt_closed_value" readInt64
      (fun value tilt => { tilt with closedValue := value }) ["tilt_closed_position"],
    tiltField "tilt_min" readInt64 (fun value tilt => { tilt with min := value }) [],
    tiltField "tilt_max" readInt64 (fun value tilt => { tilt with max := value }) [],
    tiltField "tilt_optimistic" (readOptional readBool)
      (fun value tilt => { tilt with optimistic := value }) [],
    tiltField "tilt_invert_state" readBool (fun value tilt => { tilt with inverted := value }) []]

/-- The tilt section, if one of its topics is given. -/
def tiltSection (draft : Draft) : Option TiltSection :=
  if draft.tilt.commandTopic.isSome || draft.tilt.statusTopic.isSome then some draft.tilt else none

/-- The configuration that was read, if it is valid. -/
def toConfig (draft : Draft) : Except ConfigFault Config := do
  let deviceClass ← draft.deviceClass.mapM DeviceClass.ofName?
  let config := { draft.config with deviceClass := deviceClass, tilt := draft.tiltSection }
  config.validate
  .ok config

end Draft

namespace Config

/-- Reads and validates a configuration. -/
def reader : Json.Reader Config := fun cs => do
  let (draft, cs) ← Json.readRecord "struct CoverConfigPayload" Draft.fields .default cs
  match draft.toConfig with
  | .ok config => .ok (config, cs)
  | .error fault => .error (.rejected fault.message)

/-- The valid configuration that a JSON text holds. -/
def ofJson (text : String) : Except ConfigFault Config :=
  match Json.readText reader text with
  | .ok config => .ok config
  | .error fault => .error (.malformed fault.message)

end Config

end CoverControl
