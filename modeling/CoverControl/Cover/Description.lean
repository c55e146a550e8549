import CoverControl.Cover.Basic

/-!
# Descriptions

How covers and their states show in messages: the names of the parts with their values, nested
values in brackets and braces.
-/

namespace CoverControl

/-- A named value with its parts in braces; without parts only the braces. -/
def bracedParts (parts : List String) : String :=
  if parts.isEmpty then "\x7b\x7d" else "\x7b" ++ ", ".intercalate parts ++ "\x7d"

def describeOption {α : Type} (describe : α → String) : Option α → String
  | none => "None"
  | some value => "Some(" ++ describe value ++ ")"

def Status.describe : Status → String
  | unknown => "Unknown"
  | opened => "Open"
  | closed => "Closed"

def Percent.describe (p : Percent) : String := "Percent(" ++ toString p.value ++ ")"

namespace Json

mutual

def Value.describe : Value → String
  | .null => "Null"
  | .bool value => "Bool(" ++ toString value ++ ")"
  | .number number => "Number(" ++ number.render ++ ")"
  | .string text => "String(" ++ Text.quote text ++ ")"
  | .array items => "Array [" ++ ", ".intercalate (describeItems items) ++ "]"
  | .object fields => "Object " ++ bracedParts (describeFields fields)

def describeItems : List Value → List String
  | [] => []
  | item :: items => item.describe :: describeItems items

def describeFields : List (String × Value) → List String
  | [] => []
  | (key, value) :: fields => (Text.quote key ++ ": " ++ value.describe) :: describeFields fields

end

end Json

def State.describe (state : State) : String :=
  "CoverState \x7b status: " ++ state.status.describe
    ++ ", position: " ++ describeOption Percent.describe state.position
    ++ ", tilt: " ++ describeOption Percent.describe state.tilt
    ++ ", available: " ++ toString state.available
    ++ ", attributes: " ++ bracedParts (Json.describeFields state.attributes) ++ " \x7d"

def Cover.describe (cover : Cover) : String :=
  "MqttCover \x7b entity_id: " ++ Text.quote cover.entityId
    ++ ", name: " ++ Text.quote cover.config.name
    ++ ", state: " ++ cover.state.describe ++ ", .. \x7d"

end CoverControl
