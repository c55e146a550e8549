import CoverControl.Percent

/-!
# Commands

What a cover can be told to do.
-/

namespace CoverControl

inductive Command where
  | openCover
  | closeCover
  | stopCover
  | setPosition (target : Percent)
  | openTilt
  | closeTilt
  | setTilt (target : Percent)
deriving DecidableEq, Repr

namespace Command

def name : Command → String
  | openCover => "open"
  | closeCover => "close"
  | stopCover => "stop"
  | setPosition _ => "set_position"
  | openTilt => "open_tilt"
  | closeTilt => "close_tilt"
  | setTilt _ => "set_tilt"

/-- The name of a command, with its target if it has one. -/
def text (command : Command) : String :=
  match command with
  | setPosition target | setTilt target => command.name ++ " " ++ target.text
  | _ => command.name

end Command

end CoverControl
