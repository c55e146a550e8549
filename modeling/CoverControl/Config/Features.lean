import CoverControl.Command
import CoverControl.Config.Basic

/-!
# Features

The commands that a cover accepts follow from the topics it has to publish to, command by command.
The hub knows them as a number with one bit per feature.
-/

namespace CoverControl

structure Features where
  /-- Opening, closing and stopping. -/
  openClose : Bool
  setPosition : Bool
  /-- Opening, closing and setting the tilt. -/
  tilt : Bool
deriving DecidableEq, Repr

def Config.features (config : Config) : Features where
  openClose := config.commandTopic.isSome
  setPosition := config.setPositionTopic.isSome
  tilt := config.tiltCommandTopic.isSome

namespace Features

def supports (features : Features) : Command → Bool
  | .openCover | .closeCover | .stopCover => features.openClose
  | .setPosition _ => features.setPosition
  | .openTilt | .closeTilt | .setTilt _ => features.tilt

/-- The number for the hub: 1 open, 2 close, 4 set position, 8 stop, 16 open tilt, 32 close tilt,
64 stop tilt, 128 set tilt position. -/
def bits (features : Features) : Nat :=
  (if features.openClose then 1 + 2 + 8 else 0) + (if features.setPosition then 4 else 0)
    + (if features.tilt then 16 + 32 + 64 + 128 else 0)

end Features

/-- The bit of a command at the hub. -/
def Command.bit : Command → Nat
  | openCover => 1
  | closeCover => 2
  | setPosition _ => 4
  | stopCover => 8
  | openTilt => 16
  | closeTilt => 32
  | setTilt _ => 128

end CoverControl
