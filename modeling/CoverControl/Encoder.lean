import CoverControl.Change
import CoverControl.Command
import CoverControl.Config.Basic

/-!
# Encoding commands

An encoder turns a command into an order: the message to publish and, for an optimistic cover, the
change to assume once the message is on its way.
-/

namespace CoverControl

/-- A message to publish. -/
structure Message where
  topic : String
  payload : String
  qos : Qos
  retain : Bool
deriving DecidableEq, Repr

structure Order where
  message : Message
  assumed : Option Change
deriving Repr

/-- A configuration with the scales it defines. -/
structure Encoder where
  config : Config
  position : Scale
  /-- The tilt section with its scale. -/
  tilt : Option (TiltSection × Scale)

namespace Encoder

/-- The encoder of a configuration, if its ranges are not empty. -/
def ofConfig (config : Config) : Except ConfigFault Encoder := do
  let position ← config.positionScale
  match config.tilt with
  | none => .ok ⟨config, position, none⟩
  | some tilt =>
    let scale ← tilt.scale
    .ok ⟨config, position, some (tilt, scale)⟩

/-- Whether commands to open, close or move the cover are assumed to succeed. -/
def isOptimistic (encoder : Encoder) : Bool := encoder.config.isOptimistic

/-- Whether tilt commands are assumed to succeed. -/
def isTiltOptimistic (encoder : Encoder) : Bool :=
  encoder.tilt.any fun (tilt, _) => tilt.isOptimistic

/-- The topic a command needs, or the failure of a cover that has none. -/
def require (command : Command) : Option String → Except Failure String
  | some topic => .ok topic
  | none => .error (.unsupported command.name)

/-- A message with the quality of service and the retain flag of the configuration. -/
def message (encoder : Encoder) (topic payload : String) : Message :=
  ⟨topic, payload, encoder.config.qos, encoder.config.retain⟩

def assumeIf (optimistic : Bool) (change : Change) : Option Change :=
  if optimistic then some change else none

/-- The order to open or to close: with position feedback, the position of that end is assumed. -/
def moveToEnd (encoder : Encoder) (command : Command) (payload : String) (status : Status)
    (raw : Int64) : Except Failure Order := do
  let topic ← require command encoder.config.commandTopic
  let position := encoder.position.percent (Scale.raw raw)
  let changes := if encoder.config.positionTopic.isSome then [.position position] else []
  .ok ⟨encoder.message topic payload,
    assumeIf encoder.isOptimistic (.batch (.status status :: changes))⟩

/-- The order to go to a position; a template is asked instead of the scale. -/
def moveTo (encoder : Encoder) (command : Command) (target : Percent) : Except Failure Order := do
  let topic ← require command encoder.config.setPositionTopic
  let payload ← match encoder.config.positionTemplate with
    | some template => (template.render target).mapError .template
    | none => .ok (toString (encoder.position.value target).toInt)
  .ok ⟨encoder.message topic payload, assumeIf encoder.isOptimistic (.positionFeedback target)⟩

/-- The tilt section, its scale and its command topic. -/
def requireTilt (encoder : Encoder) (command : Command) :
    Except Failure (TiltSection × Scale × String) :=
  match encoder.tilt with
  | none => .error (.unsupported command.name)
  | some (tilt, scale) => (require command tilt.commandTopic).map fun topic => (tilt, scale, topic)

/-- The order to publish a raw tilt, of which the percentage is assumed. -/
def tiltOrder (encoder : Encoder) (tilt : TiltSection) (topic : String) (raw : Int64)
    (assumed : Percent) : Order :=
  ⟨encoder.message topic (toString raw.toInt), assumeIf tilt.isOptimistic (.tilt assumed)⟩

/-- The order that carries out a command. -/
def encode (encoder : Encoder) (command : Command) : Except Failure Order :=
  match command with
  | .openCover =>
    encoder.moveToEnd command encoder.config.payloadOpen .opened encoder.config.positionOpened
  | .closeCover =>
    encoder.moveToEnd command encoder.config.payloadClose .closed encoder.config.positionClosed
  | .stopCover => do
    let topic ← require command encoder.config.commandTopic
    .ok ⟨encoder.message topic encoder.config.payloadStop, none⟩
  | .setPosition target => encoder.moveTo command target
  | .openTilt => do
    let (tilt, scale, topic) ← encoder.requireTilt command
    .ok (encoder.tiltOrder tilt topic tilt.openedValue (scale.percent (Scale.raw tilt.openedValue)))
  | .closeTilt => do
    let (tilt, scale, topic) ← encoder.requireTilt command
    .ok (encoder.tiltOrder tilt topic tilt.closedValue (scale.percent (Scale.raw tilt.closedValue)))
  | .setTilt target => do
    let (tilt, scale, topic) ← encoder.requireTilt command
    .ok (encoder.tiltOrder tilt topic (scale.value target) target)

end Encoder

end CoverControl
