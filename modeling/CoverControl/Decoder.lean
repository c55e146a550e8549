import CoverControl.Config.Basic
import CoverControl.State
import CoverControl.Text.Blank

/-!
# Decoding feedback

A decoder holds what a configuration says about payloads and turns the payload of a channel into a
change. A tracker joins a decoder with the state it keeps up to date: a payload that cannot be
decoded leaves the state as it is.
-/

namespace CoverControl

structure Decoder where
  opened : String
  closed : String
  available : String
  unavailable : String
  template : Option ValueTemplate
  position : Scale
  tilt : Scale

namespace Decoder

/-- The decoder of a configuration, if its ranges are not empty. -/
def ofConfig (config : Config) : Except ConfigFault Decoder := do
  let position ← config.positionScale
  let tilt ← config.tiltScale
  .ok { opened := config.openedLiteral
        closed := config.closedLiteral
        available := config.payloadAvailable
        unavailable := config.payloadUnavailable
        template := config.valueTemplate
        position := position
        tilt := tilt }

/-- The text to interpret: what the template makes of a payload. -/
def render (decoder : Decoder) (payload : String) : Except PayloadFault String :=
  match decoder.template with
  | none => .ok payload
  | some template => (template.render payload).mapError .template

/-- The finite number that a text holds between blanks. -/
def number (text : String) : Except PayloadFault Binary64 :=
  match (Decimal.number? (Text.trim text.toList)).filter Binary64.isFinite with
  | some x => .ok x
  | none => .error (.notNumeric text)

/-- The JSON object that a payload holds. -/
def object (payload : String) : Except PayloadFault Json.Object :=
  match Json.Value.parse payload with
  | .ok (.object fields) => .ok fields
  | .ok _ => .error (.notObject payload)
  | .error fault => .error (.notJson payload fault)

/-- The change that a payload means on a channel. -/
def decode (decoder : Decoder) : Channel → String → Except PayloadFault Change
  | .state, payload => do
    let text ← decoder.render payload
    if text = decoder.opened then .ok (.status .opened)
    else if text = decoder.closed then .ok (.status .closed)
    else .error (.unexpected .state text)
  | .position, payload => do
    let raw ← number (← decoder.render payload)
    .ok (.positionFeedback (decoder.position.percent raw))
  | .tilt, payload => do
    let raw ← number payload
    .ok (.tilt (decoder.tilt.percent raw))
  | .availability, payload =>
    if payload = decoder.available then .ok (.availability true)
    else if payload = decoder.unavailable then .ok (.availability false)
    else .error (.unexpected .availability payload)
  | .attributes, payload => (object payload).map .attributes

end Decoder

structure Tracker where
  decoder : Decoder
  state : State

namespace Tracker

/-- A tracker that has heard nothing: its cover is available unless a topic reports that. -/
def ofConfig (config : Config) : Except ConfigFault Tracker := do
  let decoder ← Decoder.ofConfig config
  .ok ⟨decoder, .initial config.availabilityTopic.isNone⟩

/-- Decodes by another configuration from now on; the state stays. -/
def reconfigure (tracker : Tracker) (config : Config) : Except ConfigFault Tracker := do
  let decoder ← Decoder.ofConfig config
  .ok { tracker with decoder := decoder }

/-- Makes a change, and tells whether it altered the state. -/
def apply (tracker : Tracker) (change : Change) : Tracker × Bool :=
  let (state, altered) := tracker.state.apply change
  ({ tracker with state := state }, altered)

/-- Decodes a payload and makes the change. -/
def handle (tracker : Tracker) (channel : Channel) (payload : String) :
    Except PayloadFault (Tracker × Bool) :=
  (tracker.decoder.decode channel payload).map tracker.apply

end Tracker

end CoverControl
