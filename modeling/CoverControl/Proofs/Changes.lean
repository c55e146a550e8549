import CoverControl.Decoder
import CoverControl.Encoder
import CoverControl.Proofs.Config
import CoverControl.Proofs.Filters

/-!
# Where changes come from

A change is what a decoder makes of a payload, or what an order assumes. A channel carries changes of
one kind only (`Channel.Carries`), and what is assumed is of one of four kinds (`Encoder.Assumes`), so
a fact about all changes of a cover has nine cases.
-/

namespace CoverControl

/-! ### Feedback -/

/-- The changes that the payloads of a channel can mean. -/
inductive Channel.Carries : Channel → Change → Prop where
  | status (status : Status) : Carries .state (.status status)
  | position (position : Percent) : Carries .position (.positionFeedback position)
  | tilt (tilt : Percent) : Carries .tilt (.tilt tilt)
  | availability (available : Bool) : Carries .availability (.availability available)
  | attributes (fields : Json.Object) : Carries .attributes (.attributes fields)

theorem Decoder.carries_of_decode {decoder : Decoder} {channel : Channel} {payload : String}
    {change : Change} (h : decoder.decode channel payload = .ok change) : channel.Carries change := by
  cases channel with
  | state =>
    obtain ⟨text, -, h⟩ := bind_eq_ok.1 h
    split at h
    · cases h; exact .status _
    split at h
    · cases h; exact .status _
    · cases h
  | position =>
    obtain ⟨text, -, h⟩ := bind_eq_ok.1 h
    obtain ⟨raw, -, h⟩ := bind_eq_ok.1 h
    cases h; exact .position _
  | tilt =>
    obtain ⟨raw, -, h⟩ := bind_eq_ok.1 h
    cases h; exact .tilt _
  | availability =>
    rw [decode] at h
    split at h
    · cases h; exact .availability _
    split at h
    · cases h; exact .availability _
    · cases h
  | attributes =>
    rw [decode] at h
    cases hobject : object payload with
    | error fault => rw [hobject] at h; cases h
    | ok fields => rw [hobject] at h; cases h; exact .attributes _

/-! ### Assumptions -/

namespace Encoder
variable {encoder : Encoder} {command : Command} {order : Order} {change : Change}

/-- What an order to go to one end assumes: its status, and with position feedback its percentage. -/
def endChange (encoder : Encoder) (status : Status) (raw : Int64) : Change :=
  .batch (.status status :: if encoder.config.positionTopic.isSome then
    [.position (encoder.position.percent (Scale.raw raw))] else [])

/-- The changes that orders can assume. -/
inductive Assumes (encoder : Encoder) : Change → Prop where
  | opened : Assumes encoder (encoder.endChange .opened encoder.config.positionOpened)
  | closed : Assumes encoder (encoder.endChange .closed encoder.config.positionClosed)
  | position (target : Percent) : Assumes encoder (.positionFeedback target)
  | tilt (assumed : Percent) : Assumes encoder (.tilt assumed)

theorem eq_of_assumeIf {optimistic : Bool} {change' : Change}
    (h : assumeIf optimistic change = some change') : change' = change := by
  unfold assumeIf at h
  split at h
  · exact (Option.some.inj h).symm
  · cases h

theorem eq_of_moveToEnd {payload : String} {status : Status} {raw : Int64}
    (h : encoder.moveToEnd command payload status raw = .ok order)
    (hassumed : order.assumed = some change) : change = encoder.endChange status raw := by
  obtain ⟨topic, -, h⟩ := bind_eq_ok.1 h
  cases h
  exact eq_of_assumeIf hassumed

theorem assumes_of_encode (h : encoder.encode command = .ok order)
    (hassumed : order.assumed = some change) : encoder.Assumes change := by
  cases command with
  | openCover => rw [eq_of_moveToEnd h hassumed]; exact .opened
  | closeCover => rw [eq_of_moveToEnd h hassumed]; exact .closed
  | stopCover =>
    obtain ⟨topic, -, h⟩ := bind_eq_ok.1 h
    cases h; cases hassumed
  | setPosition target =>
    obtain ⟨topic, -, h⟩ := bind_eq_ok.1 h
    have hassume : order.assumed = assumeIf encoder.isOptimistic (.positionFeedback target) := by
      dsimp only at h
      split at h <;> obtain ⟨payload, -, h⟩ := bind_eq_ok.1 h <;> cases h <;> rfl
    rw [eq_of_assumeIf (hassume.symm.trans hassumed)]
    exact .position target
  | openTilt | closeTilt | setTilt =>
    obtain ⟨⟨tilt, scale, topic⟩, -, h⟩ := bind_eq_ok.1 h
    cases h
    rw [eq_of_assumeIf hassumed]
    exact .tilt _

/-- Whether a command is assumed to succeed. -/
def trusts (encoder : Encoder) : Command → Bool
  | .openCover | .closeCover | .setPosition _ => encoder.isOptimistic
  | .stopCover => false
  | .openTilt | .closeTilt | .setTilt _ => encoder.isTiltOptimistic

theorem isSome_assumeIf (optimistic : Bool) (change : Change) :
    (assumeIf optimistic change).isSome = optimistic := by
  cases optimistic <;> rfl

theorem isTiltOptimistic_of_require {tilt : TiltSection} {scale : Scale} {topic : String}
    (h : encoder.requireTilt command = .ok (tilt, scale, topic)) :
    encoder.isTiltOptimistic = tilt.isOptimistic := by
  unfold requireTilt at h
  split at h
  · cases h
  · rename_i tilt' scale' htilt
    cases htopic : require command tilt'.commandTopic with
    | error failure => rw [htopic] at h; cases h
    | ok topic' =>
      rw [htopic] at h
      cases h
      simp [isTiltOptimistic, htilt]

theorem isSome_assumed (h : encoder.encode command = .ok order) :
    order.assumed.isSome = encoder.trusts command := by
  cases command with
  | openCover | closeCover =>
    obtain ⟨topic, -, h⟩ := bind_eq_ok.1 h
    cases h
    exact isSome_assumeIf _ _
  | stopCover =>
    obtain ⟨topic, -, h⟩ := bind_eq_ok.1 h
    cases h; rfl
  | setPosition target =>
    obtain ⟨topic, -, h⟩ := bind_eq_ok.1 h
    dsimp only at h
    split at h <;> obtain ⟨payload, -, h⟩ := bind_eq_ok.1 h <;> cases h <;> exact isSome_assumeIf _ _
  | openTilt | closeTilt | setTilt =>
    obtain ⟨⟨tilt, scale, topic⟩, hrequire, h⟩ := bind_eq_ok.1 h
    cases h
    exact (isSome_assumeIf _ _).trans (isTiltOptimistic_of_require hrequire).symm

end Encoder

end CoverControl
