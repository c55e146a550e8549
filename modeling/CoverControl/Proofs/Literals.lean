import CoverControl.Proofs.Config

/-!
# Literals

The state and the availability of a cover are told by two literals each, which the configuration sets
freely. A payload is compared with them in a fixed order, so the first one always has its meaning, and
the second one has its own exactly if it is another text (`TellsApart`): a configuration in which the two
are the same text is valid, and that text has the first meaning.
-/

namespace CoverControl

variable {config : Config} {decoder : Decoder} {channel : Channel} {first second : String}
  {change change' : Change}

namespace Decoder

/-- A channel with a literal for each of two changes: which payloads mean which change, and that no other
payload means anything. -/
structure TellsApart (decoder : Decoder) (channel : Channel) (first : String) (change : Change)
    (second : String) (change' : Change) : Prop where
  first_iff : ∀ payload, decoder.decode channel payload = .ok change ↔ payload = first
  second_iff : ∀ payload, decoder.decode channel payload = .ok change' ↔
    payload = second ∧ second ≠ first
  unexpected_iff : ∀ payload, decoder.decode channel payload = .error (.unexpected channel payload) ↔
    payload ≠ first ∧ payload ≠ second

theorem tellsApart_of_decode (hne : change ≠ change')
    (h : ∀ payload, decoder.decode channel payload =
      if payload = first then .ok change else if payload = second then .ok change'
      else .error (.unexpected channel payload)) :
    decoder.TellsApart channel first change second change' := by
  refine ⟨fun payload => ?_, fun payload => ?_, fun payload => ?_⟩ <;> rw [h payload]
  -- in the order of the comparisons: a payload that is both literals stops at the first
  all_goals
    by_cases hfirst : payload = first
    · grind
    by_cases hsecond : payload = second <;> grind

theorem tellsApart_state (h : decoder.template = none) :
    decoder.TellsApart .state decoder.opened (.status .opened) decoder.closed (.status .closed) := by
  refine tellsApart_of_decode (by simp) fun payload => ?_
  rw [decode, render_of_plain h]
  rfl

theorem tellsApart_availability (decoder : Decoder) :
    decoder.TellsApart .availability decoder.available (.availability true) decoder.unavailable
      (.availability false) :=
  tellsApart_of_decode (by simp) fun _ => rfl

theorem tellsApart_of_ok (h : ofConfig config = .ok decoder) (hplain : config.valueTemplate = none) :
    decoder.TellsApart .state config.openedLiteral (.status .opened)
        config.closedLiteral (.status .closed) ∧
      decoder.TellsApart .availability config.payloadAvailable (.availability true)
        config.payloadUnavailable (.availability false) := by
  obtain ⟨-, -, htemplate⟩ := scales_of_ok h
  obtain ⟨hopened, hclosed, havailable, hunavailable⟩ := literals_of_ok h
  rw [← hopened, ← hclosed, ← havailable, ← hunavailable]
  exact ⟨tellsApart_state (htemplate.trans hplain), decoder.tellsApart_availability⟩

end Decoder

namespace Tracker

/-- The tracker of a valid configuration without a value template understands the literals of the
configuration: the ones for open and available always, the ones for closed and unavailable if and only if
they are other texts. -/
theorem literals_told_apart (hvalid : config.validate = .ok ()) (hplain : config.valueTemplate = none) :
    ∃ tracker, ofConfig config = .ok tracker ∧
      tracker.decoder.TellsApart .state config.openedLiteral (.status .opened)
        config.closedLiteral (.status .closed) ∧
      tracker.decoder.TellsApart .availability config.payloadAvailable (.availability true)
        config.payloadUnavailable (.availability false) := by
  obtain ⟨decoder, hdecoder⟩ := Decoder.ofConfig_of_valid hvalid
  exact ⟨_, ofConfig_of_decoder hdecoder, Decoder.tellsApart_of_ok hdecoder hplain⟩

/-- A gate with a literal of its own for closed only: open is told by the payload of the command. -/
theorem literals_told_apart_gate :
    let config : Config :=
      { Config.named "gate" with
        payloadOpen := "UP", stateClosed := some "", payloadAvailable := "0", payloadUnavailable := "00" }
    config.validate = .ok () ∧ config.valueTemplate = none ∧
    ∃ tracker, ofConfig config = .ok tracker ∧
      tracker.decoder.decode .state "UP" = .ok (.status .opened) ∧
      tracker.decoder.decode .state "" = .ok (.status .closed) ∧
      tracker.decoder.decode .availability "0" = .ok (.availability true) ∧
      tracker.decoder.decode .availability "00" = .ok (.availability false) := by
  intro config
  have hvalid : config.validate = .ok () := eq_ok_of_isOk (by decide +kernel)
  obtain ⟨tracker, htracker, hstate, havailability⟩ := literals_told_apart hvalid rfl
  exact ⟨hvalid, rfl, tracker, htracker, (hstate.first_iff _).2 rfl,
    (hstate.second_iff _).2 ⟨rfl, by decide⟩, (havailability.first_iff _).2 rfl,
    (havailability.second_iff _).2 ⟨rfl, by decide⟩⟩

/-- A gate with the same payload for opening and closing is never told to be closed, and one with the
same payload for both availabilities is never told to be unavailable. -/
theorem literals_shadowed :
    let config : Config :=
      { Config.named "gate" with
        payloadOpen := "MOVE", payloadClose := "MOVE"
        payloadAvailable := "here", payloadUnavailable := "here" }
    config.validate = .ok () ∧ config.valueTemplate = none ∧
    ∃ tracker, ofConfig config = .ok tracker ∧
      tracker.decoder.decode .state config.closedLiteral = .ok (.status .opened) ∧
      tracker.decoder.decode .state config.closedLiteral ≠ .ok (.status .closed) ∧
      tracker.decoder.decode .availability config.payloadUnavailable = .ok (.availability true) ∧
      tracker.decoder.decode .availability config.payloadUnavailable ≠ .ok (.availability false) := by
  intro config
  have hvalid : config.validate = .ok () := eq_ok_of_isOk (by decide +kernel)
  obtain ⟨decoder, hdecoder⟩ := Decoder.ofConfig_of_valid hvalid
  obtain ⟨hstate, havailability⟩ := Decoder.tellsApart_of_ok hdecoder rfl
  refine ⟨hvalid, rfl, _, ofConfig_of_decoder hdecoder, (hstate.first_iff _).2 rfl, fun h => ?_,
    (havailability.first_iff _).2 rfl, fun h => ?_⟩
  · exact ((hstate.second_iff _).1 h).2 rfl
  · exact ((havailability.second_iff _).1 h).2 rfl

end Tracker

end CoverControl
