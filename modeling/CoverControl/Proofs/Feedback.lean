import CoverControl.Proofs.Aspects
import CoverControl.Proofs.Changes
import CoverControl.Proofs.Json.Reading

/-!
# Feedback

What a payload means on a channel does not depend on the state, so all that is to know about feedback
is what its change does. It lasts: made again at once it alters nothing (`lasting_of_decode`), also
if it merges attributes, since the object of a payload has each key once and no NaN. And it sets the
parts of the state that belong to its channel, and no others, so feedback on channels without a
common part may come in either order.
-/

namespace CoverControl

open Json (Object)

/-! ### Merging attributes again -/

namespace State
variable {fields attributes : Object}

/-- The attributes have each of the fields. -/
def Holds (attributes fields : Object) : Prop :=
  ∀ field ∈ fields, (attributes.get? field.1).any (·.same field.2) = true

theorem mergeAttributes_of_holds (h : Holds attributes fields) :
    (mergeAttributes fields attributes).2 = false := by
  induction fields with
  | nil => rfl
  | cons field fields ih =>
    obtain ⟨hfield, hfields⟩ := List.forall_mem_cons.1 h
    rw [mergeAttributes, if_pos hfield]
    exact ih hfields

theorem get?_mergeAttributes {key : String} (h : key ∉ fields.keys) :
    (mergeAttributes fields attributes).1.get? key = attributes.get? key := by
  induction fields generalizing attributes with
  | nil => rfl
  | cons field fields ih =>
    rw [Object.keys, List.map_cons, List.mem_cons, not_or] at h
    obtain ⟨hne, hkeys⟩ := h
    rw [mergeAttributes]
    split
    · exact ih hkeys
    · rw [ih hkeys, Object.get?_insert, if_neg (Ne.symm hne)]

theorem holds_mergeAttributes (hnodup : fields.keys.Nodup)
    (hsame : ∀ field ∈ fields, field.2.same field.2 = true) (attributes : Object) :
    Holds (mergeAttributes fields attributes).1 fields := by
  induction fields generalizing attributes with
  | nil => exact nofun
  | cons field fields ih =>
    obtain ⟨key, value⟩ := field
    obtain ⟨hkey, hnodup⟩ := List.nodup_cons.1 hnodup
    obtain ⟨hvalue, hsame⟩ := List.forall_mem_cons.1 hsame
    rw [mergeAttributes]
    -- The fields after the first one have other keys, so its value stays.
    split
    · rename_i hold
      refine List.forall_mem_cons.2 ⟨?_, ih hnodup hsame _⟩
      rw [get?_mergeAttributes hkey]; exact hold
    · refine List.forall_mem_cons.2 ⟨?_, ih hnodup hsame _⟩
      rw [get?_mergeAttributes hkey, Object.get?_insert, if_pos rfl]; exact hvalue

end State

/-! ### Changes that last -/

/-- Made again at once, the change alters nothing. -/
def Change.Lasting (change : Change) : Prop :=
  ∀ state : State, ((state.apply change).1.apply change).2 = false

/-- A change that lasts alters the state exactly if another state comes of it. -/
theorem Change.Lasting.altered_iff {change : Change} (h : change.Lasting) (state : State) :
    (state.apply change).2 = true ↔ (state.apply change).1 ≠ state := by
  constructor
  · intro haltered hsame
    have hagain := h state
    rw [hsame, haltered] at hagain
    cases hagain
  · intro hne
    by_contra haltered
    exact hne (State.apply_unaltered change (Bool.eq_false_iff.2 haltered))

theorem Decoder.regular_of_decode {decoder : Decoder} {payload : String} {fields : Object}
    (h : decoder.decode .attributes payload = .ok (.attributes fields)) : fields.Regular := by
  obtain ⟨fields', hobject, heq⟩ := map_eq_ok.1 h
  cases heq
  unfold object at hobject
  split at hobject
  · rename_i hparse
    cases hobject
    exact Json.regular_of_parse hparse
  · cases hobject
  · cases hobject

theorem Decoder.lasting_of_decode {decoder : Decoder} {channel : Channel} {payload : String}
    {change : Change} (h : decoder.decode channel payload = .ok change) : change.Lasting := by
  intro state
  cases carries_of_decode h with
  | status | tilt | availability => exact bne_self_eq_false _
  | position =>
    simp [Change.positionFeedback, State.apply, State.applyAll]
  | attributes fields =>
    have hregular := regular_of_decode h
    exact State.mergeAttributes_of_holds
      (State.holds_mergeAttributes hregular.ordered.nodup hregular.same state.attributes)

/-! ### Receiving payloads -/

namespace Tracker
variable {decoder : Decoder} {state : State} {channel channel' : Channel} {payload payload' : String}
  {change change' : Change} {fault : PayloadFault}

theorem handle_of_error (h : decoder.decode channel payload = .error fault) :
    handle ⟨decoder, state⟩ channel payload = .error fault := by
  rw [handle, h]; rfl

theorem handle_of_ok (h : decoder.decode channel payload = .ok change) :
    handle ⟨decoder, state⟩ channel payload =
      .ok (⟨decoder, (state.apply change).1⟩, (state.apply change).2) := by
  rw [handle, h]; rfl

/-- What is handled again at once alters nothing. -/
theorem handle_again {tracker later : Tracker} {altered : Bool}
    (h : tracker.handle channel payload = .ok (later, altered)) :
    later.handle channel payload = .ok (later, false) := by
  obtain ⟨decoder, state⟩ := tracker
  cases hdecode : decoder.decode channel payload with
  | error fault => rw [handle_of_error hdecode] at h; cases h
  | ok change =>
    rw [handle_of_ok hdecode] at h
    cases h
    have hunaltered := Decoder.lasting_of_decode hdecode state
    rw [handle_of_ok hdecode, hunaltered, State.apply_unaltered change hunaltered]

/-- Handles a payload, and says what came of it; one that cannot be decoded is dropped. -/
def receive (tracker : Tracker) (channel : Channel) (payload : String) :
    Except PayloadFault Bool × Tracker :=
  match tracker.handle channel payload with
  | .error fault => (.error fault, tracker)
  | .ok (later, altered) => (.ok altered, later)

theorem receive_of_error (h : decoder.decode channel payload = .error fault) :
    receive ⟨decoder, state⟩ channel payload = (.error fault, ⟨decoder, state⟩) := by
  rw [receive, handle_of_error h]

theorem receive_of_ok (h : decoder.decode channel payload = .ok change) :
    receive ⟨decoder, state⟩ channel payload =
      (.ok (state.apply change).2, ⟨decoder, (state.apply change).1⟩) := by
  rw [receive, handle_of_ok h]

end Tracker

/-! ### Channels without a common part -/

/-- The parts of the state that a channel reports. -/
def Channel.aspects : Channel → List Aspect
  | .state => [.status]
  | .position => [.position, .status]
  | .tilt => [.tilt]
  | .availability => [.availability]
  | .attributes => [.attributes]

/-- Two channels that do not both report the status. -/
def Channel.Apart (channel channel' : Channel) : Prop :=
  channel ≠ channel' ∧ ¬(channel = .state ∧ channel' = .position) ∧
    ¬(channel = .position ∧ channel' = .state)

theorem Channel.Carries.aspects_eq {channel : Channel} {change : Change}
    (h : channel.Carries change) : change.aspects = channel.aspects := by
  cases h <;> simp [Change.positionFeedback, Change.aspects, Change.aspectsOfAll, Channel.aspects]

theorem Channel.Apart.disjoint {channel channel' : Channel} (h : channel.Apart channel') :
    channel.aspects.Disjoint channel'.aspects := by
  cases channel <;> cases channel' <;> simp_all [Apart, aspects]

theorem Channel.Apart.symm {channel channel' : Channel} (h : channel.Apart channel') :
    channel'.Apart channel :=
  ⟨h.1.symm, fun ⟨h₁, h₂⟩ => h.2.2 ⟨h₂, h₁⟩, fun ⟨h₁, h₂⟩ => h.2.1 ⟨h₂, h₁⟩⟩

theorem Channel.Apart.disjoint_of_decode {channel channel' : Channel} {decoder : Decoder}
    {payload payload' : String} {change change' : Change} (h : channel.Apart channel')
    (hdecode : decoder.decode channel payload = .ok change)
    (hdecode' : decoder.decode channel' payload' = .ok change') :
    change.aspects.Disjoint change'.aspects := by
  rw [(Decoder.carries_of_decode hdecode).aspects_eq, (Decoder.carries_of_decode hdecode').aspects_eq]
  exact h.disjoint

namespace Tracker
variable {channel channel' : Channel}

theorem decoder_receive (tracker : Tracker) (channel : Channel) (payload : String) :
    (tracker.receive channel payload).2.decoder = tracker.decoder := by
  obtain ⟨decoder, state⟩ := tracker
  cases hdecode : decoder.decode channel payload with
  | error fault => rw [receive_of_error hdecode]
  | ok change => rw [receive_of_ok hdecode]

theorem receive_frame (tracker : Tracker) (payload : String) {aspect : Aspect}
    (h : aspect ∉ channel.aspects) :
    State.SameIn aspect (tracker.receive channel payload).2.state tracker.state := by
  obtain ⟨decoder, state⟩ := tracker
  cases hdecode : decoder.decode channel payload with
  | error fault => rw [receive_of_error hdecode]; exact .refl aspect state
  | ok change =>
    rw [receive_of_ok hdecode]
    refine State.apply_frame change ?_
    rwa [(Decoder.carries_of_decode hdecode).aspects_eq]

/-- What is said of a payload does not depend on another one before it. -/
theorem result_receive (h : channel.Apart channel') (tracker : Tracker) (payload payload' : String) :
    ((tracker.receive channel payload).2.receive channel' payload').1 =
      (tracker.receive channel' payload').1 := by
  obtain ⟨decoder, state⟩ := tracker
  cases hdecode : decoder.decode channel payload with
  | error fault => rw [receive_of_error hdecode]
  | ok change =>
    rw [receive_of_ok hdecode]
    cases hdecode' : decoder.decode channel' payload' with
    | error fault' => rw [receive_of_error hdecode', receive_of_error hdecode']
    | ok change' =>
      have hdisjoint := h.symm.disjoint_of_decode hdecode' hdecode
      rw [receive_of_ok hdecode', receive_of_ok hdecode', State.altered_of_disjoint hdisjoint]

theorem receive_comm (h : channel.Apart channel') (tracker : Tracker) (payload payload' : String) :
    ((tracker.receive channel payload).2.receive channel' payload').2 =
      ((tracker.receive channel' payload').2.receive channel payload).2 := by
  obtain ⟨decoder, state⟩ := tracker
  cases hdecode : decoder.decode channel payload with
  | error fault =>
    cases hdecode' : decoder.decode channel' payload' with
    | error fault' => simp only [receive_of_error hdecode, receive_of_error hdecode']
    | ok change' => simp only [receive_of_error hdecode, receive_of_ok hdecode']
  | ok change =>
    cases hdecode' : decoder.decode channel' payload' with
    | error fault' => simp only [receive_of_ok hdecode, receive_of_error hdecode']
    | ok change' =>
      have hdisjoint := h.disjoint_of_decode hdecode hdecode'
      simp only [receive_of_ok hdecode, receive_of_ok hdecode', State.apply_comm hdisjoint]

/-- A payload sets the parts of the state that its channel reports, and nothing else. Payloads on two
channels that do not both report the status come to the same in either order: the same is said of
each, and the same tracker comes of them. -/
theorem feedback_commutes (tracker : Tracker) :
    (∀ (channel : Channel) (payload : String),
      let later := (tracker.receive channel payload).2
      later.decoder = tracker.decoder ∧
      ∀ aspect ∉ channel.aspects, State.SameIn aspect later.state tracker.state) ∧
    ∀ channel channel' : Channel, channel.Apart channel' → ∀ payload payload' : String,
      let first := tracker.receive channel payload
      let second := tracker.receive channel' payload'
      (first.2.receive channel' payload').1 = second.1 ∧
      (second.2.receive channel payload).1 = first.1 ∧
      (first.2.receive channel' payload').2 = (second.2.receive channel payload).2 := by
  refine ⟨fun channel payload => ⟨decoder_receive tracker channel payload, fun aspect h => ?_⟩,
    fun channel channel' h payload payload' => ⟨?_, ?_, ?_⟩⟩
  · exact receive_frame tracker payload h
  · exact result_receive h tracker payload payload'
  · exact result_receive h.symm tracker payload' payload
  · exact receive_comm h tracker payload payload'

/-- A blind is told a position and an attribute. -/
theorem feedback_commutes_blind :
    let config := { Config.named "blind" with positionTopic := some "p", attributesTopic := some "p" }
    let field := "\x7b\"k\": 0.5\x7d"
    ∃ tracker, Tracker.ofConfig config = .ok tracker ∧
      Aspect.tilt ∉ Channel.position.aspects ∧ Channel.position.Apart .attributes ∧
      let first := tracker.receive .position "40"
      let second := tracker.receive .attributes field
      State.SameIn .tilt first.2.state tracker.state ∧
      first.1 = .ok true ∧ second.1 = .ok true ∧
      (first.2.receive .attributes field).1 = .ok true ∧
      (second.2.receive .position "40").1 = .ok true ∧
      (first.2.receive .attributes field).2 = (second.2.receive .position "40").2 := by
  intro config field
  have hvalid : config.validate = .ok () := eq_ok_of_isOk (by decide +kernel)
  obtain ⟨decoder, hdecoder⟩ := Decoder.ofConfig_of_valid hvalid
  have htracker := Tracker.ofConfig_of_decoder hdecoder
  have hresults : (Tracker.ofConfig config).map (fun tracker =>
      ((tracker.receive .position "40").1, (tracker.receive .attributes field).1)) =
      .ok (.ok true, .ok true) := by decide +kernel
  rw [htracker] at hresults
  obtain ⟨hfirst, hsecond⟩ := Prod.mk.inj (Except.ok.inj hresults)
  obtain ⟨hframe, hcommutes⟩ := feedback_commutes ⟨decoder, .initial config.availabilityTopic.isNone⟩
  have hapart : Channel.position.Apart .attributes := ⟨by decide, by decide, by decide⟩
  obtain ⟨hafter, hafter', hsame⟩ := hcommutes .position .attributes hapart "40" field
  exact ⟨_, htracker, by decide, hapart, (hframe .position "40").2 .tilt (by decide), hfirst, hsecond,
    hafter.trans hsecond, hafter'.trans hfirst, hsame⟩

end Tracker

end CoverControl
