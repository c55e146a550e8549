import CoverControl.Proofs.Feedback
import CoverControl.Proofs.Json.Equality

/-!
# Changes as writes

However deeply it is nested, a change comes to single values written in turn (`Change.writes`), each to
a place of the state: one of its parts, or one of its attributes. A value that is there already is left
alone, so a change is told to alter the state exactly if it carries a value that the state lacks
(`altered_iff_lacks`), while the state that comes of it has what was written last to each place
(`has_apply`). The two come apart for a change that writes different values to one place: it can end
where it began, and it is told to alter the state each time it is made.
-/

namespace CoverControl

open Json (Object)

/-- A value for a part of the state, or for one attribute. -/
inductive Write where
  | status (status : Status)
  | position (position : Percent)
  | tilt (tilt : Percent)
  | availability (available : Bool)
  | field (key : String) (value : Json.Value)

/-- Where a value is written. -/
inductive Place where
  | status
  | position
  | tilt
  | availability
  | field (key : String)
deriving DecidableEq

namespace Write

def place : Write → Place
  | status _ => .status
  | position _ => .position
  | tilt _ => .tilt
  | availability _ => .availability
  | field key _ => .field key

/-- The same value for the same place. -/
def agrees : Write → Write → Bool
  | status s, status s' => s == s'
  | position p, position p' => p == p'
  | tilt t, tilt t' => t == t'
  | availability a, availability a' => a == a'
  | field key value, field key' value' => key == key' && value.same value'
  | _, _ => false

/-- What is written to a place last. -/
def lastAt (place : Place) : List Write → Option Write
  | [] => none
  | write :: writes => (lastAt place writes).or (if write.place = place then some write else none)

variable {write write' : Write} {writes : List Write} {place : Place}

theorem mem_of_lastAt (h : lastAt place writes = some write) : write ∈ writes ∧ write.place = place := by
  induction writes with
  | nil => cases h
  | cons first writes ih =>
    rw [lastAt, Option.or_eq_some_iff] at h
    rcases h with h | ⟨-, h⟩
    · exact ⟨List.mem_cons_of_mem first (ih h).1, (ih h).2⟩
    · split at h
      · rename_i hplace
        cases h
        exact ⟨List.mem_cons_self, hplace⟩
      · cases h

theorem exists_lastAt (h : write ∈ writes) : ∃ last, lastAt write.place writes = some last := by
  induction writes with
  | nil => cases h
  | cons first writes ih =>
    rw [lastAt]
    rcases List.mem_cons.1 h with rfl | h
    · rw [if_pos rfl]
      cases lastAt write.place writes <;> exact ⟨_, rfl⟩
    · obtain ⟨last, hlast⟩ := ih h
      exact ⟨last, by rw [hlast]; rfl⟩

end Write

namespace Change

mutual

/-- The values that a change writes, in their order. -/
def writes : Change → List Write
  | .status value => [.status value]
  | .position value => [.position value]
  | .tilt value => [.tilt value]
  | .availability value => [.availability value]
  | .attributes fields => fields.map fun (key, value) => .field key value
  | .batch changes => writesOfAll changes

def writesOfAll : List Change → List Write
  | [] => []
  | change :: changes => change.writes ++ writesOfAll changes

end

/-- Every value equals itself, which only a NaN would not. -/
def Proper (change : Change) : Prop := ∀ write ∈ change.writes, write.agrees write = true

/-- No two values for one place differ. -/
def Consistent (change : Change) : Prop :=
  ∀ write ∈ change.writes, ∀ write' ∈ change.writes,
    write.place = write'.place → write.agrees write' = true

instance (change : Change) : Decidable change.Proper :=
  inferInstanceAs (Decidable (∀ write ∈ change.writes, write.agrees write = true))

instance (change : Change) : Decidable change.Consistent :=
  inferInstanceAs (Decidable (∀ write ∈ change.writes, ∀ write' ∈ change.writes,
    write.place = write'.place → write.agrees write' = true))

theorem Consistent.proper {change : Change} (h : change.Consistent) : change.Proper :=
  fun write hwrite => h write hwrite write hwrite rfl

end Change

namespace State
variable {state later : State} {write write' : Write} {writes writes' : List Write}

/-- Equality of states; attributes are compared as JSON values. -/
def same (state later : State) : Bool :=
  state.status == later.status && state.position == later.position && state.tilt == later.tilt &&
    state.available == later.available && Json.sameFields state.attributes later.attributes

/-- Whether a state has a value in its place. -/
def has (state : State) : Write → Bool
  | .status status => state.status == status
  | .position position => state.position == some position
  | .tilt tilt => state.tilt == some tilt
  | .availability available => state.available == available
  | .field key value => state.attributes.has key value

/-- Puts a value in its place. -/
def put (state : State) : Write → State
  | .status status => { state with status := status }
  | .position position => { state with position := some position }
  | .tilt tilt => { state with tilt := some tilt }
  | .availability available => { state with available := available }
  | .field key value => { state with attributes := state.attributes.insert key value }

/-- Writes values in turn, and tells whether the state lacked one of them in its turn. -/
def writeAll : List Write → State → State × Bool
  | [], state => (state, false)
  | write :: writes, state =>
    if state.has write then writeAll writes state else ((writeAll writes (state.put write)).1, true)

/-! ### A change is its writes -/

theorem writeAll_append : writeAll (writes ++ writes') state =
    ((writeAll writes' (writeAll writes state).1).1,
      (writeAll writes state).2 || (writeAll writes' (writeAll writes state).1).2) := by
  induction writes generalizing state with
  | nil => rfl
  | cons write writes ih =>
    rw [List.cons_append, writeAll, writeAll]
    split
    · exact ih
    · rw [ih]; rfl

theorem writeAll_singleton (hput : state.has write = true → state.put write = state) :
    writeAll [write] state = (state.put write, !state.has write) := by
  rw [writeAll, writeAll, writeAll]
  cases hhas : state.has write with
  | true => rw [if_pos rfl, hput hhas]; rfl
  | false => rw [if_neg Bool.false_ne_true]; rfl

theorem mergeAttributes_eq_writeAll (fields : Object) (state : State) :
    ({ state with attributes := (mergeAttributes fields state.attributes).1 },
      (mergeAttributes fields state.attributes).2) =
      writeAll (fields.map fun (key, value) => .field key value) state := by
  induction fields generalizing state with
  | nil => rfl
  | cons field fields ih =>
    obtain ⟨key, value⟩ := field
    have hhas : state.has (.field key value) = (state.attributes.get? key).any (·.same value) := rfl
    rw [List.map_cons, writeAll, mergeAttributes, hhas]
    split
    · exact ih state
    · rw [← ih]; rfl

mutual

theorem apply_eq_writeAll : (change : Change) → (state : State) →
    apply change state = writeAll change.writes state
  | .status _, _ | .position _, _ | .tilt _, _ | .availability _, _ => by
    rw [Change.writes, writeAll_singleton]
    · rfl
    · intro h
      rw [has, beq_iff_eq] at h
      rw [put, ← h]
  | .attributes fields, state => mergeAttributes_eq_writeAll fields state
  | .batch changes, state => by rw [apply, Change.writes]; exact applyAll_eq_writeAll changes state

theorem applyAll_eq_writeAll : (changes : List Change) → (state : State) →
    applyAll changes state = writeAll (Change.writesOfAll changes) state
  | [], _ => rfl
  | change :: changes, state => by
    rw [Change.writesOfAll, writeAll_append, ← apply_eq_writeAll change, ← applyAll_eq_writeAll changes]
    rfl

end

/-! ### What a state has -/

theorem has_put : (state.put write).has write' =
    if write.place = write'.place then write.agrees write' else state.has write' := by
  cases write <;> cases write' <;> first | rfl | skip
  rename_i key value key' value'
  simp only [has, put, Write.place, Write.agrees, Object.has, Object.get?_insert, Place.field.injEq]
  by_cases hkey : key = key'
  · rw [if_pos hkey, if_pos hkey, hkey, beq_self_eq_true]; rfl
  · rw [if_neg hkey, if_neg hkey]

/-- A state that has a value has what equals it, and nothing else in its place. -/
theorem has_of_has (h : state.has write = true) (hplace : write.place = write'.place) :
    state.has write' = write.agrees write' := by
  cases write <;> cases write' <;> cases hplace
  case field.field.refl key value value' =>
    obtain ⟨v, hget, hsame⟩ := Object.has_iff.1 h
    rw [has, Object.has, hget, Write.agrees, beq_self_eq_true, Bool.true_and]
    exact Json.Value.same_congr hsame value'
  all_goals
    rw [has, beq_iff_eq] at h
    rw [has, h]; rfl

/-- What is written last decides. -/
theorem has_writeAll : (writeAll writes state).1.has write =
    ((Write.lastAt write.place writes).map (·.agrees write)).getD (state.has write) := by
  induction writes generalizing state with
  | nil => rfl
  | cons first writes ih =>
    have hput : (if state.has first then state else state.put first).has write =
        if first.place = write.place then first.agrees write else state.has write := by
      split <;> rename_i hhas
      · split <;> rename_i hplace
        · exact has_of_has hhas hplace
        · rfl
      · exact has_put
    have hcons : (writeAll (first :: writes) state).1 =
        (writeAll writes (if state.has first then state else state.put first)).1 := by
      rw [writeAll]; split <;> rfl
    rw [hcons, ih, hput, Write.lastAt]
    cases Write.lastAt write.place writes with
    | some last => rfl
    | none => split <;> rfl

/-- What is there already is not written, so the state lacks in turn what it lacked at first. -/
theorem altered_writeAll : (writeAll writes state).2 = writes.any (!state.has ·) := by
  induction writes with
  | nil => rfl
  | cons write writes ih =>
    rw [writeAll, List.any_cons]
    split <;> rename_i hhas
    · rw [hhas, ih]; rfl
    · rw [Bool.eq_false_iff.2 hhas]; rfl

/-! ### Equal states -/

theorem regular_put (h : state.attributes.Regular) (hwrite : write.agrees write = true) :
    (state.put write).attributes.Regular := by
  cases write with
  | field key value =>
    rw [Write.agrees, Bool.and_eq_true] at hwrite
    exact h.insert hwrite.2
  | _ => exact h

/-- What each value keeps that is put in its place, all of them keep. -/
theorem writeAll_keeps (Kept : State → Prop) (h : Kept state)
    (hput : ∀ write ∈ writes, ∀ state : State, Kept state → Kept (state.put write)) :
    Kept (writeAll writes state).1 := by
  induction writes generalizing state with
  | nil => exact h
  | cons write writes ih =>
    obtain ⟨hwrite, hwrites⟩ := List.forall_mem_cons.1 hput
    rw [writeAll]
    split
    · exact ih h hwrites
    · exact ih (hwrite state h) hwrites

theorem regular_writeAll (h : state.attributes.Regular)
    (hwrites : ∀ write ∈ writes, write.agrees write = true) :
    (writeAll writes state).1.attributes.Regular :=
  writeAll_keeps (·.attributes.Regular) h fun write hwrite _ h => regular_put h (hwrites write hwrite)

/-- Two states are equal if they have the same values. -/
theorem same_iff (hstate : state.attributes.Regular) (hlater : later.attributes.Regular) :
    later.same state = true ↔ ∀ write, later.has write = state.has write := by
  constructor
  · intro h write
    simp only [same, Bool.and_eq_true, beq_iff_eq] at h
    obtain ⟨⟨⟨⟨hstatus, hposition⟩, htilt⟩, havailable⟩, hattributes⟩ := h
    cases write with
    | status => rw [has, has, hstatus]
    | position => rw [has, has, hposition]
    | tilt => rw [has, has, htilt]
    | availability => rw [has, has, havailable]
    | field key value => exact Object.has_of_same hattributes key value
  · intro h
    have hposition : later.position = state.position := Option.ext fun p => by
      simpa [has] using congrArg (· = true) (h (.position p))
    have htilt : later.tilt = state.tilt := Option.ext fun t => by
      simpa [has] using congrArg (· = true) (h (.tilt t))
    simp only [same, Bool.and_eq_true, beq_iff_eq]
    refine ⟨⟨⟨⟨?_, hposition⟩, htilt⟩, ?_⟩, ?_⟩
    · simpa [has] using h (.status state.status)
    · simpa [has] using h (.availability state.available)
    · exact Object.same_of_has hlater hstate fun key value => h (.field key value)

/-! ### What is told of a change -/

section
variable {change : Change}

/-- A change is told to alter the state if it carries a value that the state lacks. -/
theorem altered_iff_lacks : (state.apply change).2 = true ↔
    ∃ write ∈ change.writes, state.has write = false := by
  rw [apply_eq_writeAll, altered_writeAll]
  simp

theorem has_apply : (state.apply change).1.has write =
    ((Write.lastAt write.place change.writes).map (·.agrees write)).getD (state.has write) := by
  rw [apply_eq_writeAll, has_writeAll]

theorem regular_apply (h : state.attributes.Regular) (hchange : change.Proper) :
    (state.apply change).1.attributes.Regular := by
  rw [apply_eq_writeAll]; exact regular_writeAll h hchange

/-- What was written last is there. -/
theorem has_last (hchange : change.Proper) {place : Place}
    (hlast : Write.lastAt place change.writes = some write) :
    (state.apply change).1.has write = true := by
  obtain ⟨hmem, hplace⟩ := Write.mem_of_lastAt hlast
  rw [has_apply, hplace, hlast]
  exact hchange write hmem

/-- A change ends where it began if the state has what is written last. -/
theorem same_apply_iff (h : state.attributes.Regular) (hchange : change.Proper) :
    (state.apply change).1.same state = true ↔
      ∀ place write, Write.lastAt place change.writes = some write → state.has write = true := by
  rw [same_iff h (regular_apply h hchange)]
  constructor
  · intro hsame place write hlast
    rw [← hsame]
    exact has_last hchange hlast
  · intro hlast write
    rw [has_apply]
    cases hwrite : Write.lastAt write.place change.writes with
    | none => rfl
    | some last =>
      exact (has_of_has (hlast _ last hwrite) (Write.mem_of_lastAt hwrite).2).symm

/-- Made again, a change that writes different values to one place alters the state again. -/
theorem unaltered_again_iff :
    ((state.apply change).1.apply change).2 = false ↔ change.Consistent := by
  rw [← Bool.not_eq_true, altered_iff_lacks]
  constructor
  · intro h write hwrite write' hwrite' hplace
    have hhas : ∀ write ∈ change.writes, (state.apply change).1.has write = true :=
      fun write hwrite => by
        by_contra hlacks
        exact h ⟨write, hwrite, Bool.eq_false_iff.2 hlacks⟩
    rw [← has_of_has (hhas write hwrite) hplace]
    exact hhas write' hwrite'
  · rintro h ⟨write, hwrite, hlacks⟩
    obtain ⟨last, hlast⟩ := Write.exists_lastAt hwrite
    obtain ⟨hmem, hplace⟩ := Write.mem_of_lastAt hlast
    rw [has_apply, hlast] at hlacks
    exact absurd (h last hmem write hwrite hplace) (Bool.eq_false_iff.1 hlacks)

/-- Once made, a change can be made again without another state coming of it. -/
theorem same_apply_again (h : state.attributes.Regular) (hchange : change.Proper) :
    ((state.apply change).1.apply change).1.same (state.apply change).1 = true :=
  (same_apply_iff (regular_apply h hchange) hchange).2 fun _ _ hlast => has_last hchange hlast

theorem altered_iff_of_consistent (h : state.attributes.Regular) (hchange : change.Consistent) :
    (state.apply change).2 = true ↔ (state.apply change).1.same state = false := by
  rw [altered_iff_lacks, ← Bool.not_eq_true, same_apply_iff h hchange.proper]
  constructor
  · rintro ⟨write, hwrite, hlacks⟩ hlasts
    obtain ⟨last, hlast⟩ := Write.exists_lastAt hwrite
    obtain ⟨hmem, hplace⟩ := Write.mem_of_lastAt hlast
    -- The state has what is written last, so it has whatever else is written there.
    rw [has_of_has (hlasts _ last hlast) hplace, hchange last hmem write hwrite hplace] at hlacks
    cases hlacks
  · intro hlasts
    by_contra hlacks
    refine hlasts fun place write hlast => ?_
    by_contra hhas
    exact hlacks ⟨write, (Write.mem_of_lastAt hlast).1, Bool.eq_false_iff.2 hhas⟩

end

end State

/-! ### The changes of a cover -/

theorem Change.Lasting.consistent {change : Change} (h : change.Lasting) : change.Consistent :=
  State.unaltered_again_iff.1 (h (.initial true))

theorem Encoder.Assumes.lasting {encoder : Encoder} {change : Change} (h : encoder.Assumes change) :
    change.Lasting := by
  intro state
  cases h with
  | opened | closed => unfold endChange; split <;> simp [State.apply, State.applyAll]
  | position => simp [Change.positionFeedback, State.apply, State.applyAll]
  | tilt => exact bne_self_eq_false _

namespace State

/-- A change is told to alter a state if it carries a value that the state lacks, and it ends where it
began if the state has whatever is written last to a place. So it is told rightly, and told to alter
nothing when it is made again, if it does not carry two values for one place; if it does, it is told
to alter the state when it is made again, although the state stays. No feedback and no order gives
rise to such a change. -/
theorem told_rightly_iff {state : State} {change : Change} (hstate : state.attributes.Regular)
    (hchange : change.Proper) :
    let (later, altered) := state.apply change
    let (latest, alteredAgain) := later.apply change
    (altered = true ↔ ∃ write ∈ change.writes, state.has write = false) ∧
    (later.same state = true ↔
      ∀ place write, Write.lastAt place change.writes = some write → state.has write = true) ∧
    (change.Consistent → (altered = true ↔ later.same state = false)) ∧
    latest.same later = true ∧ (alteredAgain = false ↔ change.Consistent) ∧
    (∀ (decoder : Decoder) (channel : Channel) (payload : String),
      decoder.decode channel payload = .ok change → change.Consistent) ∧
    ∀ (encoder : Encoder) (command : Command) (order : Order),
      encoder.encode command = .ok order → order.assumed = some change → change.Consistent :=
  ⟨altered_iff_lacks, same_apply_iff hstate hchange, altered_iff_of_consistent hstate,
    same_apply_again hstate hchange, unaltered_again_iff,
    fun _ _ _ hdecode => (Decoder.lasting_of_decode hdecode).consistent,
    fun _ _ _ hencode hassumed => (Encoder.assumes_of_encode hencode hassumed).lasting.consistent⟩

/-- A door is closed and opened again, and a count that it has gets a new value. -/
theorem told_rightly_iff_door :
    let state : State :=
      { State.initial true with status := .opened, attributes := [("count", .number (.int 1))] }
    let change : Change :=
      .batch [.status .closed, .batch [.status .opened, .attributes [("count", .number (.int 2))]]]
    state.attributes.Regular ∧ change.Proper ∧
    let (later, altered) := state.apply change
    let (latest, alteredAgain) := later.apply change
    altered = true ∧ latest.same later = true ∧ alteredAgain = true := by
  intro state change
  have hstate : state.attributes.Regular := Object.regular_nil.insert rfl
  have hchange : change.Proper := by decide
  obtain ⟨haltered, -, -, hsame, hagain, -⟩ := told_rightly_iff hstate hchange
  have hlacks : ∃ write ∈ change.writes, state.has write = false := by decide
  refine ⟨hstate, hchange, haltered.2 hlacks, hsame, ?_⟩
  exact Bool.eq_true_of_not_eq_false fun h => absurd (hagain.1 h) (by decide)

/-- A door is opened and forgotten: nothing comes of it, neither at first nor when it is made again,
but both times it is told to alter the state. -/
theorem told_falsely :
    let state := State.initial true
    let change : Change := .batch [.status .opened, .status .unknown]
    let (later, altered) := state.apply change
    let (latest, alteredAgain) := later.apply change
    altered = true ∧ later = state ∧ alteredAgain = true ∧ latest = later :=
  ⟨rfl, rfl, rfl, rfl⟩

end State

end CoverControl
