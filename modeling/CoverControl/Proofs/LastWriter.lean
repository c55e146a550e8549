import CoverControl.Proofs.Writes

/-!
# The last one counts

A change does what its single changes do one after the other, so its nesting does not matter
(`applyAll_leaves`), and of the single changes that set a part of the state the last one counts
(`part_overwritten`). Attributes are the exception: a value that equals the old one leaves it as it is
(`renew`), so what is left there is only known up to equality. Still, a change that is made again leaves
the very same state, zeros of either sign included (`foldl_renew_again`).
-/

namespace CoverControl

open Json (Object Value)

namespace Change

/-! ### What single changes say -/

def status? : Change → Option Status
  | .status value => some value
  | _ => none

def position? : Change → Option Percent
  | .position value => some value
  | _ => none

def tilt? : Change → Option Percent
  | .tilt value => some value
  | _ => none

def available? : Change → Option Bool
  | .availability value => some value
  | _ => none

/-- The attribute under a key. -/
def field? (key : String) : Change → Option Value
  | .attributes fields => fields.get? key
  | _ => none

/-- What the last of the single changes says that says anything. -/
def last {α : Type} (said : Change → Option α) (change : Change) : Option α :=
  (change.leaves.filterMap said).getLast?

/-- All attributes are objects as a text holds them: each key once, in order, and no NaN. -/
def Regular (change : Change) : Prop := ∀ fields, .attributes fields ∈ change.leaves → fields.Regular

theorem Regular.same_of_mem {change : Change} (h : change.Regular) {key : String} {value : Value}
    (hmem : value ∈ change.leaves.filterMap (field? key)) : value.same value = true := by
  obtain ⟨leaf, hleaf, hvalue⟩ := List.mem_filterMap.1 hmem
  cases leaf with
  | attributes fields =>
    have hfields := h fields hleaf
    exact hfields.same _ ((Object.mem_iff_get? hfields.ordered.nodup).2 hvalue)
  | _ => cases hvalue

def Single : Change → Prop
  | .batch _ => False
  | _ => True

mutual

theorem single_of_mem_leaves {leaf : Change} : (change : Change) → leaf ∈ change.leaves → leaf.Single
  | .status _, h | .position _, h | .tilt _, h | .availability _, h | .attributes _, h => by
    rw [List.mem_singleton.1 h]; trivial
  | .batch changes, h => by
    rw [leaves] at h
    exact single_of_mem_leavesOfAll changes h

theorem single_of_mem_leavesOfAll {leaf : Change} : (changes : List Change) →
    leaf ∈ leavesOfAll changes → leaf.Single
  | [], h => by cases h
  | change :: changes, h => by
    rw [leavesOfAll, List.mem_append] at h
    exact h.elim (single_of_mem_leaves change) (single_of_mem_leavesOfAll changes)

end

end Change

namespace State
variable {state : State} {change : Change} {changes : List Change}

/-! ### Nesting -/

theorem applyAll_append (changes changes' : List Change) (state : State) :
    applyAll (changes ++ changes') state =
      ((applyAll changes' (applyAll changes state).1).1,
        (applyAll changes state).2 || (applyAll changes' (applyAll changes state).1).2) := by
  induction changes generalizing state with
  | nil => rfl
  | cons change changes ih => simp only [List.cons_append, applyAll, ih, Bool.or_assoc]

theorem applyAll_singleton (change : Change) (state : State) :
    applyAll [change] state = apply change state := by
  simp [applyAll]

mutual

theorem applyAll_leaves : (change : Change) → (state : State) →
    applyAll change.leaves state = apply change state
  | .status _, _ | .position _, _ | .tilt _, _ | .availability _, _ | .attributes _, _ =>
    applyAll_singleton _ _
  | .batch changes, state => by
    rw [Change.leaves, apply]
    exact applyAll_leavesOfAll changes state

theorem applyAll_leavesOfAll : (changes : List Change) → (state : State) →
    applyAll (Change.leavesOfAll changes) state = applyAll changes state
  | [], _ => rfl
  | change :: changes, state => by
    rw [Change.leavesOfAll, applyAll_append, applyAll_leaves change, applyAll_leavesOfAll changes]
    rfl

end

/-! ### Parts of the state -/

/-- What is left in a part of the state, if each single change either leaves it alone or steps it on by
what it says. -/
theorem part_apply {α β : Type} (part : State → β) (said : Change → Option α) (step : β → α → β)
    (hstep : ∀ leaf ∈ change.leaves, ∀ state : State,
      part (state.apply leaf).1 = (said leaf).elim (part state) (step (part state))) :
    part (state.apply change).1 = (change.leaves.filterMap said).foldl step (part state) := by
  rw [← applyAll_leaves]
  generalize change.leaves = leaves at hstep
  induction leaves generalizing state with
  | nil => rfl
  | cons leaf leaves ih =>
    obtain ⟨hleaf, hleaves⟩ := List.forall_mem_cons.1 hstep
    rw [applyAll, ih hleaves, hleaf, List.filterMap_cons]
    cases said leaf <;> rfl

theorem foldl_overwrite {α β : Type} (f : α → β) (values : List α) (old : β) :
    values.foldl (fun _ value => f value) old = (values.getLast?.map f).getD old := by
  induction values generalizing old with
  | nil => rfl
  | cons value values ih =>
    rw [List.foldl_cons, ih, List.getLast?_cons]
    cases values.getLast? <;> rfl

/-- A part that single changes overwrite. -/
theorem part_overwritten {α β : Type} (part : State → β) (said : Change → Option α) (f : α → β)
    (hsaid : ∀ leaf : Change, leaf.Single → ∀ state : State,
      part (state.apply leaf).1 = ((said leaf).map f).getD (part state)) :
    part (state.apply change).1 = ((change.last said).map f).getD (part state) := by
  rw [part_apply part said (fun _ value => f value), foldl_overwrite]
  · rfl
  · intro leaf hleaf state
    rw [hsaid leaf (Change.single_of_mem_leaves change hleaf)]
    cases said leaf <;> rfl

theorem status_apply :
    (state.apply change).1.status = (change.last Change.status?).getD state.status := by
  rw [part_overwritten State.status Change.status? id, Option.map_id]
  · rfl
  · intro leaf hleaf _
    cases leaf with
    | batch => exact hleaf.elim
    | _ => rfl

theorem position_apply :
    (state.apply change).1.position = (change.last Change.position?).or state.position := by
  rw [part_overwritten State.position Change.position? some]
  · cases change.last Change.position? <;> rfl
  · intro leaf hleaf _
    cases leaf with
    | batch => exact hleaf.elim
    | _ => rfl

theorem tilt_apply : (state.apply change).1.tilt = (change.last Change.tilt?).or state.tilt := by
  rw [part_overwritten State.tilt Change.tilt? some]
  · cases change.last Change.tilt? <;> rfl
  · intro leaf hleaf _
    cases leaf with
    | batch => exact hleaf.elim
    | _ => rfl

theorem availability_apply :
    (state.apply change).1.available = (change.last Change.available?).getD state.available := by
  rw [part_overwritten State.available Change.available? id, Option.map_id]
  · rfl
  · intro leaf hleaf _
    cases leaf with
    | batch => exact hleaf.elim
    | _ => rfl

/-! ### Attributes -/

/-- What is left of an attribute that is given a value. -/
def renew (old : Option Value) (value : Value) : Option Value :=
  if old.any (·.same value) then old else some value

theorem get?_mergeAttributes_eq {fields attributes : Object} {key : String} (hnodup : fields.keys.Nodup) :
    (mergeAttributes fields attributes).1.get? key =
      (fields.get? key).elim (attributes.get? key) (renew (attributes.get? key)) := by
  induction fields generalizing attributes with
  | nil => rfl
  | cons field fields ih =>
    obtain ⟨k, value⟩ := field
    obtain ⟨hk, hnodup⟩ := List.nodup_cons.1 hnodup
    rw [mergeAttributes, Object.get?]
    by_cases hkey : k = key
    · subst hkey
      rw [if_pos rfl, Option.elim, renew]
      split
      · exact get?_mergeAttributes hk
      · exact (get?_mergeAttributes hk).trans (by rw [Object.get?_insert, if_pos rfl])
    · rw [if_neg hkey]
      split
      · exact ih hnodup
      · rw [ih hnodup, Object.get?_insert, if_neg hkey]

theorem attribute_apply (hchange : change.Regular) (key : String) :
    (state.apply change).1.attributes.get? key =
      (change.leaves.filterMap (Change.field? key)).foldl renew (state.attributes.get? key) := by
  refine part_apply (fun state => state.attributes.get? key) _ _ fun leaf hleaf state => ?_
  cases leaf with
  | batch => exact (Change.single_of_mem_leaves change hleaf).elim
  | attributes fields => exact get?_mergeAttributes_eq (hchange fields hleaf).ordered.nodup
  | _ => rfl

theorem foldl_renew_last {values : List Value} {old : Option Value} {value : Value}
    (hlast : values.getLast? = some value) (hsame : value.same value = true) :
    (values.foldl renew old).any (·.same value) = true := by
  obtain ⟨init, rfl⟩ := List.getLast?_eq_some_iff.1 hlast
  rw [List.foldl_append, List.foldl_cons, List.foldl_nil, renew]
  split
  · assumption
  · exact hsame

/-- Two equal values are both left alone, or the same comes of them. -/
theorem foldl_renew_of_same {values : List Value} {a b : Value} (h : a.same b = true) :
    values.foldl renew (some a) = some a ∧ values.foldl renew (some b) = some b ∨
      values.foldl renew (some a) = values.foldl renew (some b) := by
  induction values with
  | nil => exact .inl ⟨rfl, rfl⟩
  | cons value values ih =>
    simp only [List.foldl_cons, renew, Option.any_some, Value.same_congr h value]
    split
    · exact ih
    · exact .inr rfl

/-- Renewed again by the same values, an attribute stays as it is. -/
theorem foldl_renew_again (values : List Value) (old : Option Value) :
    values.foldl renew (values.foldl renew old) = values.foldl renew old := by
  induction values generalizing old with
  | nil => rfl
  | cons value values ih =>
    rw [List.foldl_cons, List.foldl_cons]
    by_cases hlater : (values.foldl renew (renew old value)).any (·.same value) = true
    · rw [renew, if_pos hlater, ih]
    · rw [renew, if_neg hlater]
      by_cases hold : old.any (·.same value) = true
      · obtain ⟨a, rfl, hsame⟩ := (Option.any_eq_true _ _).1 hold
        rw [renew, if_pos hold] at hlater ⊢
        -- The old value was not left alone, so the same comes of the one that equals it.
        rcases foldl_renew_of_same hsame with ⟨halone, -⟩ | heq
        · rw [halone] at hlater
          exact absurd hold hlater
        · exact heq.symm
      · rw [renew, if_neg hold]

theorem attribute_of_last (hchange : change.Regular) (key : String) :
    match change.last (Change.field? key) with
    | some value => (state.apply change).1.attributes.has key value = true
    | none => (state.apply change).1.attributes.get? key = state.attributes.get? key := by
  split
  · rename_i value hlast
    rw [Object.has, attribute_apply hchange]
    exact foldl_renew_last hlast (hchange.same_of_mem (List.mem_of_getLast? hlast))
  · rename_i hnone
    rw [attribute_apply hchange, List.getLast?_eq_none_iff.1 hnone, List.foldl_nil]

theorem isSome_foldl_renew {values : List Value} {old : Option Value} (h : old.isSome = true) :
    (values.foldl renew old).isSome = true := by
  induction values generalizing old with
  | nil => exact h
  | cons value values ih =>
    refine ih ?_
    rw [renew]
    split
    · exact h
    · rfl

theorem ordered_put (h : state.attributes.Ordered) (write : Write) :
    (state.put write).attributes.Ordered := by
  cases write with
  | field key value => exact h.insert
  | _ => exact h

theorem ordered_apply (h : state.attributes.Ordered) : (state.apply change).1.attributes.Ordered := by
  rw [apply_eq_writeAll]
  exact writeAll_keeps (·.attributes.Ordered) h fun write _ _ h => ordered_put h write

/-! ### The whole change -/

/-- Made again, a change leaves the very same state. -/
theorem apply_again (h : state.attributes.Ordered) (hchange : change.Regular) :
    ((state.apply change).1.apply change).1 = (state.apply change).1 := by
  refine eq_of_sameIn fun aspect => ?_
  cases aspect with
  | status =>
    simp only [SameIn, status_apply]
    cases change.last Change.status? <;> rfl
  | position =>
    simp only [SameIn, position_apply]
    cases change.last Change.position? <;> rfl
  | tilt =>
    simp only [SameIn, tilt_apply]
    cases change.last Change.tilt? <;> rfl
  | availability =>
    simp only [SameIn, availability_apply]
    cases change.last Change.available? <;> rfl
  | attributes =>
    refine (ordered_apply (ordered_apply h)).ext (ordered_apply h) fun key => ?_
    simp only [attribute_apply hchange, foldl_renew_again]

/-- Of the single changes that set a part of the state the last one counts, and what none of them sets
stays. Under each key the attributes have a value that equals the last one for it, or else the old one,
and no key is lost. So a batch does what its halves do in turn, changes with the same single changes do
the same, and a change that is made again leaves the very same state. -/
theorem last_writer_wins (hstate : state.attributes.Ordered) (hchange : change.Regular) :
    let later := (state.apply change).1
    later.status = (change.last Change.status?).getD state.status ∧
    later.position = (change.last Change.position?).or state.position ∧
    later.tilt = (change.last Change.tilt?).or state.tilt ∧
    later.available = (change.last Change.available?).getD state.available ∧
    (∀ key, match change.last (Change.field? key) with
      | some value => later.attributes.has key value = true
      | none => later.attributes.get? key = state.attributes.get? key) ∧
    (∀ key ∈ state.attributes.keys, key ∈ later.attributes.keys) ∧
    (∀ changes changes' : List Change,
      let (middle, altered) := state.apply (.batch changes)
      let (latest, alteredLater) := middle.apply (.batch changes')
      state.apply (.batch (changes ++ changes')) = (latest, altered || alteredLater)) ∧
    (∀ change' : Change, change'.leaves = change.leaves → state.apply change' = state.apply change) ∧
    (later.apply change).1 = later := by
  intro later
  refine ⟨status_apply, position_apply, tilt_apply, availability_apply, fun key => ?_, fun key hkey => ?_,
    fun changes changes' => applyAll_append changes changes' state, fun change' hleaves => ?_,
    apply_again hstate hchange⟩
  · exact attribute_of_last hchange key
  · rw [← Object.isSome_get?] at hkey ⊢
    rw [attribute_apply hchange]
    exact isSome_foldl_renew hkey
  · rw [← applyAll_leaves, hleaves, applyAll_leaves]

/-- A gate is closed and opened again, and a zero load of it becomes a negative zero. -/
theorem last_writer_wins_gate :
    let zero : Object := [("load", .number (.float (.finite false 0)))]
    let negativeZero : Value := .number (.float (.finite true 0))
    let state : State := { State.initial true with attributes := zero }
    let change : Change :=
      .batch [.status .closed, .batch [.attributes [("load", negativeZero)], .status .opened]]
    let later := (state.apply change).1
    state.attributes.Ordered ∧ change.Regular ∧ later.status = .opened ∧ later.position = none ∧
      later.attributes.has "load" negativeZero = true ∧ "load" ∈ later.attributes.keys ∧
      state.apply (.batch [.batch [.status .closed], .attributes [("load", negativeZero)],
        .batch [.status .opened]]) = state.apply change ∧
      (later.apply change).1 = later := by
  intro zero negativeZero state change later
  have hstate : state.attributes.Ordered := List.pairwise_singleton ..
  have hchange : change.Regular := by
    intro fields hfields
    obtain rfl : fields = [("load", negativeZero)] := by
      simpa [change, Change.leaves, Change.leavesOfAll] using hfields
    exact Object.regular_nil.insert rfl
  obtain ⟨hstatus, hposition, -, -, hattributes, hkeys, -, hnesting, hagain⟩ :=
    last_writer_wins hstate hchange
  exact ⟨hstate, hchange, hstatus, hposition, hattributes "load", hkeys "load" (List.mem_singleton.2 rfl),
    hnesting _ rfl, hagain⟩

end State

end CoverControl
