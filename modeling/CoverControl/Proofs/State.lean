import CoverControl.State

/-!
# What a change alters

`State.apply` tells whether it altered the state. It may tell so of a batch that ends where it began,
but what it calls unaltered is the very same state, batches and merged attributes included. Only the
single changes of a change count: whatever none of them sets stays as it was.
-/

namespace CoverControl.State

theorem mergeAttributes_unaltered {fields attributes : Json.Object}
    (h : (mergeAttributes fields attributes).2 = false) :
    (mergeAttributes fields attributes).1 = attributes := by
  induction fields with
  | nil => rfl
  | cons field fields ih =>
    obtain ⟨key, value⟩ := field
    simp only [mergeAttributes] at h ⊢
    split at h
    · rename_i hsame
      rw [if_pos hsame]; exact ih h
    · cases h

mutual

theorem apply_unaltered {state : State} : (change : Change) → (apply change state).2 = false →
    (apply change state).1 = state
  | .status _, h | .position _, h | .tilt _, h | .availability _, h => by
    rw [apply, bne_eq_false_iff_eq] at h
    rw [apply, ← h]
  | .attributes _, h => by
    simp only [apply] at h ⊢
    rw [mergeAttributes_unaltered h]
  | .batch changes, h => by
    rw [apply] at h ⊢
    exact applyAll_unaltered changes h

theorem applyAll_unaltered {state : State} : (changes : List Change) →
    (applyAll changes state).2 = false → (applyAll changes state).1 = state
  | [], _ => rfl
  | change :: changes, h => by
    simp only [applyAll, Bool.or_eq_false_iff] at h ⊢
    have hfirst := apply_unaltered change h.1
    rw [hfirst] at h ⊢
    exact applyAll_unaltered changes h.2

end

mutual

/-- Only a single change of the availability sets it. -/
theorem available_apply : (change : Change) → (∀ available, .availability available ∉ change.leaves) →
    (state : State) → (apply change state).1.available = state.available
  | .status _, _, _ | .position _, _, _ | .tilt _, _, _ | .attributes _, _, _ => rfl
  | .availability available, h, _ => absurd (List.mem_singleton.2 rfl) (h available)
  | .batch changes, h, state => available_applyAll changes (by rwa [Change.leaves] at h) state

theorem available_applyAll : (changes : List Change) →
    (∀ available, .availability available ∉ Change.leavesOfAll changes) →
    (state : State) → (applyAll changes state).1.available = state.available
  | [], _, _ => rfl
  | change :: changes, h, state => by
    simp only [Change.leavesOfAll, List.mem_append, not_or] at h
    simp only [applyAll]
    rw [available_applyAll changes fun available => (h available).2,
      available_apply change fun available => (h available).1]

end

end CoverControl.State
