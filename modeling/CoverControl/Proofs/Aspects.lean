import CoverControl.Proofs.State
import Mathlib.Data.List.Basic

/-!
# Parts of a state

A state has five parts. A change sets some of them (`Change.aspects`) and leaves the others alone
(`apply_frame`); what it makes of a part depends on that part only (`apply_congr`), and whether it
alters the state on the parts that it sets (`altered_congr`). So changes that set different parts
do not notice each other: they can be made in either order (`apply_comm`).
-/

namespace CoverControl

/-- A part of a state. -/
inductive Aspect where
  | status
  | position
  | tilt
  | availability
  | attributes
deriving DecidableEq, Repr

namespace Change

mutual

/-- The parts that a change sets. -/
def aspects : Change → List Aspect
  | .status _ => [.status]
  | .position _ => [.position]
  | .tilt _ => [.tilt]
  | .availability _ => [.availability]
  | .attributes _ => [.attributes]
  | .batch changes => aspectsOfAll changes

def aspectsOfAll : List Change → List Aspect
  | [] => []
  | change :: changes => change.aspects ++ aspectsOfAll changes

end

end Change

namespace State
variable {aspect : Aspect} {state state' : State}

/-- Two states have a part in common. -/
def SameIn (aspect : Aspect) (state state' : State) : Prop :=
  match aspect with
  | .status => state.status = state'.status
  | .position => state.position = state'.position
  | .tilt => state.tilt = state'.tilt
  | .availability => state.available = state'.available
  | .attributes => state.attributes = state'.attributes

theorem SameIn.refl (aspect : Aspect) (state : State) : SameIn aspect state state := by
  cases aspect <;> rfl

theorem SameIn.symm (h : SameIn aspect state state') : SameIn aspect state' state := by
  cases aspect <;> exact Eq.symm h

theorem SameIn.trans {state'' : State} (h : SameIn aspect state state')
    (h' : SameIn aspect state' state'') : SameIn aspect state state'' := by
  cases aspect <;> exact Eq.trans h h'

/-- The parts make up the state. -/
theorem eq_of_sameIn (h : ∀ aspect, SameIn aspect state state') : state = state' := by
  cases state
  cases state'
  cases h .status; cases h .position; cases h .tilt; cases h .availability; cases h .attributes
  rfl

/-! ### What a change has to do with a part -/

mutual

theorem apply_frame {state : State} : (change : Change) → aspect ∉ change.aspects →
    SameIn aspect (apply change state).1 state
  | .status _, h | .position _, h | .tilt _, h | .availability _, h | .attributes _, h => by
    -- The part is the one that is set, against `h`, or another one, which is as before.
    cases aspect <;> first | rfl | exact absurd (List.mem_singleton.2 rfl) h
  | .batch changes, h => by
    rw [Change.aspects] at h
    exact applyAll_frame changes h

theorem applyAll_frame {state : State} : (changes : List Change) →
    aspect ∉ Change.aspectsOfAll changes → SameIn aspect (applyAll changes state).1 state
  | [], _ => .refl aspect state
  | change :: changes, h => by
    rw [Change.aspectsOfAll, List.mem_append, not_or] at h
    exact (applyAll_frame changes h.2).trans (apply_frame change h.1)

end

mutual

theorem apply_congr {state state' : State} (h : SameIn aspect state state') : (change : Change) →
    SameIn aspect (apply change state).1 (apply change state').1
  | .status _ | .position _ | .tilt _ | .availability _ => by
    cases aspect <;> first | rfl | exact h
  | .attributes fields => by
    cases aspect with
    | attributes => exact congrArg (fun attributes => (mergeAttributes fields attributes).1) h
    | _ => exact h
  | .batch changes => applyAll_congr h changes

theorem applyAll_congr {state state' : State} (h : SameIn aspect state state') :
    (changes : List Change) → SameIn aspect (applyAll changes state).1 (applyAll changes state').1
  | [] => h
  | change :: changes => applyAll_congr (apply_congr h change) changes

end

mutual

theorem altered_congr {state state' : State} : (change : Change) →
    (∀ aspect ∈ change.aspects, SameIn aspect state state') →
    (apply change state).2 = (apply change state').2
  | .status status, h => congrArg (· != status) (h .status (List.mem_singleton.2 rfl))
  | .position position, h => congrArg (· != some position) (h .position (List.mem_singleton.2 rfl))
  | .tilt tilt, h => congrArg (· != some tilt) (h .tilt (List.mem_singleton.2 rfl))
  | .availability available, h =>
    congrArg (· != available) (h .availability (List.mem_singleton.2 rfl))
  | .attributes fields, h =>
    congrArg (fun attributes => (mergeAttributes fields attributes).2)
      (h .attributes (List.mem_singleton.2 rfl))
  | .batch changes, h => by
    rw [Change.aspects] at h
    exact alteredAll_congr changes h

theorem alteredAll_congr {state state' : State} : (changes : List Change) →
    (∀ aspect ∈ Change.aspectsOfAll changes, SameIn aspect state state') →
    (applyAll changes state).2 = (applyAll changes state').2
  | [], _ => rfl
  | change :: changes, h => by
    rw [Change.aspectsOfAll, List.forall_mem_append] at h
    simp only [applyAll]
    rw [altered_congr change h.1,
      alteredAll_congr changes fun aspect hmem => apply_congr (h.2 aspect hmem) change]

end

/-! ### Changes of different parts -/

section
variable {change change' : Change}

/-- Whether a change alters the state does not depend on changes of other parts before it. -/
theorem altered_of_disjoint (h : change.aspects.Disjoint change'.aspects) (state : State) :
    (apply change (apply change' state).1).2 = (apply change state).2 :=
  altered_congr change fun _ hmem => apply_frame change' fun hmem' => h hmem hmem'

theorem apply_comm (h : change.aspects.Disjoint change'.aspects) (state : State) :
    (apply change (apply change' state).1).1 = (apply change' (apply change state).1).1 := by
  refine eq_of_sameIn fun aspect => ?_
  -- At most one of the two changes sets the part.
  by_cases hmem : aspect ∈ change.aspects
  · have hmem' : aspect ∉ change'.aspects := fun hmem' => h hmem hmem'
    exact (apply_congr (apply_frame change' hmem') change).trans (apply_frame change' hmem').symm
  · exact (apply_frame change hmem).trans (apply_congr (apply_frame change hmem).symm change')

end

end State

end CoverControl
