import CoverControl.Listeners

/-!
# What a callback hears

The calls of one callback for the whole state, picked out of all calls that announcements lead to.
Each announcement ends with such a call, and the calls for the single changes before it are none.
-/

namespace CoverControl.Listeners
variable {listeners : Listeners} {id : Nat} {kind : Kind} {snapshot : Snapshot}

/-- The snapshot that a call of the callback with an id carries. -/
def Call.snapshotFor (id : Nat) (call : Call) : Option Snapshot :=
  match call.news with
  | .state snapshot => if call.id = id then some snapshot else none
  | _ => none

theorem idsOf_add : (listeners.add kind).1.idsOf kind = listeners.idsOf kind ++ [(listeners.add kind).2] := by
  simp [add, idsOf, List.filter_append]

theorem snapshots_tell_of_ne {news : News} (h : news.kind ≠ .state) :
    (listeners.tell news).filterMap (Call.snapshotFor id) = [] := by
  refine List.filterMap_eq_nil_iff.2 fun call hcall => ?_
  obtain ⟨i, -, rfl⟩ := List.mem_map.1 hcall
  cases news with
  | state snapshot => exact absurd rfl h
  | _ => rfl

mutual

theorem snapshots_tellChange : (change : Change) →
    (listeners.tellChange change).filterMap (Call.snapshotFor id) = []
  | .status _ | .position _ | .tilt _ | .availability _ | .attributes _ =>
    snapshots_tell_of_ne (by rintro ⟨⟩)
  | .batch changes => snapshots_tellChanges changes

theorem snapshots_tellChanges : (changes : List Change) →
    (listeners.tellChanges changes).filterMap (Call.snapshotFor id) = []
  | [] => rfl
  | change :: changes => by
    rw [tellChanges, List.filterMap_append, snapshots_tellChange change, snapshots_tellChanges changes]
    rfl

end

/-- What is announced last to a callback for the whole state is the snapshot. -/
theorem getLast?_snapshots_announce (h : id ∈ listeners.idsOf .state) (change : Change) :
    ((listeners.announce change snapshot).filterMap (Call.snapshotFor id)).getLast? = some snapshot := by
  have hall : ∀ s ∈ (listeners.tell (.state snapshot)).filterMap (Call.snapshotFor id), s = snapshot := by
    intro s hs
    obtain ⟨call, hcall, hsome⟩ := List.mem_filterMap.1 hs
    obtain ⟨i, -, rfl⟩ := List.mem_map.1 hcall
    have hsome : (if i = id then some snapshot else none) = some s := hsome
    split at hsome
    · exact (Option.some.inj hsome).symm
    · cases hsome
  have hmem : snapshot ∈ (listeners.tell (.state snapshot)).filterMap (Call.snapshotFor id) :=
    List.mem_filterMap.2 ⟨⟨id, .state snapshot⟩, List.mem_map.2 ⟨id, h, rfl⟩, if_pos rfl⟩
  rw [announce, List.filterMap_append, snapshots_tellChange, List.nil_append,
    List.getLast?_eq_some_getLast (List.ne_nil_of_mem hmem)]
  exact congrArg some (hall _ (List.getLast_mem _))

end CoverControl.Listeners
