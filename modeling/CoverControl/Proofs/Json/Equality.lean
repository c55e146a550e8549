import CoverControl.Proofs.Json.Object

/-!
# Equal values

Numbers are compared numerically, so a NaN equals nothing, but equality is symmetric and transitive
all the same. Two objects whose keys ascend are equal exactly if they have equal values under the
same keys.
-/

namespace CoverControl

namespace Binary64
variable {x y z : Binary64}

theorem eq_iff : x.eq y = true ↔ ∃ key, x.orderKey = some key ∧ y.orderKey = some key := by
  rw [eq]
  cases x.orderKey with
  | none => simp
  | some a =>
    cases y.orderKey with
    | none => simp
    | some b => simpa using eq_comm

theorem eq_symm (h : x.eq y = true) : y.eq x = true := by
  obtain ⟨key, hx, hy⟩ := eq_iff.1 h
  exact eq_iff.2 ⟨key, hy, hx⟩

theorem eq_trans (h : x.eq y = true) (h' : y.eq z = true) : x.eq z = true := by
  obtain ⟨key, hx, hy⟩ := eq_iff.1 h
  obtain ⟨key', hy', hz⟩ := eq_iff.1 h'
  rw [hy, Option.some.injEq] at hy'
  exact eq_iff.2 ⟨key, hx, hy' ▸ hz⟩

end Binary64

namespace Json

theorem Number.same_symm {a b : Number} (h : a.same b = true) : b.same a = true := by
  cases a <;> cases b <;> first | cases h | exact Binary64.eq_symm h | exact BEq.comm.trans h

theorem Number.same_trans {a b c : Number} (h : a.same b = true) (h' : b.same c = true) :
    a.same c = true := by
  cases a <;> cases b <;> first | cases h | skip
  · rwa [beq_iff_eq.1 h]
  · cases c with
    | int c => cases h'
    | float c => exact Binary64.eq_trans h h'

mutual

theorem Value.same_symm : (a : Value) → {b : Value} → a.same b = true → b.same a = true
  | .null, b, h => by cases b <;> first | rfl | cases h
  | .bool a, b, h | .string a, b, h => by cases b <;> first | cases h | exact BEq.comm.trans h
  | .number a, b, h => by cases b <;> first | cases h | exact Number.same_symm h
  | .array as, b, h => by cases b <;> first | cases h | exact sameItems_symm as h
  | .object as, b, h => by cases b <;> first | cases h | exact sameFields_symm as h

theorem sameItems_symm : (as : List Value) → {bs : List Value} → sameItems as bs = true →
    sameItems bs as = true
  | [], [], _ => rfl
  | [], _ :: _, h | _ :: _, [], h => by cases h
  | a :: as, b :: bs, h => by
    simp only [sameItems, Bool.and_eq_true] at h ⊢
    exact ⟨a.same_symm h.1, sameItems_symm as h.2⟩

theorem sameFields_symm : (as : List (String × Value)) → {bs : List (String × Value)} →
    sameFields as bs = true → sameFields bs as = true
  | [], [], _ => rfl
  | [], _ :: _, h | _ :: _, [], h => by cases h
  | (k, a) :: as, (l, b) :: bs, h => by
    simp only [sameFields, Bool.and_eq_true, beq_iff_eq] at h ⊢
    exact ⟨⟨h.1.1.symm, a.same_symm h.1.2⟩, sameFields_symm as h.2⟩

end

mutual

theorem Value.same_trans : (a : Value) → {b c : Value} → a.same b = true → b.same c = true →
    a.same c = true
  | .null, b, c, h, h' => by cases b <;> first | exact h' | cases h
  | .bool a, b, c, h, h' | .string a, b, c, h, h' => by
    cases b <;> first | cases h | rwa [beq_iff_eq.1 h]
  | .number a, b, c, h, h' => by
    cases b <;> first | cases h | skip
    cases c <;> first | cases h' | exact Number.same_trans h h'
  | .array as, b, c, h, h' => by
    cases b <;> first | cases h | skip
    cases c <;> first | cases h' | exact sameItems_trans as h h'
  | .object as, b, c, h, h' => by
    cases b <;> first | cases h | skip
    cases c <;> first | cases h' | exact sameFields_trans as h h'

theorem sameItems_trans : (as : List Value) → {bs cs : List Value} → sameItems as bs = true →
    sameItems bs cs = true → sameItems as cs = true
  | [], [], _, _, h' => h'
  | [], _ :: _, _, h, _ | _ :: _, [], _, h, _ => by cases h
  | _ :: _, _ :: _, [], _, h' => by cases h'
  | a :: as, b :: bs, c :: cs, h, h' => by
    simp only [sameItems, Bool.and_eq_true] at h h' ⊢
    exact ⟨a.same_trans h.1 h'.1, sameItems_trans as h.2 h'.2⟩

theorem sameFields_trans : (as : List (String × Value)) → {bs cs : List (String × Value)} →
    sameFields as bs = true → sameFields bs cs = true → sameFields as cs = true
  | [], [], _, _, h' => h'
  | [], _ :: _, _, h, _ | _ :: _, [], _, h, _ => by cases h
  | _ :: _, _ :: _, [], _, h' => by cases h'
  | (k, a) :: as, (l, b) :: bs, (m, c) :: cs, h, h' => by
    simp only [sameFields, Bool.and_eq_true, beq_iff_eq] at h h' ⊢
    exact ⟨⟨h.1.1.trans h'.1.1, a.same_trans h.1.2 h'.1.2⟩, sameFields_trans as h.2 h'.2⟩

end

theorem Value.same_congr {a b : Value} (h : a.same b = true) (value : Value) :
    a.same value = b.same value := by
  rw [Bool.eq_iff_iff]
  exact ⟨same_trans b (same_symm a h), same_trans a h⟩

/-! ### Objects -/

namespace Object
variable {object other : Object} {key k l : String} {value a b : Value}

/-- Whether the value under a key equals the given one. -/
def has (object : Object) (key : String) (value : Value) : Bool :=
  (object.get? key).any (·.same value)

theorem has_iff : object.has key value = true ↔ ∃ v, object.get? key = some v ∧ v.same value = true := by
  rw [has, Option.any_eq_true]

theorem has_cons : has ((k, a) :: object) key value =
    if k = key then a.same value else object.has key value := by
  rw [has, get?]
  split <;> rfl

theorem mem_keys_of_has (h : object.has key value = true) : key ∈ object.keys := by
  induction object with
  | nil => cases h
  | cons field object ih =>
    obtain ⟨k, a⟩ := field
    rw [has_cons] at h
    split at h
    · rename_i heq
      exact heq ▸ List.mem_cons_self
    · exact List.mem_cons_of_mem k (ih h)

theorem has_of_same (h : sameFields object other = true) (key : String) (value : Value) :
    object.has key value = other.has key value := by
  induction object generalizing other with
  | nil =>
    cases other with
    | nil => rfl
    | cons field other => cases h
  | cons field object ih =>
    obtain ⟨k, a⟩ := field
    cases other with
    | nil => cases h
    | cons field other =>
      obtain ⟨l, b⟩ := field
      simp only [sameFields, Bool.and_eq_true, beq_iff_eq] at h
      obtain ⟨⟨rfl, hsame⟩, hrest⟩ := h
      rw [has_cons, has_cons, ih hrest]
      split
      · exact Value.same_congr hsame value
      · rfl

theorem Ordered.first_le (h : Ordered ((k, a) :: object)) (hkey : key ∈ keys ((k, a) :: object)) :
    k ≤ key := by
  rcases List.mem_cons.1 hkey with rfl | hkey
  · exact le_refl key
  · obtain ⟨field, hfield, rfl⟩ := List.mem_map.1 hkey
    exact le_of_lt ((ordered_cons.1 h).1 field hfield)

theorem Regular.tail {field : String × Value} (h : Regular (field :: object)) : object.Regular :=
  ⟨(ordered_cons.1 h.ordered).2, (List.forall_mem_cons.1 h.same).2⟩

theorem Regular.has_first (h : Regular ((k, a) :: object)) : has ((k, a) :: object) k a = true := by
  rw [has_cons, if_pos rfl]
  exact h.same (k, a) List.mem_cons_self

/-- The rest of an object has nothing under its first key. -/
theorem Regular.not_has_tail (h : Regular ((k, a) :: object)) : object.has k value = false := by
  refine Bool.eq_false_iff.2 fun hhas => ?_
  exact (List.nodup_cons.1 h.ordered.nodup).1 (mem_keys_of_has hhas)

theorem same_of_has (hobject : object.Regular) (hother : other.Regular)
    (h : ∀ key value, object.has key value = other.has key value) : sameFields object other = true := by
  induction object generalizing other with
  | nil =>
    cases other with
    | nil => rfl
    | cons field other => cases (h field.1 field.2).trans hother.has_first
  | cons field object ih =>
    obtain ⟨k, a⟩ := field
    have hfirst : other.has k a = true := (h k a).symm.trans hobject.has_first
    cases other with
    | nil => cases hfirst
    | cons field other =>
      obtain ⟨l, b⟩ := field
      have hfirst' : has ((k, a) :: object) l b = true := (h l b).trans hother.has_first
      -- Each of the two first keys is in the other object, and not before its first key.
      obtain rfl : k = l := le_antisymm (hobject.ordered.first_le (mem_keys_of_has hfirst'))
        (hother.ordered.first_le (mem_keys_of_has hfirst))
      rw [has_cons, if_pos rfl] at hfirst'
      have hrest : sameFields object other = true := by
        refine ih hobject.tail hother.tail fun key value => ?_
        by_cases hkey : k = key
        · subst hkey
          rw [hobject.not_has_tail, hother.not_has_tail]
        · have hsame := h key value
          rwa [has_cons, has_cons, if_neg hkey, if_neg hkey] at hsame
      simp [sameFields, hfirst', hrest]

end Object

end Json

end CoverControl
