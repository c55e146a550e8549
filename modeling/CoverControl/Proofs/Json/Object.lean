import CoverControl.Json.Value
import Mathlib.Data.List.Nodup
import Mathlib.Data.String.Basic

/-!
# Objects

An object that a text holds is `Regular`: its keys ascend, so each occurs once, and its values equal
themselves, which only a NaN would prevent. `Object.insert` keeps it so, and `Object.ofList` makes
it so of any fields with such values. What is looked up after an insertion does not depend on the
order of the keys.
-/

namespace CoverControl.Json

namespace Object
variable {key : String} {value : Value} {object : Object} {field : String × Value}

/-! ### Insertion -/

theorem get?_insert (key : String) (value : Value) (object : Object) (other : String) :
    (object.insert key value).get? other =
      if key = other then some value else object.get? other := by
  induction object with
  | nil => rfl
  | cons field object ih =>
    obtain ⟨k, v⟩ := field
    rw [insert]
    split
    · rfl
    split
    · rename_i heq
      subst heq
      simp only [get?]
      split <;> rfl
    · rename_i hne
      simp only [get?, ih]
      by_cases hk : k = other
      · rw [if_pos hk, if_pos hk, if_neg fun h => hne (hk.trans h.symm)]
      · rw [if_neg hk, if_neg hk]

theorem mem_insert (h : field ∈ object.insert key value) : field = (key, value) ∨ field ∈ object := by
  induction object with
  | nil => exact .inl (List.mem_singleton.1 h)
  | cons head object ih =>
    obtain ⟨k, v⟩ := head
    rw [insert] at h
    split at h
    · exact (List.mem_cons.1 h)
    split at h
    · exact (List.mem_cons.1 h).imp_right (List.mem_cons_of_mem _)
    · rcases List.mem_cons.1 h with rfl | h
      · exact .inr List.mem_cons_self
      · exact (ih h).imp_right (List.mem_cons_of_mem _)

/-- The keys ascend. -/
def Ordered (object : Object) : Prop := object.keys.Pairwise (· < ·)

theorem ordered_cons : Ordered (field :: object) ↔ (∀ f ∈ object, field.1 < f.1) ∧ object.Ordered := by
  simp [Ordered, keys]

theorem Ordered.insert (h : object.Ordered) : (object.insert key value).Ordered := by
  induction object with
  | nil => exact List.pairwise_singleton ..
  | cons field object ih =>
    obtain ⟨k, v⟩ := field
    obtain ⟨hfirst, hrest⟩ := ordered_cons.1 h
    rw [Object.insert]
    split
    · rename_i hlt
      refine ordered_cons.2 ⟨fun f hf => ?_, h⟩
      rcases List.mem_cons.1 hf with rfl | hf
      · exact hlt
      · exact lt_trans hlt (hfirst f hf)
    split
    · rename_i heq
      exact ordered_cons.2 ⟨fun f hf => heq ▸ hfirst f hf, hrest⟩
    · rename_i hnot hne
      refine ordered_cons.2 ⟨fun f hf => ?_, ih hrest⟩
      rcases mem_insert hf with rfl | hf
      · exact lt_of_le_of_ne (not_lt.1 hnot) hne
      · exact hfirst f hf

theorem Ordered.nodup (h : object.Ordered) : object.keys.Nodup := h.imp fun hlt => hlt.ne

/-! ### Looking up -/

theorem get?_eq_none : object.get? key = none ↔ key ∉ object.keys := by
  induction object with
  | nil => simp [get?, keys]
  | cons field object ih =>
    obtain ⟨k, v⟩ := field
    rw [keys] at ih
    rw [get?, keys, List.map_cons, List.mem_cons, not_or, ← ih]
    split
    · rename_i heq
      simp [heq]
    · rename_i hne
      exact (and_iff_right (Ne.symm hne)).symm

theorem isSome_get? : (object.get? key).isSome = true ↔ key ∈ object.keys := by
  rw [Option.isSome_iff_ne_none, ne_eq, get?_eq_none, not_not]

theorem mem_iff_get? (h : object.keys.Nodup) : (key, value) ∈ object ↔ object.get? key = some value := by
  induction object with
  | nil => simp [get?]
  | cons field object ih =>
    obtain ⟨k, v⟩ := field
    obtain ⟨hk, hnodup⟩ := List.nodup_cons.1 h
    rw [List.mem_cons, get?, ih hnodup]
    split
    · rename_i heq
      subst heq
      simp [get?_eq_none.2 hk, eq_comm]
    · rename_i hne
      simp [Ne.symm hne]

/-- Objects with ascending keys are the same if the same is looked up in them. -/
theorem Ordered.ext {other : Object} (h : object.Ordered) (h' : other.Ordered)
    (hget : ∀ key, object.get? key = other.get? key) : object = other := by
  have hperm : object.Perm other := by
    refine (List.perm_ext_iff_of_nodup (.of_map _ h.nodup) (.of_map _ h'.nodup)).2 ?_
    rintro ⟨key, value⟩
    rw [mem_iff_get? h.nodup, mem_iff_get? h'.nodup, hget]
  have hanti : ∀ field field' : String × Value, field ∈ object → field' ∈ other →
      field.1 < field'.1 → field'.1 < field.1 → field = field' :=
    fun _ _ _ _ hlt hlt' => absurd hlt (lt_asymm hlt')
  exact hperm.eq_of_pairwise hanti (List.pairwise_map.1 h) (List.pairwise_map.1 h')

/-! ### Regular objects -/

/-- The keys ascend, and every value equals itself. -/
structure Regular (object : Object) : Prop where
  ordered : object.Ordered
  same : ∀ field ∈ object, field.2.same field.2 = true

theorem regular_nil : Regular [] := ⟨List.Pairwise.nil, nofun⟩

theorem Regular.insert (h : object.Regular) (hvalue : value.same value = true) :
    (object.insert key value).Regular := by
  refine ⟨h.ordered.insert, fun field hmem => ?_⟩
  rcases mem_insert hmem with rfl | hmem
  · exact hvalue
  · exact h.same field hmem

theorem regular_ofList {fields : List (String × Value)}
    (h : ∀ field ∈ fields, field.2.same field.2 = true) : (ofList fields).Regular :=
  List.foldlRecOn fields _ regular_nil fun _ hobject field hmem => hobject.insert (h field hmem)

end Object

/-! ### Regular values -/

theorem sameItems_self {items : List Value} (h : ∀ item ∈ items, item.same item = true) :
    sameItems items items = true := by
  induction items with
  | nil => rfl
  | cons item items ih =>
    rw [List.forall_mem_cons] at h
    rw [sameItems, h.1, ih h.2]; rfl

theorem sameFields_self {fields : List (String × Value)}
    (h : ∀ field ∈ fields, field.2.same field.2 = true) : sameFields fields fields = true := by
  induction fields with
  | nil => rfl
  | cons field fields ih =>
    rw [List.forall_mem_cons] at h
    simp [sameFields, h.1, ih h.2]

/-- A value that equals itself; an object is regular. -/
def Value.Regular : Value → Prop
  | .object fields => Object.Regular fields
  | value => value.same value = true

theorem Value.Regular.same {value : Value} (h : value.Regular) : value.same value = true := by
  cases value with
  | object fields => exact sameFields_self (Object.Regular.same h)
  | _ => exact h

end CoverControl.Json
