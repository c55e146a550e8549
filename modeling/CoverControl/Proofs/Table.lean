import CoverControl.Mqtt.Session

/-!
# Tables by filter

Routers and sessions keep what they know of filters in lists of pairs, each filter once. Both set an
entry in the same way, `Table.put`; entries are removed by a `filter` on the keys. The lemmas say
what a look-up finds afterwards and which filters are keys.
-/

namespace CoverControl

namespace Table
variable {α : Type} {table : List (String × α)} {filter other f : String} {value v : α}

/-- Sets the value of a filter in its place; a new filter goes to the end. -/
def put (filter : String) (value : α) : List (String × α) → List (String × α)
  | [] => [(filter, value)]
  | (f, v) :: table => if f = filter then (filter, value) :: table else (f, v) :: put filter value table

theorem lookup_cons : ((f, v) :: table).lookup filter =
    if filter = f then some v else table.lookup filter := by
  by_cases h : filter = f
  · simp [h]
  · rw [List.lookup_cons, beq_eq_false_iff_ne.2 h]; simp [h]

theorem lookup_isSome : (table.lookup filter).isSome ↔ filter ∈ table.map (·.1) := by
  induction table with
  | nil => simp
  | cons entry table ih =>
    obtain ⟨f, v⟩ := entry
    rw [lookup_cons, List.map_cons, List.mem_cons, ← ih]
    split <;> simp [*]

theorem lookup_eq_none : table.lookup filter = none ↔ filter ∉ table.map (·.1) := by
  rw [← lookup_isSome, Option.not_isSome_iff_eq_none]

theorem lookup_put : (put filter value table).lookup other =
    if other = filter then some value else table.lookup other := by
  induction table with
  | nil => simp only [put, lookup_cons]
  | cons entry table ih =>
    obtain ⟨f, v⟩ := entry
    by_cases hf : f = filter
    · subst hf
      simp only [put, ↓reduceIte, lookup_cons]
      split <;> rfl
    · simp only [put, hf, ↓reduceIte, lookup_cons, ih]
      by_cases h : other = f
      · have hne : other ≠ filter := fun heq => hf (h.symm.trans heq)
        simp only [h, ↓reduceIte, h ▸ hne]
      · simp only [h, ↓reduceIte]

theorem keys_put : (put filter value table).map (·.1) =
    if filter ∈ table.map (·.1) then table.map (·.1) else table.map (·.1) ++ [filter] := by
  induction table with
  | nil => simp [put]
  | cons entry table ih =>
    obtain ⟨f, v⟩ := entry
    by_cases hf : f = filter
    · simp [put, hf]
    · have hf' : filter ≠ f := Ne.symm hf
      simp only [put, hf, ↓reduceIte, List.map_cons, ih, List.mem_cons, hf', false_or]
      split <;> simp

theorem put_of_not_mem (h : filter ∉ table.map (·.1)) : put filter value table = table ++ [(filter, value)] := by
  induction table with
  | nil => rfl
  | cons entry table ih =>
    obtain ⟨f, v⟩ := entry
    rw [List.map_cons, List.mem_cons, not_or] at h
    simp only [put, Ne.symm h.1, ↓reduceIte, ih h.2, List.cons_append]

theorem mem_keys_put : other ∈ (put filter value table).map (·.1) ↔
    other = filter ∨ other ∈ table.map (·.1) := by
  rw [keys_put]
  split
  · exact ⟨.inr, fun h => h.elim (fun heq => heq ▸ ‹_›) id⟩
  · rw [List.mem_append, List.mem_singleton, or_comm]

theorem eq_or_mem_of_mem_put {entry : String × α} (h : entry ∈ put filter value table) :
    entry = (filter, value) ∨ entry ∈ table := by
  induction table with
  | nil => exact .inl (List.mem_singleton.1 h)
  | cons first table ih =>
    obtain ⟨f, v⟩ := first
    rw [put] at h
    split at h
    · rcases List.mem_cons.1 h with h | h
      · exact .inl h
      · exact .inr (List.mem_cons_of_mem _ h)
    · rcases List.mem_cons.1 h with h | h
      · exact .inr (h ▸ List.mem_cons_self)
      · exact (ih h).imp id (List.mem_cons_of_mem _)

theorem nodup_put (h : (table.map (·.1)).Nodup) : ((put filter value table).map (·.1)).Nodup := by
  rw [keys_put]
  split
  · exact h
  · rename_i hnew
    refine List.nodup_append.2 ⟨h, by simp, fun g hg g' hg' heq => hnew ?_⟩
    rwa [← List.mem_singleton.1 hg', ← heq]

theorem lookup_filter (p : String → Bool) : (table.filter fun entry => p entry.1).lookup filter =
    if p filter then table.lookup filter else none := by
  induction table with
  | nil => simp
  | cons entry table ih =>
    obtain ⟨f, v⟩ := entry
    by_cases hp : p f
    · rw [List.filter_cons_of_pos (by exact hp), lookup_cons, lookup_cons, ih]
      split
      · simp only [‹filter = f›, hp, ↓reduceIte]
      · rfl
    · rw [List.filter_cons_of_neg (by exact hp), ih, lookup_cons]
      split
      · rename_i hpf
        have hne : filter ≠ f := fun heq => hp (heq ▸ hpf)
        simp only [hne, ↓reduceIte]
      · rfl

theorem keys_filter (p : String → Bool) :
    (table.filter fun entry => p entry.1).map (·.1) = (table.map (·.1)).filter p := by
  rw [List.filter_map]; rfl

theorem nodup_filter (p : String × α → Bool) (h : (table.map (·.1)).Nodup) :
    ((table.filter p).map (·.1)).Nodup :=
  h.sublist (List.filter_sublist.map _)

theorem lookup_eq_some (h : (table.map (·.1)).Nodup) :
    table.lookup filter = some value ↔ (filter, value) ∈ table := by
  induction table with
  | nil => simp
  | cons entry table ih =>
    obtain ⟨f, v⟩ := entry
    obtain ⟨hf, hnd⟩ := List.nodup_cons.1 h
    rw [lookup_cons, List.mem_cons, ← ih hnd, Prod.mk.injEq]
    by_cases heq : filter = f
    · have hnone : table.lookup filter = none := lookup_eq_none.2 (heq ▸ hf)
      simp [heq, heq ▸ hnone, eq_comm]
    · simp [heq]

end Table

theorem Router.put_eq (filter : String) (handlers : List Handler)
    (entries : List (String × List Handler)) :
    Router.put filter handlers entries = Table.put filter handlers entries := by
  induction entries with
  | nil => rfl
  | cons entry entries ih => simp only [Router.put, Table.put, ih]

theorem Mqtt.Session.putQos_eq (filter : String) (qos : Qos) (table : List (String × Qos)) :
    Mqtt.Session.putQos filter qos table = Table.put filter qos table := by
  induction table with
  | nil => rfl
  | cons entry table ih => simp only [Mqtt.Session.putQos, Table.put, ih]

end CoverControl
