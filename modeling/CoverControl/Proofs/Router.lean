import CoverControl.Proofs.Table

/-!
# The filters of a router

What registering, unregistering and sweeping out do to the filters that a router keeps. Registering
adds a filter, unregistering takes it out if it tells that no handler is left, and a cleanup takes
out exactly the filters that it lists. Whether handlers are live decides only which of these happens.
-/

namespace CoverControl.Router
variable {router : Router} {filter other : String} {handler : Handler}

theorem register_entries (router : Router) (filter : String) (handler : Handler) :
    ∃ handlers, (router.register filter handler).1 =
      { router with entries := Table.put filter handlers router.entries } := by
  simp only [register, put_eq]
  split <;> exact ⟨_, rfl⟩

theorem mem_filters_register : other ∈ (router.register filter handler).1.filters ↔
    other = filter ∨ other ∈ router.filters := by
  obtain ⟨handlers, h⟩ := register_entries router filter handler
  rw [h]; exact Table.mem_keys_put

theorem nodup_register (h : router.filters.Nodup) :
    (router.register filter handler).1.filters.Nodup := by
  obtain ⟨handlers, heq⟩ := register_entries router filter handler
  rw [heq]; exact Table.nodup_put h

/-- What unregistering can do: nothing, take the filter out and tell so, or set its handlers. -/
theorem unregister_cases (router : Router) (filter : String) (handler : Handler) :
    router.unregister filter handler = (router, false) ∨
    (filter ∈ router.filters ∧ router.unregister filter handler =
      ({ router with entries := router.entries.filter fun entry => entry.1 != filter }, true)) ∨
    ∃ handlers, filter ∈ router.filters ∧ router.unregister filter handler =
      ({ router with entries := Table.put filter handlers router.entries }, false) := by
  unfold unregister
  split
  · exact .inl rfl
  · rename_i handlers hlookup
    have hmem : filter ∈ router.filters :=
      Table.lookup_isSome.1 (by rw [← handlersOf, hlookup]; rfl)
    simp only [put_eq]
    split
    · exact .inr (.inl ⟨hmem, rfl⟩)
    · exact .inr (.inr ⟨_, hmem, rfl⟩)

theorem mem_filters_of_last (h : (router.unregister filter handler).2 = true) :
    filter ∈ router.filters := by
  rcases unregister_cases router filter handler with heq | ⟨hmem, -⟩ | ⟨_, hmem, -⟩
  · rw [heq] at h; cases h
  · exact hmem
  · exact hmem

theorem mem_filters_unregister : other ∈ (router.unregister filter handler).1.filters ↔
    other ∈ router.filters ∧ ¬((router.unregister filter handler).2 = true ∧ other = filter) := by
  rcases unregister_cases router filter handler with heq | ⟨-, heq⟩ | ⟨handlers, hmem, heq⟩
  · simp [heq]
  · rw [heq]
    show other ∈ (router.entries.filter fun entry => entry.1 != filter).map (·.1) ↔ _
    rw [Table.keys_filter (fun f => f != filter), List.mem_filter]
    simp [filters]
  · rw [heq]
    show other ∈ (Table.put filter handlers router.entries).map (·.1) ↔ _
    rw [Table.mem_keys_put]
    simp only [Bool.false_eq_true, false_and, not_false_eq_true, and_true]
    exact ⟨fun h => h.elim (fun h => h ▸ hmem) id, .inr⟩

theorem nodup_unregister (h : router.filters.Nodup) :
    (router.unregister filter handler).1.filters.Nodup := by
  rcases unregister_cases router filter handler with heq | ⟨-, heq⟩ | ⟨handlers, -, heq⟩
  · rw [heq]; exact h
  · rw [heq]; exact Table.nodup_filter _ h
  · rw [heq]; exact Table.nodup_put h

/-- A registration for a new filter is undone by unregistering. -/
theorem unregister_register (h : filter ∉ router.filters) :
    ((router.register filter handler).1.unregister filter handler).1 = router := by
  have hnone : router.handlersOf filter = none := Table.lookup_eq_none.2 h
  have hreg : (router.register filter handler).1 =
      { router with entries := router.entries ++ [(filter, [handler])] } := by
    simp [register, hnone, put_eq, Table.put_of_not_mem h]
  have hlookup : (router.entries ++ [(filter, [handler])]).lookup filter = some [handler] := by
    rw [← Table.put_of_not_mem h, Table.lookup_put]; simp
  have hkeep : (router.entries.filter fun entry => entry.1 != filter) = router.entries :=
    List.filter_eq_self.2 fun entry hentry => by
      simp only [bne_iff_ne, ne_eq]
      exact fun heq => h (List.mem_map.2 ⟨entry, hentry, heq⟩)
  have herase : ((router.entries ++ [(filter, [handler])]).filter fun entry => entry.1 != filter) =
      router.entries := by
    rw [List.filter_append, hkeep]; simp
  rw [hreg]
  simp only [unregister, handlersOf, hlookup, List.filter_cons, bne_self_eq_false, Bool.and_false,
    Bool.false_eq_true, ↓reduceIte, List.filter_nil, List.isEmpty_nil, herase]

theorem mem_stale : other ∈ router.cleanup.2 ↔
    ∃ handlers, (other, handlers) ∈ router.entries ∧ handlers.filter router.isLive = [] := by
  simp only [cleanup, List.mem_map, List.mem_filter, List.isEmpty_iff]
  constructor
  · rintro ⟨_, ⟨⟨⟨f, handlers⟩, hentry, rfl⟩, hnil⟩, rfl⟩
    exact ⟨handlers, hentry, hnil⟩
  · rintro ⟨handlers, hentry, hnil⟩
    exact ⟨_, ⟨⟨_, hentry, rfl⟩, hnil⟩, rfl⟩

theorem mem_filters_of_stale (h : other ∈ router.cleanup.2) : other ∈ router.filters := by
  obtain ⟨handlers, hentry, -⟩ := mem_stale.1 h
  exact List.mem_map.2 ⟨_, hentry, rfl⟩

theorem mem_filters_swept : other ∈ router.cleanup.1.filters ↔
    ∃ handlers, (other, handlers) ∈ router.entries ∧ handlers.filter router.isLive ≠ [] := by
  simp only [cleanup, filters, List.mem_map, List.mem_filter]
  constructor
  · rintro ⟨_, ⟨⟨⟨f, handlers⟩, hentry, rfl⟩, hlive⟩, rfl⟩
    exact ⟨handlers, hentry, by simpa using hlive⟩
  · rintro ⟨handlers, hentry, hlive⟩
    exact ⟨_, ⟨⟨_, hentry, rfl⟩, by simpa using hlive⟩, rfl⟩

/-- A cleanup takes out exactly the filters that it lists. -/
theorem mem_filters_cleanup (h : router.filters.Nodup) : other ∈ router.cleanup.1.filters ↔
    other ∈ router.filters ∧ other ∉ router.cleanup.2 := by
  rw [mem_filters_swept, mem_stale]
  constructor
  · rintro ⟨handlers, hentry, hlive⟩
    refine ⟨List.mem_map.2 ⟨_, hentry, rfl⟩, ?_⟩
    rintro ⟨handlers', hentry', hnil⟩
    have hsame : some handlers = some handlers' :=
      ((Table.lookup_eq_some h).2 hentry).symm.trans ((Table.lookup_eq_some h).2 hentry')
    rw [Option.some.inj hsame] at hlive
    exact hlive hnil
  · rintro ⟨hmem, hstale⟩
    obtain ⟨⟨f, handlers⟩, hentry, rfl⟩ := List.mem_map.1 hmem
    exact ⟨handlers, hentry, fun hnil => hstale ⟨handlers, hentry, hnil⟩⟩

theorem nodup_cleanup (h : router.filters.Nodup) : router.cleanup.1.filters.Nodup := by
  refine Table.nodup_filter _ ?_
  rw [List.map_map]; exact h

/-! ### Routers whose handlers are all there -/

/-- No handler is gone, and every filter has one. -/
structure Manned (router : Router) : Prop where
  gone : router.gone = []
  handlers : ∀ entry ∈ router.entries, entry.2 ≠ []

theorem Manned.isLive (h : router.Manned) (handler : Handler) : router.isLive handler = true := by
  rw [Router.isLive, h.gone]; rfl

theorem Manned.put (h : router.Manned) {handlers : List Handler} (hne : handlers ≠ []) :
    Manned { router with entries := Table.put filter handlers router.entries } := by
  refine ⟨h.gone, fun entry hentry => ?_⟩
  rcases Table.eq_or_mem_of_mem_put hentry with rfl | hentry
  · exact hne
  · exact h.handlers entry hentry

theorem Manned.register (h : router.Manned) : (router.register filter handler).1.Manned := by
  simp only [Router.register, put_eq]
  split
  · rename_i hmem
    exact h.put fun hnil => by rw [hnil] at hmem; cases hmem
  · exact h.put (by simp)

theorem Manned.unregister (h : router.Manned) : (router.unregister filter handler).1.Manned := by
  unfold Router.unregister
  split
  · exact h
  · simp only [put_eq]
    split
    · exact ⟨h.gone, fun entry hentry => h.handlers entry (List.mem_filter.1 hentry).1⟩
    · rename_i hne
      exact h.put fun hnil => hne (by rw [hnil]; rfl)

/-- Nothing is swept out. -/
theorem Manned.cleanup (h : router.Manned) : router.cleanup = (router, []) := by
  have hlive : ∀ handlers : List Handler, handlers.filter router.isLive = handlers :=
    fun _ => List.filter_eq_self.2 fun handler _ => h.isLive handler
  have hkeep : (router.entries.filter fun entry => !entry.2.isEmpty) = router.entries :=
    List.filter_eq_self.2 fun entry hentry => by simpa using h.handlers entry hentry
  have hstale : (router.entries.filter fun entry => entry.2.isEmpty) = [] :=
    List.filter_eq_nil_iff.2 fun entry hentry => by simpa using h.handlers entry hentry
  have hswept : (router.entries.map fun entry => (entry.1, entry.2.filter router.isLive)) =
      router.entries := by
    simp only [hlive]; exact List.map_id _
  simp only [Router.cleanup, hswept, hkeep, hstale, List.map_nil]

end CoverControl.Router
