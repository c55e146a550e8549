import CoverControl.Proofs.Router
import Mathlib.Data.Finset.Card
import Mathlib.Data.Finset.SDiff
import Mathlib.Data.List.Nodup

/-!
# Who listens to what

A router stands for a plain relation between filters and handlers (`Listening`): handlers that are
gone linger in its entries, but whatever can be observed depends only on those that are live. Each
operation does to the relation what its name says (`Represents.perform`), and a message goes to the
handlers that the relation has for its topic, once for each pair. Whoever subscribes and unsubscribes
as the router tells him keeps exactly its filters.
-/

namespace CoverControl

namespace Router

/-- What can happen to a router. -/
inductive Act where
  | register (filter : String) (handler : Handler)
  | unregister (filter : String) (handler : Handler)
  | drop (handler : Handler)
  | cleanup

end Router

/-- Which handler listens to which filter, and which handlers are gone. -/
structure Listening where
  pairs : Finset (String × Handler)
  gone : Finset Handler

namespace Listening

def empty : Listening := ⟨∅, ∅⟩

/-- A handler that is gone does not listen to anything any more; a cleanup alters nothing. -/
def after (listening : Listening) : Router.Act → Listening
  | .register filter handler =>
    if handler ∈ listening.gone then listening
    else { listening with pairs := insert (filter, handler) listening.pairs }
  | .unregister filter handler => { listening with pairs := listening.pairs.erase (filter, handler) }
  | .drop handler =>
    ⟨listening.pairs.filter fun pair => pair.2 ≠ handler, insert handler listening.gone⟩
  | .cleanup => listening

end Listening

namespace Router
variable {router : Router} {filter other : String} {handler h : Handler} {listening : Listening}

def perform (router : Router) : Act → Router
  | .register filter handler => (router.register filter handler).1
  | .unregister filter handler => (router.unregister filter handler).1
  | .drop handler => router.drop handler
  | .cleanup => router.cleanup.1

/-- The filters that a caller keeps who adds and removes what the router tells him to. -/
def keep (router : Router) (kept : Finset String) : Act → Finset String
  | .register filter handler =>
    if (router.register filter handler).2 then insert filter kept else kept
  | .unregister filter handler =>
    if (router.unregister filter handler).2 then kept.erase filter else kept
  | .drop _ => kept
  | .cleanup => kept \ router.cleanup.2.toFinset

/-! ### Live handlers -/

/-- The handlers of a filter that are live. -/
def listeners (router : Router) (filter : String) : List Handler :=
  ((router.handlersOf filter).getD []).filter router.isLive

theorem isLive_iff : router.isLive handler = true ↔ handler ∉ router.gone := by simp [isLive]

theorem isLive_of_mem (hmem : h ∈ router.listeners filter) : router.isLive h = true :=
  (List.mem_filter.1 hmem).2

theorem listeners_put (handlers : List Handler) :
    listeners { router with entries := Table.put filter handlers router.entries } other =
      if other = filter then handlers.filter router.isLive else router.listeners other := by
  simp only [listeners, handlersOf, Table.lookup_put]
  split <;> rfl

theorem listeners_erase :
    listeners { router with entries := router.entries.filter fun entry => entry.1 != filter } other =
      if other = filter then [] else router.listeners other := by
  have hlookup : (router.entries.filter fun entry => entry.1 != filter).lookup other =
      if other != filter then router.entries.lookup other else none :=
    Table.lookup_filter (fun f => f != filter)
  rw [listeners, handlersOf, hlookup]
  by_cases heq : other = filter
  · simp [heq]
  · rw [if_pos (bne_iff_ne.2 heq), if_neg heq]; rfl

theorem listeners_eq_nil (hnew : filter ∉ router.filters) : router.listeners filter = [] := by
  rw [listeners, handlersOf, Table.lookup_eq_none.2 hnew]; rfl

theorem listeners_of_mem {handlers : List Handler} (hunique : router.filters.Nodup)
    (hmem : (filter, handlers) ∈ router.entries) :
    router.listeners filter = handlers.filter router.isLive := by
  rw [listeners, handlersOf, (Table.lookup_eq_some hunique).2 hmem]; rfl

/-- The live handlers of a filter when one more has joined them. -/
def joined (router : Router) (filter : String) (handler : Handler) : List Handler :=
  if handler ∈ router.listeners filter then router.listeners filter
  else router.listeners filter ++ [handler]

theorem mem_joined : h ∈ router.joined filter handler ↔ h ∈ router.listeners filter ∨ h = handler := by
  unfold joined
  split
  · exact ⟨.inl, fun hmem => hmem.elim id fun heq => heq ▸ ‹_›⟩
  · rw [List.mem_append, List.mem_singleton]

theorem nodup_joined (hnodup : (router.listeners filter).Nodup) :
    (router.joined filter handler).Nodup := by
  unfold joined
  split
  · exact hnodup
  · rename_i hnew
    rw [← List.concat_eq_append]
    exact List.Nodup.concat hnew hnodup

/-- Whether the handler is live plays no part in what is told. -/
theorem register_eq (router : Router) (filter : String) (handler : Handler) :
    router.register filter handler =
      ({ router with entries := Table.put filter (router.joined filter handler) router.entries },
        (router.listeners filter).isEmpty) := by
  have hlisteners : ((router.handlersOf filter).getD []).filter router.isLive =
      router.listeners filter := rfl
  simp only [register, put_eq, hlisteners, List.contains_iff_mem, joined]
  split
  · rename_i hmem
    rw [List.isEmpty_eq_false_iff.2 (List.ne_nil_of_mem hmem)]
  · cases router.listeners filter <;> simp

theorem listeners_register : (router.register filter handler).1.listeners other =
    if other = filter then (router.joined filter handler).filter router.isLive
    else router.listeners other := by
  rw [register_eq, listeners_put]

theorem mem_listeners_register : h ∈ (router.register filter handler).1.listeners other ↔
    h ∈ router.listeners other ∨ (other = filter ∧ h = handler ∧ router.isLive handler = true) := by
  rw [listeners_register]
  split
  · rename_i heq
    subst heq
    rw [List.mem_filter, mem_joined]
    constructor
    · rintro ⟨hmem | rfl, hlive⟩
      · exact .inl hmem
      · exact .inr ⟨rfl, rfl, hlive⟩
    · rintro (hmem | ⟨-, rfl, hlive⟩)
      · exact ⟨.inl hmem, isLive_of_mem hmem⟩
      · exact ⟨.inr rfl, hlive⟩
  · simp [*]

theorem listeners_unregister : (router.unregister filter handler).1.listeners other =
    if other = filter then (router.listeners filter).filter (· != handler)
    else router.listeners other := by
  unfold unregister
  split
  · rename_i hnone
    split
    · rename_i heq
      rw [heq, listeners, hnone]; rfl
    · rfl
  · rename_i handlers hsome
    have hlisteners : router.listeners filter = handlers.filter router.isLive := by
      rw [listeners, hsome]; rfl
    have hremaining : (handlers.filter fun h => router.isLive h && h != handler) =
        (router.listeners filter).filter (· != handler) := by
      rw [hlisteners, List.filter_filter]
      simp only [Bool.and_comm]
    have hlive : ((router.listeners filter).filter (· != handler)).filter router.isLive =
        (router.listeners filter).filter (· != handler) :=
      List.filter_eq_self.2 fun h hmem => isLive_of_mem (List.mem_filter.1 hmem).1
    simp only [hremaining, put_eq]
    -- without live handlers the filter goes too, which those who look for live handlers do not see
    split
    · rename_i hempty
      rw [listeners_erase, List.isEmpty_iff.1 hempty]
    · rw [listeners_put, hlive]

theorem mem_listeners_unregister : h ∈ (router.unregister filter handler).1.listeners other ↔
    h ∈ router.listeners other ∧ ¬(other = filter ∧ h = handler) := by
  rw [listeners_unregister]
  split
  · rename_i heq
    simp [heq]
  · simp [*]

theorem listeners_drop : (router.drop handler).listeners other =
    (router.listeners other).filter (· != handler) := by
  rw [listeners, listeners, List.filter_filter]
  refine List.filter_congr fun h _ => ?_
  show (!(handler :: router.gone).contains h) = (h != handler && !router.gone.contains h)
  rw [List.contains_cons, Bool.not_or]; rfl

theorem listeners_cleanup (hunique : router.filters.Nodup) :
    router.cleanup.1.listeners other = router.listeners other := by
  by_cases hkept : other ∈ router.cleanup.1.filters
  · obtain ⟨handlers, hmem, hne⟩ := mem_filters_swept.1 hkept
    have hswept : (other, handlers.filter router.isLive) ∈ router.cleanup.1.entries := by
      refine List.mem_filter.2 ⟨List.mem_map.2 ⟨_, hmem, rfl⟩, ?_⟩
      simpa using hne
    rw [listeners_of_mem (nodup_cleanup hunique) hswept, listeners_of_mem hunique hmem]
    exact List.filter_eq_self.2 fun h hh => (List.mem_filter.1 hh).2
  · rw [listeners_eq_nil hkept]
    by_cases hmem : other ∈ router.filters
    · have hstale := not_not.1 fun hstale => hkept ((mem_filters_cleanup hunique).2 ⟨hmem, hstale⟩)
      obtain ⟨handlers, hmem, hnil⟩ := mem_stale.1 hstale
      rw [listeners_of_mem hunique hmem, hnil]
    · rw [listeners_eq_nil hmem]

/-! ### The relation -/

/-- The live pairs of a router, filter by filter. -/
def livePairs (router : Router) : List (String × Handler) :=
  router.entries.flatMap fun (filter, handlers) =>
    (handlers.filter router.isLive).map fun handler => (filter, handler)

/-- A router stands for a relation: its live handlers are those of the relation, each once. -/
structure Represents (router : Router) (listening : Listening) : Prop where
  unique : router.filters.Nodup
  once : ∀ filter, (router.listeners filter).Nodup
  gone : ∀ handler, handler ∈ listening.gone ↔ handler ∈ router.gone
  pairs : ∀ filter handler, (filter, handler) ∈ listening.pairs ↔ handler ∈ router.listeners filter

theorem represents_empty : Represents .empty .empty :=
  ⟨List.nodup_nil, fun _ => List.nodup_nil, by simp [Listening.empty, empty],
    by simp [Listening.empty, listeners, handlersOf, empty]⟩

theorem Represents.register (hrep : router.Represents listening) :
    (router.register filter handler).1.Represents (listening.after (.register filter handler)) := by
  have hgone : (router.register filter handler).1.gone = router.gone := by rw [register_eq]
  refine ⟨nodup_register hrep.unique, fun other => ?_, fun h => ?_, fun other h => ?_⟩
  · rw [listeners_register]
    split
    · exact (nodup_joined (hrep.once filter)).filter _
    · exact hrep.once other
  · rw [hgone, ← hrep.gone]
    simp only [Listening.after]
    split <;> rfl
  · rw [mem_listeners_register, ← hrep.pairs, isLive_iff, ← hrep.gone]
    simp only [Listening.after]
    split
    · simp [*]
    · simp [*, or_comm]

theorem Represents.unregister (hrep : router.Represents listening) :
    (router.unregister filter handler).1.Represents (listening.after (.unregister filter handler)) := by
  have hgone : (router.unregister filter handler).1.gone = router.gone := by
    rcases unregister_cases router filter handler with heq | ⟨-, heq⟩ | ⟨_, -, heq⟩ <;> rw [heq]
  refine ⟨nodup_unregister hrep.unique, fun other => ?_, fun h => ?_, fun other h => ?_⟩
  · rw [listeners_unregister]
    split
    · exact (hrep.once filter).filter _
    · exact hrep.once other
  · rw [hgone]; exact hrep.gone h
  · rw [listeners_unregister]
    show (other, h) ∈ listening.pairs.erase (filter, handler) ↔ _
    rw [Finset.mem_erase, hrep.pairs]
    split
    · rename_i heq
      simp [heq, and_comm]
    · simp [*]

theorem Represents.drop (hrep : router.Represents listening) :
    (router.drop handler).Represents (listening.after (.drop handler)) := by
  refine ⟨hrep.unique, fun other => ?_, fun h => ?_, fun other h => ?_⟩
  · rw [listeners_drop]
    exact (hrep.once other).filter _
  · simp [Router.drop, Listening.after, hrep.gone]
  · rw [listeners_drop]
    simp [Listening.after, hrep.pairs]

theorem Represents.perform (hrep : router.Represents listening) (act : Act) :
    (router.perform act).Represents (listening.after act) := by
  cases act with
  | register filter handler => exact hrep.register
  | unregister filter handler => exact hrep.unregister
  | drop handler => exact hrep.drop
  | cleanup =>
    have hlisteners : ∀ filter, router.cleanup.1.listeners filter = router.listeners filter :=
      fun _ => listeners_cleanup hrep.unique
    refine ⟨nodup_cleanup hrep.unique, fun filter => ?_, hrep.gone, fun filter handler => ?_⟩
    · rw [Router.perform, hlisteners]; exact hrep.once filter
    · rw [Router.perform, hlisteners]; exact hrep.pairs filter handler

/-! ### What can be observed -/

theorem mem_livePairs (hunique : router.filters.Nodup) :
    (filter, handler) ∈ router.livePairs ↔ handler ∈ router.listeners filter := by
  constructor
  · intro hmem
    obtain ⟨⟨f, handlers⟩, hentry, hpair⟩ := List.mem_flatMap.1 hmem
    obtain ⟨h, hlive, heq⟩ := List.mem_map.1 hpair
    cases heq
    rwa [listeners_of_mem hunique hentry]
  · intro hmem
    have hfilter : filter ∈ router.filters := by
      by_contra hnew
      rw [listeners_eq_nil hnew] at hmem
      cases hmem
    obtain ⟨⟨f, handlers⟩, hentry, rfl⟩ := List.mem_map.1 hfilter
    rw [listeners_of_mem hunique hentry] at hmem
    exact List.mem_flatMap.2 ⟨_, hentry, List.mem_map.2 ⟨handler, hmem, rfl⟩⟩

theorem nodup_livePairs (hrep : router.Represents listening) : router.livePairs.Nodup := by
  refine List.nodup_flatMap.2 ⟨?_, ?_⟩
  · rintro ⟨filter, handlers⟩ hentry
    have honce := hrep.once filter
    rw [listeners_of_mem hrep.unique hentry] at honce
    exact honce.map fun _ _ heq => (Prod.mk.inj heq).2
  · -- entries have different filters, so no pair is in two of them
    refine (List.pairwise_map.1 hrep.unique).imp ?_
    rintro ⟨f, hs⟩ ⟨g, hs'⟩ hne ⟨filter, handler⟩ hmem hmem'
    obtain ⟨h, -, heq⟩ := List.mem_map.1 hmem
    obtain ⟨h', -, heq'⟩ := List.mem_map.1 hmem'
    cases heq; cases heq'
    exact hne rfl

theorem recipients_eq (router : Router) (topic : String) : router.recipients topic =
    (router.livePairs.filter fun pair => Topic.accepts pair.1 topic).map Prod.snd := by
  rw [recipients, livePairs]
  induction router.entries with
  | nil => rfl
  | cons entry entries ih =>
    obtain ⟨filter, handlers⟩ := entry
    rw [List.flatMap_cons, List.filter_append, List.map_append, ← ih, List.filter_map]
    cases haccepts : Topic.accepts filter topic <;> simp [haccepts, Function.comp_def]

theorem activeCount_eq (router : Router) : router.activeCount = router.livePairs.length := by
  simp [activeCount, livePairs, List.length_flatMap]

theorem Represents.pairs_val (hrep : router.Represents listening) :
    listening.pairs.val = (router.livePairs : Multiset (String × Handler)) := by
  have hnodup : (router.livePairs : Multiset (String × Handler)).Nodup := nodup_livePairs hrep
  have hpairs : listening.pairs = ⟨router.livePairs, hnodup⟩ := by
    ext ⟨filter, handler⟩
    rw [hrep.pairs, ← mem_livePairs hrep.unique]; rfl
  rw [hpairs]

theorem Represents.recipients (hrep : router.Represents listening) (topic : String) :
    (router.recipients topic : Multiset Handler) =
      (listening.pairs.filter fun pair => Topic.accepts pair.1 topic).val.map Prod.snd := by
  rw [Finset.filter_val, hrep.pairs_val, recipients_eq]
  simp

theorem Represents.activeCount (hrep : router.Represents listening) :
    router.activeCount = listening.pairs.card := by
  rw [Finset.card, hrep.pairs_val, activeCount_eq, Multiset.coe_card]

theorem Represents.first_iff (hrep : router.Represents listening) (filter : String)
    (handler : Handler) : (router.register filter handler).2 = true ↔
      ∀ other, (filter, other) ∉ listening.pairs := by
  rw [register_eq, List.isEmpty_iff, List.eq_nil_iff_forall_not_mem]
  simp only [hrep.pairs]

/-! ### Runs -/

/-- A router with the relation it stands for and the filters that its caller keeps. -/
structure Watch where
  router : Router
  listening : Listening
  kept : Finset String

def Watch.start : Watch := ⟨.empty, .empty, ∅⟩

def Watch.step (watch : Watch) (act : Act) : Watch :=
  ⟨watch.router.perform act, watch.listening.after act, watch.router.keep watch.kept act⟩

theorem mem_filters_of_not_first (hfirst : (router.register filter handler).2 ≠ true) :
    filter ∈ router.filters := by
  by_contra hnew
  rw [register_eq, listeners_eq_nil hnew] at hfirst
  exact hfirst rfl

/-- A caller that keeps exactly the filters still does so after an act. -/
theorem mem_keep (hunique : router.filters.Nodup) {kept : Finset String}
    (hkept : ∀ filter, filter ∈ kept ↔ filter ∈ router.filters) (act : Act) (filter : String) :
    filter ∈ router.keep kept act ↔ filter ∈ (router.perform act).filters := by
  cases act with
  | register f handler =>
    simp only [keep, perform]
    rw [mem_filters_register, ← hkept]
    split
    · rw [Finset.mem_insert]
    · -- the caller is not told to add the filter, so it was there before
      rename_i hfirst
      refine ⟨.inr, fun hmem => hmem.elim (fun heq => ?_) id⟩
      rw [heq, hkept]
      exact mem_filters_of_not_first hfirst
  | unregister f handler =>
    simp only [keep, perform]
    rw [mem_filters_unregister, ← hkept]
    split
    · simp [*, and_comm]
    · simp [*]
  | drop handler => exact hkept filter
  | cleanup =>
    simp only [keep, perform]
    rw [mem_filters_cleanup hunique, Finset.mem_sdiff, hkept, List.mem_toFinset]

/-- The relation is what the router stands for, and the caller keeps its filters. -/
structure Watch.Sound (watch : Watch) : Prop where
  represents : watch.router.Represents watch.listening
  kept : ∀ filter, filter ∈ watch.kept ↔ filter ∈ watch.router.filters

theorem Watch.Sound.step {watch : Watch} (hsound : watch.Sound) (act : Act) : (watch.step act).Sound :=
  ⟨hsound.represents.perform act, mem_keep hsound.represents.unique hsound.kept act⟩

theorem Watch.Sound.run {watch : Watch} (hsound : watch.Sound) (acts : List Act) :
    (acts.foldl Watch.step watch).Sound := by
  induction acts generalizing watch with
  | nil => exact hsound
  | cons act acts ih => exact ih (hsound.step act)

theorem Watch.sound_start : Watch.start.Sound :=
  ⟨represents_empty, by simp [Watch.start, filters, empty]⟩

/-- After every run, a message goes to the handlers of the relation whose filters accept its topic, once
for each pair, and the handlers are counted by the pairs; a registration tells that it is the first
exactly if the relation has no pair of its filter; and the filters are those that the caller keeps. -/
theorem stands_for_listening (acts : List Act) :
    let watch := acts.foldl Watch.step .start
    let pairs := watch.listening.pairs
    (∀ topic,
      (watch.router.recipients topic : Multiset Handler) =
        (pairs.filter fun pair => Topic.accepts pair.1 topic).val.map Prod.snd ∧
      (watch.router.recipients topic).length =
        (pairs.filter fun pair => Topic.accepts pair.1 topic).card) ∧
    watch.router.activeCount = pairs.card ∧
    (∀ filter handler, (watch.router.register filter handler).2 = true ↔
      ∀ other, (filter, other) ∉ pairs) ∧
    watch.router.filters.Nodup ∧
    ∀ filter, filter ∈ watch.kept ↔ filter ∈ watch.router.filters := by
  intro watch pairs
  obtain ⟨hrep, hkept⟩ : watch.Sound := Watch.sound_start.run acts
  refine ⟨fun topic => ?_, hrep.activeCount, hrep.first_iff, hrep.unique, hkept⟩
  have hrecipients := hrep.recipients topic
  refine ⟨hrecipients, ?_⟩
  rw [← Multiset.coe_card, hrecipients, Multiset.card_map]; rfl

end Router

end CoverControl
