import CoverControl.Listeners
import Mathlib.Data.List.Nodup
import Mathlib.Data.Set.Card

/-!
# Ids of callbacks

An id is given to one callback and never again, neither after this callback was removed nor after all
were. So the ids of the callbacks that are there are different (`Sound`), and a search that goes through
the kinds and stops at the first that has the id removes what is to be removed (`remove_eq`). After every
run the callbacks are those that were registered, and neither removed nor cleared since (`ids_kept`).
-/

namespace CoverControl.Listeners
variable {listeners : Listeners} {id other : Nat} {kind kind' : Kind}

/-! ### Searching -/

theorem Kind.mem_all (kind : Kind) : kind ∈ Kind.all := by
  cases kind <;> simp [Kind.all]

theorem mem_idsOf : id ∈ listeners.idsOf kind ↔ (id, kind) ∈ listeners.entries := by
  simp [idsOf]

def ids (listeners : Listeners) : List Nat := listeners.entries.map (·.1)

theorem mem_ids : id ∈ listeners.ids ↔ ∃ kind, (id, kind) ∈ listeners.entries := by
  simp [ids]

/-- The listeners without the callbacks with an id. -/
def without (listeners : Listeners) (id : Nat) : Listeners :=
  { listeners with entries := listeners.entries.filter (·.1 != id) }

theorem idsOf_without : (listeners.without id).idsOf kind = (listeners.idsOf kind).filter (· != id) := by
  simp only [without, idsOf, List.filter_map, List.filter_filter]
  exact congrArg _ (List.filter_congr fun entry _ => Bool.and_comm ..)

theorem kind_unique (hunique : listeners.ids.Nodup) (h : (id, kind) ∈ listeners.entries)
    (h' : (id, kind') ∈ listeners.entries) : kind = kind' := by
  have hsame := List.inj_on_of_nodup_map hunique h h' rfl
  exact (Prod.mk.inj hsame).2

theorem removeOf_of_mem (hunique : listeners.ids.Nodup) (h : (id, kind) ∈ listeners.entries) :
    listeners.removeOf id kind = (listeners.without id, true) := by
  have hrest : listeners.entries.filter (· != (id, kind)) = listeners.entries.filter (·.1 != id) := by
    refine List.filter_congr fun ⟨i, k⟩ hmem => ?_
    by_cases hi : i = id
    · -- the callback itself, since no other one has its id
      subst hi
      obtain rfl := kind_unique hunique h hmem
      simp
    · have hpair : (i, k) ≠ (id, kind) := fun heq => hi (Prod.mk.inj heq).1
      rw [bne_iff_ne.2 hpair, bne_iff_ne.2 hi]
  rw [removeOf, hrest, without, List.contains_iff_mem.2 h]

theorem removeOf_of_not_mem (h : (id, kind) ∉ listeners.entries) :
    listeners.removeOf id kind = (listeners, false) := by
  have hrest : listeners.entries.filter (· != (id, kind)) = listeners.entries := by
    refine List.filter_eq_self.2 fun entry hmem => ?_
    simp only [bne_iff_ne]
    rintro rfl
    exact h hmem
  rw [removeOf, hrest]
  simp [h]

theorem removeFrom_of_mem (hunique : listeners.ids.Nodup) (h : (id, kind) ∈ listeners.entries)
    {kinds : List Kind} (hkind : kind ∈ kinds) :
    removeFrom id kinds listeners = (listeners.without id, true) := by
  induction kinds with
  | nil => cases hkind
  | cons k kinds ih =>
    by_cases hk : (id, k) ∈ listeners.entries
    · simp [removeFrom, removeOf_of_mem hunique hk]
    · have hne : kind ≠ k := by rintro rfl; exact hk h
      simp [removeFrom, removeOf_of_not_mem hk, ih (List.mem_of_ne_of_mem hne hkind)]

theorem removeFrom_of_not_mem (h : id ∉ listeners.ids) (kinds : List Kind) :
    removeFrom id kinds listeners = (listeners, false) := by
  induction kinds with
  | nil => rfl
  | cons k kinds ih =>
    have hk : (id, k) ∉ listeners.entries := fun hk => h (mem_ids.2 ⟨k, hk⟩)
    simp [removeFrom, removeOf_of_not_mem hk, ih]

theorem without_of_not_mem (h : id ∉ listeners.ids) : listeners.without id = listeners := by
  have hrest : listeners.entries.filter (·.1 != id) = listeners.entries := by
    refine List.filter_eq_self.2 fun ⟨i, k⟩ hmem => ?_
    simp only [bne_iff_ne]
    rintro rfl
    exact h (mem_ids.2 ⟨k, hmem⟩)
  rw [without, hrest]

/-- If no two callbacks have the same id, the one with an id is removed, whatever its kind. -/
theorem remove_eq (hunique : listeners.ids.Nodup) (id : Nat) :
    listeners.remove id = (listeners.without id, decide (id ∈ listeners.ids)) := by
  by_cases h : id ∈ listeners.ids
  · obtain ⟨kind, hkind⟩ := mem_ids.1 h
    rw [remove, removeFrom_of_mem hunique hkind kind.mem_all, decide_eq_true h]
  · rw [remove, removeFrom_of_not_mem h, without_of_not_mem h, decide_eq_false h]

/-! ### Runs -/

/-- What can be asked of listeners. -/
inductive Act where
  | add (kind : Kind)
  | remove (id : Nat)
  | clear

/-- An act that was answered. -/
inductive Event where
  | added (id : Nat) (kind : Kind)
  | removed (id : Nat) (found : Bool)
  | cleared

def perform (listeners : Listeners) : Act → Listeners × Event
  | .add kind =>
    let (listeners, id) := listeners.add kind
    (listeners, .added id kind)
  | .remove id =>
    let (listeners, found) := listeners.remove id
    (listeners, .removed id found)
  | .clear => (listeners.clear, .cleared)

/-- Listeners, and what happened so far, the first event first. -/
structure Course where
  listeners : Listeners
  events : List Event

namespace Course

def start : Course := ⟨.empty, []⟩

def step (course : Course) (act : Act) : Course :=
  let (listeners, event) := course.listeners.perform act
  ⟨listeners, course.events ++ [event]⟩

def run (acts : List Act) : Course := acts.foldl step start

end Course

/-! ### What the events tell -/

def Event.given? : Event → Option Nat
  | added id _ => some id
  | _ => none

/-- The ids that were given, the first one first. -/
def given (events : List Event) : List Nat := events.filterMap Event.given?

/-- An event after which the callback with an id is not there any more. -/
def Event.Ends (id : Nat) (event : Event) : Prop := event = cleared ∨ ∃ found, event = removed id found

@[simp] theorem Event.not_ends_added : ¬(added other kind).Ends id := by simp [Ends]

@[simp] theorem Event.ends_removed {found : Bool} : (removed other found).Ends id ↔ id = other := by
  simp [Ends, eq_comm]

@[simp] theorem Event.ends_cleared : cleared.Ends id := .inl rfl

/-- A callback was registered, and neither removed nor cleared since. -/
def Standing (events : List Event) (id : Nat) (kind : Kind) : Prop :=
  ∃ before after, events = before ++ .added id kind :: after ∧ ∀ event ∈ after, ¬event.Ends id

variable {events : List Event} {event : Event}

theorem not_standing_nil : ¬Standing [] id kind := by
  rintro ⟨before, after, h, -⟩
  simp at h

theorem standing_concat : Standing (events ++ [event]) id kind ↔
    event = .added id kind ∨ Standing events id kind ∧ ¬event.Ends id := by
  constructor
  · rintro ⟨before, after, h, hafter⟩
    rcases List.eq_nil_or_concat after with rfl | ⟨after, last, rfl⟩
    · obtain ⟨-, rfl⟩ := List.append_singleton_inj.1 h
      exact .inl rfl
    · rw [List.concat_eq_append] at h hafter
      rw [← List.cons_append, ← List.append_assoc] at h
      obtain ⟨rfl, rfl⟩ := List.append_singleton_inj.1 h
      refine .inr ⟨⟨before, after, rfl, fun e he => hafter e (List.mem_append_left _ he)⟩, ?_⟩
      exact hafter event (by simp)
  · rintro (rfl | ⟨⟨before, after, rfl, hafter⟩, hevent⟩)
    · exact ⟨events, [], rfl, by simp⟩
    · refine ⟨before, after ++ [event], by simp, fun e he => ?_⟩
      rcases List.mem_append.1 he with he | he
      · exact hafter e he
      · rw [List.mem_singleton.1 he]; exact hevent

theorem mem_given_of_standing (h : Standing events id kind) : id ∈ given events := by
  obtain ⟨before, after, rfl, -⟩ := h
  simp [given, Event.given?]

/-! ### The invariant -/

/-- The ids from 1 to the last one issued were given, and the callbacks are those that the events tell. -/
structure Course.Sound (course : Course) : Prop where
  given : Listeners.given course.events = List.range' 1 course.listeners.issued
  unique : course.listeners.ids.Nodup
  standing : ∀ id kind, (id, kind) ∈ course.listeners.entries ↔ Standing course.events id kind

namespace Course
variable {course : Course}

theorem sound_start : start.Sound :=
  ⟨rfl, List.nodup_nil, fun _ _ => iff_of_false List.not_mem_nil not_standing_nil⟩

theorem Sound.mem_given (h : course.Sound) : id ∈ Listeners.given course.events ↔
    1 ≤ id ∧ id ≤ course.listeners.issued := by
  rw [h.given, List.mem_range'_1]
  omega

theorem Sound.fresh (h : course.Sound) : course.listeners.issued + 1 ∉ course.listeners.ids := by
  rw [mem_ids]
  rintro ⟨kind, hmem⟩
  have hgiven := h.mem_given.1 (mem_given_of_standing ((h.standing _ _).1 hmem))
  omega

theorem Sound.step (h : course.Sound) (act : Act) : (course.step act).Sound := by
  cases act with
  | add kind =>
    refine ⟨?_, ?_, fun id k => ?_⟩
    · show Listeners.given (course.events ++ [_]) = List.range' 1 (course.listeners.issued + 1)
      rw [Listeners.given, List.filterMap_append, ← Listeners.given, h.given, List.range'_1_concat]
      simp [Event.given?, Nat.add_comm]
    · show ((course.listeners.entries ++ [_]).map _).Nodup
      rw [List.map_append, List.map_singleton, ← List.concat_eq_append]
      exact h.unique.concat h.fresh
    · show (id, k) ∈ course.listeners.entries ++ [_] ↔ Standing (course.events ++ [_]) id k
      rw [List.mem_append, h.standing, standing_concat]
      simp [or_comm, eq_comm]
  | remove i =>
    have hstep : course.step (.remove i) = ⟨course.listeners.without i,
        course.events ++ [.removed i (decide (i ∈ course.listeners.ids))]⟩ := by
      simp only [Course.step, perform, remove_eq h.unique i]
    rw [hstep]
    refine ⟨?_, ?_, fun id k => ?_⟩
    · show Listeners.given (course.events ++ [_]) = List.range' 1 course.listeners.issued
      rw [Listeners.given, List.filterMap_append, ← Listeners.given, h.given]
      simp [Event.given?]
    · exact h.unique.sublist (List.filter_sublist.map _)
    · show (id, k) ∈ course.listeners.entries.filter _ ↔ Standing (course.events ++ [_]) id k
      rw [List.mem_filter, h.standing, standing_concat]
      simp
  | clear =>
    refine ⟨?_, List.nodup_nil, fun id k => ?_⟩
    · show Listeners.given (course.events ++ [_]) = List.range' 1 course.listeners.issued
      rw [Listeners.given, List.filterMap_append, ← Listeners.given, h.given]
      simp [Event.given?]
    · show (id, k) ∈ [] ↔ Standing (course.events ++ [_]) id k
      rw [standing_concat]
      simp

theorem Sound.run (h : course.Sound) (acts : List Act) : (acts.foldl Course.step course).Sound := by
  induction acts generalizing course with
  | nil => exact h
  | cons act acts ih => exact ih (h.step act)

end Course

/-! ### Counting -/

def Act.isAdd : Act → Bool
  | add _ => true
  | _ => false

theorem length_given_run (course : Course) (acts : List Act) :
    (given (acts.foldl Course.step course).events).length =
      (given course.events).length + acts.countP Act.isAdd := by
  induction acts generalizing course with
  | nil => rfl
  | cons act acts ih =>
    have hstep : (given (course.step act).events).length =
        (given course.events).length + if act.isAdd then 1 else 0 := by
      show (given (course.events ++ [_])).length = _
      rw [given, List.filterMap_append, List.length_append]
      cases act <;> rfl
    rw [List.foldl_cons, ih, hstep, List.countP_cons, Nat.add_assoc, Nat.add_comm (acts.countP _)]

theorem Course.Sound.count_eq {course : Course} (h : course.Sound) :
    course.listeners.count = {id | ∃ kind, Standing course.events id kind}.ncard := by
  have hset : {id | ∃ kind, Standing course.events id kind} = (course.listeners.ids.toFinset : Set Nat) := by
    ext id
    simp [mem_ids, h.standing]
  rw [hset, Set.ncard_coe_finset, List.toFinset_card_of_nodup h.unique, ids, List.length_map]
  rfl

/-! ### The callbacks after a run -/

/-- The ids that were given, the callbacks that are there, and what a removal finds, all told by the
events. -/
structure Course.Kept (course : Course) : Prop where
  distinct : (given course.events).Nodup
  /-- The ids fit 64 bits. -/
  bounded : ∀ id ∈ given course.events, 1 ≤ id ∧ id < 2 ^ 64
  once : ∀ kind, (course.listeners.idsOf kind).Nodup
  kind_unique : ∀ id kind kind', id ∈ course.listeners.idsOf kind →
    id ∈ course.listeners.idsOf kind' → kind = kind'
  standing : ∀ id kind, id ∈ course.listeners.idsOf kind ↔ Standing course.events id kind
  found : ∀ id, (course.listeners.remove id).2 = true ↔ ∃ kind, Standing course.events id kind
  removed : ∀ id kind, (course.listeners.remove id).1.idsOf kind =
    (course.listeners.idsOf kind).filter (· != id)
  count : course.listeners.count = {id | ∃ kind, Standing course.events id kind}.ncard

/-- After every run with fewer than `2 ^ 64` registrations no id was given twice; a callback is there, under
one kind and once, if and only if it was registered, and neither removed nor cleared since; a removal finds
just these callbacks, and takes off the one with the id and no other; and they are counted. -/
theorem ids_kept (acts : List Act) (hfew : acts.countP Act.isAdd < 2 ^ 64) : (Course.run acts).Kept := by
  have hsound : (Course.run acts).Sound := Course.sound_start.run acts
  have hissued : (Course.run acts).listeners.issued = acts.countP Act.isAdd := by
    have hlength := length_given_run .start acts
    rw [← Course.run, hsound.given, List.length_range'] at hlength
    simpa [Course.start, given] using hlength
  refine ⟨?_, fun id hid => ?_, fun kind => ?_, fun id kind kind' h h' => ?_, fun id kind => ?_,
    fun id => ?_, fun id kind => ?_, hsound.count_eq⟩
  · rw [hsound.given]
    exact List.nodup_range'
  · have hrange := hsound.mem_given.1 hid
    omega
  · exact hsound.unique.sublist (List.filter_sublist.map _)
  · exact kind_unique hsound.unique (mem_idsOf.1 h) (mem_idsOf.1 h')
  · rw [mem_idsOf, hsound.standing]
  · rw [remove_eq hsound.unique, decide_eq_true_iff, mem_ids]
    simp only [hsound.standing]
  · rw [remove_eq hsound.unique, idsOf_without]

/-- Callbacks of three kinds come and go: the ids of those that are gone are not found, nor given again. -/
theorem ids_kept_coming_and_going :
    let acts : List Act :=
      [.add .status, .add .position, .remove 1, .add .status, .clear, .remove 3, .add .tilt, .add .tilt,
        .remove 4]
    acts.countP Act.isAdd < 2 ^ 64 ∧ (Course.run acts).Kept ∧
    ((Course.run acts).listeners.remove 5).2 = true ∧ given (Course.run acts).events = [1, 2, 3, 4, 5] := by
  intro acts
  have hkept := ids_kept acts (by decide)
  have hstanding : Standing (Course.run acts).events 5 .tilt :=
    (hkept.standing 5 .tilt).1 (by decide)
  exact ⟨by decide, hkept, (hkept.found 5).2 ⟨.tilt, hstanding⟩, rfl⟩

end CoverControl.Listeners
