import CoverControl.Proofs.LastWriter
import CoverControl.Proofs.Registration

/-!
# Which callbacks are called

However a change is nested, its single changes are announced one after the other from left to right, and
then the snapshot, each to all callbacks of its kind (`announce_eq`). So a callback hears the news of its
kind and no other, each once and in their order (`announced_exactly`).
-/

namespace CoverControl

namespace Change
variable {change : Change}

def news? : Change → Option Listeners.News
  | .status value => some (.status value)
  | .position value => some (.position value)
  | .tilt value => some (.tilt value)
  | .availability value => some (.availability value)
  | .attributes value => some (.attributes value)
  | .batch _ => none

/-- What the single changes of a change tell, from left to right. -/
def news (change : Change) : List Listeners.News := change.leaves.filterMap news?

theorem map_some_news (change : Change) : change.news.map some = change.leaves.map news? := by
  rw [news, List.map_filterMap_some_eq_filter_map_isSome, List.filter_eq_self]
  intro told htold
  obtain ⟨leaf, hleaf, rfl⟩ := List.mem_map.1 htold
  have hsingle := single_of_mem_leaves change hleaf
  cases leaf with
  | batch changes => exact hsingle.elim
  | _ => rfl

theorem kind_ne_state {news : Listeners.News} (h : news ∈ change.news) : news.kind ≠ .state := by
  obtain ⟨leaf, -, hleaf⟩ := List.mem_filterMap.1 h
  cases leaf <;> cases hleaf <;> rintro ⟨⟩

end Change

namespace Listeners
variable {listeners : Listeners} {id : Nat} {kind : Kind} {news : News} {change : Change}
  {snapshot : Snapshot}

/-! ### Rounds -/

mutual

theorem tellChange_eq : (change : Change) →
    listeners.tellChange change = change.news.flatMap listeners.tell
  | .status _ | .position _ | .tilt _ | .availability _ | .attributes _ => (List.append_nil _).symm
  | .batch changes => tellChanges_eq changes

theorem tellChanges_eq : (changes : List Change) → listeners.tellChanges changes =
    ((Change.leavesOfAll changes).filterMap Change.news?).flatMap listeners.tell
  | [] => rfl
  | change :: changes => by
    rw [tellChanges, tellChange_eq change, tellChanges_eq changes, Change.leavesOfAll,
      List.filterMap_append, List.flatMap_append]
    rfl

end

theorem announce_eq (change : Change) (snapshot : Snapshot) : listeners.announce change snapshot =
    (change.news ++ [News.state snapshot]).flatMap listeners.tell := by
  rw [announce, tellChange_eq, List.flatMap_append, List.flatMap_singleton]

theorem mem_tell {call : Call} : call ∈ listeners.tell news ↔
    call.news = news ∧ (call.id, news.kind) ∈ listeners.entries := by
  rw [tell, List.mem_map]
  constructor
  · rintro ⟨i, hi, rfl⟩
    exact ⟨rfl, mem_idsOf.1 hi⟩
  · rintro ⟨rfl, hmem⟩
    exact ⟨call.id, mem_idsOf.2 hmem, rfl⟩

theorem map_news_tell : (listeners.tell news).map (·.news) =
    List.replicate (listeners.idsOf news.kind).length news := by
  rw [tell, List.map_map, ← List.map_const']
  rfl

/-! ### What one callback hears -/

/-- What the calls of one callback carry, the first call first. -/
def heard (calls : List Call) (id : Nat) (kind : Kind) : List News :=
  (calls.filter fun call => call.id == id && call.news.kind == kind).map (·.news)

theorem heard_append {calls calls' : List Call} :
    heard (calls ++ calls') id kind = heard calls id kind ++ heard calls' id kind := by
  simp [heard]

theorem nodup_idsOf (hunique : listeners.entries.Nodup) (kind : Kind) : (listeners.idsOf kind).Nodup := by
  refine (hunique.filter _).map_on ?_
  rintro ⟨i, k⟩ hi ⟨j, k'⟩ hj rfl
  have hk : k = kind := by simpa using (List.mem_filter.1 hi).2
  have hk' : k' = kind := by simpa using (List.mem_filter.1 hj).2
  rw [hk, hk']

/-- A callback hears a piece of news of its kind once, and nothing of another kind. -/
theorem heard_tell (hunique : listeners.entries.Nodup) (hmem : (id, kind) ∈ listeners.entries) :
    heard (listeners.tell news) id kind = [news].filter (·.kind == kind) := by
  by_cases hkind : news.kind = kind
  · subst hkind
    have hone : (listeners.idsOf news.kind).filter (· == id) = [id] := by
      rw [List.filter_beq, List.count_eq_one_of_mem (nodup_idsOf hunique _) (mem_idsOf.2 hmem)]
      rfl
    have hcalls : (fun call : Call => call.id == id && call.news.kind == news.kind) ∘ (⟨·, news⟩) =
        (· == id) := by
      funext i
      simp
    rw [heard, tell, List.filter_map, hcalls, hone]
    simp
  · have hnone : ∀ call ∈ listeners.tell news, ¬(call.id == id && call.news.kind == kind) = true := by
      intro call hcall
      rw [(mem_tell.1 hcall).1]
      simp [hkind]
    rw [heard, List.filter_eq_nil_iff.2 hnone]
    simp [hkind]

theorem heard_flatMap (hunique : listeners.entries.Nodup) (hmem : (id, kind) ∈ listeners.entries)
    (told : List News) : heard (told.flatMap listeners.tell) id kind = told.filter (·.kind == kind) := by
  induction told with
  | nil => rfl
  | cons news told ih =>
    rw [List.flatMap_cons, heard_append, heard_tell hunique hmem, ih, ← List.filter_append]
    rfl

/-! ### Announcements -/

/-- Who is called for a change, and with what. -/
structure Announced (listeners : Listeners) (change : Change) (snapshot : Snapshot)
    (calls : List Call) : Prop where
  /-- Each single change tells one thing, in its place. -/
  told : change.leaves.map Change.news? = change.news.map some
  /-- The single changes of a kind are heard by each callback of this kind, the leftmost first. -/
  single : ∀ id kind, kind ≠ .state → (id, kind) ∈ listeners.entries →
    heard calls id kind = change.news.filter (·.kind == kind)
  whole : ∀ id, (id, .state) ∈ listeners.entries → heard calls id .state = [.state snapshot]
  registered : ∀ call ∈ calls, (call.id, call.news.kind) ∈ listeners.entries
  carried : ∀ call ∈ calls, call.news = .state snapshot ∨ call.news ∈ change.news
  /-- All callbacks have heard of one single change before the next one is told, and of all of them
  before the snapshot. -/
  order : calls.map (·.news) = (change.news ++ [News.state snapshot]).flatMap fun news =>
    List.replicate (listeners.idsOf news.kind).length news

/-- No table has a callback twice, and then the calls are exactly those that the change asks for. -/
theorem announced_exactly (hunique : listeners.entries.Nodup) (change : Change) (snapshot : Snapshot) :
    Announced listeners change snapshot (listeners.announce change snapshot) := by
  rw [announce_eq]
  have hmem : ∀ call ∈ (change.news ++ [News.state snapshot]).flatMap listeners.tell,
      call.news ∈ change.news ++ [News.state snapshot] ∧ (call.id, call.news.kind) ∈ listeners.entries := by
    intro call hcall
    obtain ⟨news, hnews, hcall⟩ := List.mem_flatMap.1 hcall
    obtain ⟨rfl, hentry⟩ := mem_tell.1 hcall
    exact ⟨hnews, hentry⟩
  refine ⟨change.map_some_news.symm, fun id kind hkind hentry => ?_, fun id hentry => ?_,
    fun call hcall => (hmem call hcall).2, fun call hcall => ?_, ?_⟩
  · rw [heard_flatMap hunique hentry, List.filter_append]
    have hsnapshot : [News.state snapshot].filter (·.kind == kind) = [] := by
      simpa [News.kind] using hkind.symm
    rw [hsnapshot, List.append_nil]
  · rw [heard_flatMap hunique hentry, List.filter_append]
    have hsingle : change.news.filter (·.kind == .state) = [] := by
      simpa [List.filter_eq_nil_iff] using fun news => Change.kind_ne_state
    rw [hsingle]
    rfl
  · simpa [or_comm] using (hmem call hcall).1
  · rw [List.map_flatMap]
    simp only [map_news_tell]

theorem nodup_entries_run (acts : List Act) : (Course.run acts).listeners.entries.Nodup :=
  (Course.sound_start.run acts).unique.of_map

/-- A cover opens and then closes halfway, in batches within batches. Of the callbacks, one of the two for the
position is gone, and none is for the tilt. -/
theorem announced_exactly_nested :
    let snapshot : Snapshot := ⟨"cover.blind", "blind", "open", none, none, false, 0, none, []⟩
    let acts : List Act := [.add .position, .add .state, .add .position, .add .status, .remove 1]
    let listeners := (Course.run acts).listeners
    let change := Change.batch [.batch [], .batch [.position .opened, .status .opened], .tilt .closed,
      .position ⟨50, by decide⟩]
    listeners.entries.Nodup ∧ Announced listeners change snapshot (listeners.announce change snapshot) ∧
    listeners.announce change snapshot = [⟨3, .position .opened⟩, ⟨4, .status .opened⟩,
      ⟨3, .position ⟨50, by decide⟩⟩, ⟨2, .state snapshot⟩] := by
  intro snapshot acts listeners change
  have hunique : listeners.entries.Nodup := nodup_entries_run acts
  exact ⟨hunique, announced_exactly hunique change snapshot, rfl⟩

end Listeners

end CoverControl
