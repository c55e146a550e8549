import CoverControl.Topic
import Mathlib.Data.List.Forall2

/-!
# Filters and topics

A topic is what a filter matches if its levels come of those of the filter by putting levels in the
place of the wildcards (`Fills`, `levelsMatch_iff`). A topic and its levels determine each other, so a
filter without wildcards matches itself and nothing else (`Plain.accepts_iff`). One whose wildcards stand
alone in their levels also matches the topic with letters in their place (`exists_accepts_ne`).
-/

namespace CoverControl.Topic
variable {c : Char} {cs level : List Char} {fs ts : List (List Char)} {topic topic' filter : String}

/-! ### Levels -/

theorem split_eq_splitOn (cs : List Char) : split cs = cs.splitOn '/' := by
  induction cs with
  | nil => rfl
  | cons c cs ih =>
    rw [split, ih, List.splitOn_cons_eq_if_modifyHead]
    by_cases hslash : c = '/'
    · rw [if_pos hslash, if_pos (beq_iff_eq.2 hslash)]
    · rw [if_neg hslash, if_neg (by simpa using hslash)]
      cases hsplit : cs.splitOn '/' with
      | nil => exact absurd hsplit (List.splitOn_ne_nil _ _)
      | cons level levels => rfl

theorem levels_eq_splitOn (topic : String) : levels topic = topic.toList.splitOn '/' :=
  split_eq_splitOn _

theorem levels_inj : levels topic = levels topic' ↔ topic = topic' := by
  refine ⟨fun h => ?_, congrArg levels⟩
  rw [levels_eq_splitOn, levels_eq_splitOn] at h
  have hjoin := congrArg (['/'].intercalate ·) h
  simp only [List.intercalate_splitOn] at hjoin
  exact String.toList_inj.1 hjoin

theorem levels_ne_nil (topic : String) : levels topic ≠ [] := by
  rw [levels_eq_splitOn]; exact List.splitOn_ne_nil _ _

/-- Any levels without slashes are those of a topic. -/
theorem exists_levels (hne : ts ≠ []) (h : ∀ level ∈ ts, '/' ∉ level) : ∃ topic, levels topic = ts := by
  refine ⟨String.ofList (['/'].intercalate ts), ?_⟩
  rw [levels_eq_splitOn, String.toList_ofList, List.splitOn_intercalate '/' h hne]

theorem split_cons_of_ne (h : c ≠ '/') (cs : List Char) :
    ∃ level levels, split cs = level :: levels ∧ split (c :: cs) = (c :: level) :: levels := by
  rw [split, if_neg h]
  cases hsplit : split cs with
  | nil => exact absurd ((split_eq_splitOn cs).symm.trans hsplit) (List.splitOn_ne_nil _ _)
  | cons level levels => exact ⟨level, levels, rfl, rfl⟩

/-- Slashes stand between the levels, all else in them. -/
theorem exists_mem_split : (∃ level ∈ split cs, c ∈ level) ↔ c ∈ cs ∧ c ≠ '/' := by
  induction cs with
  | nil => simp [split]
  | cons d cs ih =>
    by_cases hslash : d = '/'
    · rw [hslash, split, if_pos rfl]
      simp only [List.exists_mem_cons_iff, ih]
      grind
    · obtain ⟨level, levels, hsplit, hcons⟩ := split_cons_of_ne hslash cs
      rw [hsplit] at ih
      rw [hcons]
      simp only [List.exists_mem_cons_iff] at ih ⊢
      grind

theorem slash_not_mem (h : level ∈ levels topic) : '/' ∉ level := fun hmem =>
  (exists_mem_split.1 ⟨level, h, hmem⟩).2 rfl

/-! ### What is checked of filters -/

theorem checkLevels_cons : checkLevels (level :: fs) = .ok () ↔
    (level = ['+'] ∨ ('+' ∉ level ∧ '#' ∉ level) ∨ (level = ['#'] ∧ fs = [])) ∧
      checkLevels fs = .ok () := by
  rw [checkLevels]
  by_cases hplus : '+' ∈ level ∧ level ≠ ['+']
  · rw [if_pos hplus]
    grind
  by_cases hhash : '#' ∈ level ∧ (level ≠ ['#'] ∨ fs ≠ [])
  · rw [if_neg hplus, if_pos hhash]
    grind
  · rw [if_neg hplus, if_neg hhash]
    grind

theorem checkLevels_iff : checkLevels fs = .ok () ↔ ∀ i level, fs[i]? = some level →
    level = ['+'] ∨ ('+' ∉ level ∧ '#' ∉ level) ∨ (level = ['#'] ∧ i + 1 = fs.length) := by
  induction fs with
  | nil => simp [checkLevels]
  | cons level fs ih =>
    rw [checkLevels_cons, ih]
    refine Iff.trans ?_ Nat.and_forall_add_one
    simp

/-- Wildcards stand alone in their levels. -/
theorem alone_of_checkLevels (h : checkLevels fs = .ok ()) (hmem : level ∈ fs)
    (hwild : '+' ∈ level ∨ '#' ∈ level) : level = ['+'] ∨ level = ['#'] := by
  obtain ⟨i, hi⟩ := List.mem_iff_getElem?.1 hmem
  rcases checkLevels_iff.1 h i level hi with hplus | ⟨hplus, hhash⟩ | ⟨hhash, -⟩
  · exact .inl hplus
  · exact absurd hwild (by simp [hplus, hhash])
  · exact .inr hhash

theorem checkFilter_iff : checkFilter filter = .ok () ↔
    filter ≠ "" ∧ '\x00' ∉ filter.toList ∧ checkLevels (levels filter) = .ok () := by
  rw [checkFilter]
  split
  · simp [*]
  split <;> simp [*]

/-! ### What a filter matches -/

theorem levelsMatch_hash : levelsMatch (['#'] :: fs) ts = true := by
  cases ts <;> simp [levelsMatch]

theorem levelsMatch_cons (h : level ≠ ['#']) : levelsMatch (level :: fs) ts = true ↔
    ∃ t ts', ts = t :: ts' ∧ (level = ['+'] ∨ level = t) ∧ levelsMatch fs ts' = true := by
  cases ts <;> simp [levelsMatch, h]

/-- What may stand in a topic for a level of a filter: one level for `+`, any number of them for `#`,
and only the same level for any other. -/
inductive Fills : List Char → List (List Char) → Prop where
  | one (level : List Char) : Fills ['+'] [level]
  | rest (levels : List (List Char)) : Fills ['#'] levels
  | same (level : List Char) : Fills level [level]

theorem fills_iff (h : level ≠ ['#']) {segment : List (List Char)} :
    Fills level segment ↔ ∃ t, segment = [t] ∧ (level = ['+'] ∨ level = t) := by
  constructor
  · rintro (t | levels | _)
    · exact ⟨t, rfl, .inl rfl⟩
    · exact absurd rfl h
    · exact ⟨level, rfl, .inr rfl⟩
  · rintro ⟨t, rfl, rfl | rfl⟩
    · exact .one t
    · exact .same _

/-- The levels of a topic come of those of a filter by filling its wildcards. -/
def Filled (fs ts : List (List Char)) : Prop :=
  ∃ segments, List.Forall₂ Fills fs segments ∧ ts = segments.flatten

theorem filled_hash (ts : List (List Char)) : Filled [['#']] ts :=
  ⟨[ts], .cons (.rest ts) .nil, by simp⟩

theorem filled_cons (h : level ≠ ['#']) : Filled (level :: fs) ts ↔
    ∃ t ts', ts = t :: ts' ∧ (level = ['+'] ∨ level = t) ∧ Filled fs ts' := by
  constructor
  · rintro ⟨_, hfills, rfl⟩
    obtain ⟨segment, segments, hsegment, hsegments, rfl⟩ := List.forall₂_cons_left_iff.1 hfills
    obtain ⟨t, rfl, hlevel⟩ := (fills_iff h).1 hsegment
    exact ⟨t, segments.flatten, rfl, hlevel, segments, hsegments, rfl⟩
  · rintro ⟨t, _, rfl, hlevel, segments, hsegments, rfl⟩
    exact ⟨[t] :: segments, .cons ((fills_iff h).2 ⟨t, rfl, hlevel⟩) hsegments, rfl⟩

theorem levelsMatch_iff (h : checkLevels fs = .ok ()) : levelsMatch fs ts = true ↔
    ∃ segments, List.Forall₂ Fills fs segments ∧ ts = segments.flatten := by
  show levelsMatch fs ts = true ↔ Filled fs ts
  induction fs generalizing ts with
  | nil => simp [levelsMatch, Filled]
  | cons level fs ih =>
    obtain ⟨hlevel, hfs⟩ := checkLevels_cons.1 h
    by_cases hhash : level = ['#']
    · subst hhash
      -- It is the last level, and the rest of the topic stands for it.
      obtain rfl : fs = [] := by simpa using hlevel
      exact iff_of_true levelsMatch_hash (filled_hash ts)
    · rw [levelsMatch_cons hhash, filled_cons hhash]
      simp only [ih hfs]

/-- What is checked of a filter is that it is neither empty nor has a NUL, and that each of its levels
is `+`, or has no wildcard, or is `#` and the last one. If so, the filter matches the topics whose
levels come of its own by filling one level in for each `+` and any number of them for a last `#`. -/
theorem accepts_iff_filled (filter : String) :
    let filterLevels := filter.toList.splitOn '/'
    (checkFilter filter = .ok () ↔ filter ≠ "" ∧ '\x00' ∉ filter.toList ∧
      ∀ i level, filterLevels[i]? = some level →
        level = ['+'] ∨ ('+' ∉ level ∧ '#' ∉ level) ∨ (level = ['#'] ∧ i + 1 = filterLevels.length)) ∧
    (checkFilter filter = .ok () → ∀ topic : String, accepts filter topic = true ↔
      ∃ segments, List.Forall₂ Fills filterLevels segments ∧
        topic.toList.splitOn '/' = segments.flatten) := by
  intro filterLevels
  have hlevels : levels filter = filterLevels := levels_eq_splitOn filter
  refine ⟨by rw [checkFilter_iff, checkLevels_iff, hlevels], fun h topic => ?_⟩
  rw [accepts, levelsMatch_iff (checkFilter_iff.1 h).2.2, hlevels, levels_eq_splitOn topic]

/-- All below a room, whatever the house. -/
theorem accepts_iff_filled_room :
    checkFilter "+/garage/#" = .ok () ∧ accepts "+/garage/#" "/garage/door/state" = true ∧
      accepts "+/garage/#" "/garage" = true := by
  have hcheck : checkFilter "+/garage/#" = .ok () := by decide
  have hfills : ∀ below, List.Forall₂ Fills ("+/garage/#".toList.splitOn '/')
      [[[]], ["garage".toList], below] :=
    fun below => .cons (.one _) (.cons (.same _) (.cons (.rest below) .nil))
  have haccepts := (accepts_iff_filled "+/garage/#").2 hcheck
  exact ⟨hcheck, (haccepts _).2 ⟨_, hfills ["door".toList, "state".toList], by decide⟩,
    (haccepts _).2 ⟨_, hfills [], by decide⟩⟩

/-! ### Filters without wildcards -/

/-- No wildcards. -/
def Plain (filter : String) : Prop := '+' ∉ filter.toList ∧ '#' ∉ filter.toList

theorem levelsMatch_plain (h : ∀ level ∈ fs, level ≠ ['+'] ∧ level ≠ ['#']) :
    levelsMatch fs ts = true ↔ fs = ts := by
  induction fs generalizing ts with
  | nil => cases ts <;> simp [levelsMatch]
  | cons level fs ih =>
    obtain ⟨⟨hplus, hhash⟩, hfs⟩ := List.forall_mem_cons.1 h
    rw [levelsMatch_cons hhash]
    simp only [hplus, false_or, ih hfs]
    constructor
    · rintro ⟨t, rest, rfl, rfl, rfl⟩; rfl
    · rintro rfl; exact ⟨level, fs, rfl, rfl, rfl⟩

theorem Plain.accepts_iff (h : Plain filter) : accepts filter topic = true ↔ topic = filter := by
  have hmem : ∀ level ∈ levels filter, ∀ c ∈ level, c ∈ filter.toList :=
    fun level hlevel c hc => (exists_mem_split.1 ⟨level, hlevel, hc⟩).1
  rw [accepts, levelsMatch_plain, levels_inj, eq_comm]
  refine fun level hlevel => ⟨?_, ?_⟩
  · rintro rfl
    exact h.1 (hmem _ hlevel '+' (List.mem_singleton.2 rfl))
  · rintro rfl
    exact h.2 (hmem _ hlevel '#' (List.mem_singleton.2 rfl))

theorem checkPublished_iff : checkPublished topic = .ok () ↔
    topic ≠ "" ∧ '\x00' ∉ topic.toList ∧ Plain topic := by
  rw [checkPublished, Plain, ← not_or]
  split
  · simp [*]
  split
  · simp [*]
  split <;> simp [*]

/-- A level with a letter in the place of a wildcard. -/
def lettered (level : List Char) : List Char := if level = ['+'] ∨ level = ['#'] then ['x'] else level

theorem slash_not_mem_lettered (h : '/' ∉ level) : '/' ∉ lettered level := by
  unfold lettered
  split
  · decide
  · exact h

theorem levelsMatch_lettered (fs : List (List Char)) : levelsMatch fs (fs.map lettered) = true := by
  induction fs with
  | nil => rfl
  | cons level fs ih =>
    by_cases hhash : level = ['#']
    · rw [hhash]; exact levelsMatch_hash
    · rw [levelsMatch_cons hhash]
      refine ⟨lettered level, fs.map lettered, rfl, ?_, ih⟩
      by_cases hplus : level = ['+']
      · exact .inl hplus
      · exact .inr (by simp [lettered, hplus, hhash])

theorem exists_levels_lettered (filter : String) :
    ∃ topic, levels topic = (levels filter).map lettered := by
  refine exists_levels (by simpa using levels_ne_nil filter) fun level hmem => ?_
  obtain ⟨l, hl, rfl⟩ := List.mem_map.1 hmem
  exact slash_not_mem_lettered (slash_not_mem hl)

/-- A filter with wildcards matches a topic other than itself. -/
theorem exists_accepts_ne (h : checkFilter filter = .ok ()) (hwild : ¬Plain filter) :
    ∃ topic, accepts filter topic = true ∧ topic ≠ filter := by
  obtain ⟨topic, hlevels⟩ := exists_levels_lettered filter
  refine ⟨topic, by rw [accepts, hlevels]; exact levelsMatch_lettered _, ?_⟩
  rintro rfl
  -- The level that is a wildcard is another one with a letter in its place.
  obtain ⟨level, hmem, hlevel⟩ : ∃ level ∈ levels topic, '+' ∈ level ∨ '#' ∈ level := by
    rw [Plain, not_and_or, not_not, not_not] at hwild
    rcases hwild with hplus | hhash
    · obtain ⟨level, hmem, hlevel⟩ := exists_mem_split.2 ⟨hplus, by decide⟩
      exact ⟨level, hmem, .inl hlevel⟩
    · obtain ⟨level, hmem, hlevel⟩ := exists_mem_split.2 ⟨hhash, by decide⟩
      exact ⟨level, hmem, .inr hlevel⟩
  have hsame : lettered level = level :=
    List.map_inj_left.1 (hlevels.symm.trans (List.map_id _).symm) level hmem
  rcases alone_of_checkLevels (checkFilter_iff.1 h).2.2 hmem hlevel with rfl | rfl <;>
    exact absurd hsame (by decide)

/-- A filter may be published to as a topic exactly if it matches itself and nothing else. So whatever
is published reaches a filter without wildcards only if its topic is the same text. -/
theorem published_iff_matches_itself :
    (∀ filter, checkFilter filter = .ok () →
      (checkPublished filter = .ok () ↔ ∀ topic, accepts filter topic = true ↔ topic = filter)) ∧
    ∀ filter, Plain filter → ∀ topic, accepts filter topic = true ↔ topic = filter := by
  refine ⟨fun filter h => ⟨fun hpublished topic => ?_, fun hitself => ?_⟩, fun _ hplain _ => ?_⟩
  · exact (checkPublished_iff.1 hpublished).2.2.accepts_iff
  · obtain ⟨hne, hnul, -⟩ := checkFilter_iff.1 h
    refine checkPublished_iff.2 ⟨hne, hnul, ?_⟩
    by_contra hwild
    obtain ⟨topic, haccepts, hother⟩ := exists_accepts_ne h hwild
    exact hother ((hitself topic).1 haccepts)
  · exact hplain.accepts_iff

/-- What opens a gate, and the filter that sees whatever opens. -/
theorem published_iff_matches_itself_gate :
    checkFilter "gate/open" = .ok () ∧ accepts "gate/open" "gate/open" = true ∧
      accepts "gate/open" "gate//open" = false ∧
    checkFilter "+/open" = .ok () ∧ (¬∀ topic, accepts "+/open" topic = true ↔ topic = "+/open") ∧
    Plain "gate" ∧ accepts "gate" "gate/open" = false := by
  obtain ⟨hpublished, hplain⟩ := published_iff_matches_itself
  have hgate : checkFilter "gate/open" = .ok () := by decide
  have hany : checkFilter "+/open" = .ok () := by decide
  have hroom : Plain "gate" := by unfold Plain; decide
  have hitself := (hpublished _ hgate).1 (by decide)
  refine ⟨hgate, (hitself _).2 rfl, ?_, hany, ?_, hroom, ?_⟩
  · exact Bool.eq_false_iff.2 fun h => absurd ((hitself _).1 h) (by decide)
  · exact fun h => absurd ((hpublished _ hany).2 h) (by decide)
  · exact Bool.eq_false_iff.2 fun h => absurd ((hplain _ hroom _).1 h) (by decide)

end CoverControl.Topic
