import CoverControl.Proofs.Cover.Availability
import CoverControl.Proofs.Cover.Hub
import CoverControl.Proofs.Cover.Messages
import CoverControl.Proofs.Writes

/-!
# Who hears of a change

A change that alters the state is announced as a whole: a callback of some kind is called if the change
carries a value of its kind (`tellChange_iff`), whether that value is new or not. Most changes carry
one value only, which is new then. But a status and a position come together in one change, and if one
of them is new, the callbacks of both are called (`heard_of_causes`).
-/

namespace CoverControl

namespace Listeners
variable {listeners : Listeners} {id : Nat} {kind : Kind} {aspect : Aspect}

/-- The part of the state that callbacks of a kind want to hear of, if it is one. -/
def Kind.aspect? : Kind → Option Aspect
  | state => none
  | status => some .status
  | position => some .position
  | tilt => some .tilt
  | availability => some .availability
  | attributes => some .attributes

/-- Some of the calls is one of a callback for a kind of news. -/
def Calls (calls : List Call) (id : Nat) (kind : Kind) : Prop :=
  ∃ call ∈ calls, call.id = id ∧ call.news.kind = kind

theorem calls_append {calls calls' : List Call} :
    Calls (calls ++ calls') id kind ↔ Calls calls id kind ∨ Calls calls' id kind := by
  simp [Calls, List.mem_append, or_and_right, exists_or]

theorem calls_tell {news : News} :
    Calls (listeners.tell news) id kind ↔ id ∈ listeners.idsOf kind ∧ news.kind = kind := by
  constructor
  · rintro ⟨call, hcall, rfl, rfl⟩
    obtain ⟨i, hi, rfl⟩ := List.mem_map.1 hcall
    exact ⟨hi, rfl⟩
  · rintro ⟨hid, rfl⟩
    exact ⟨⟨id, news⟩, List.mem_map.2 ⟨id, hid, rfl⟩, rfl, rfl⟩

mutual

/-- The callbacks of a kind are called if the change carries a value of their kind. -/
theorem calls_tellChange (hkind : kind.aspect? = some aspect) : (change : Change) →
    (Calls (listeners.tellChange change) id kind ↔
      id ∈ listeners.idsOf kind ∧ aspect ∈ change.aspects)
  | .status _ | .position _ | .tilt _ | .availability _ | .attributes _ => by
    refine calls_tell.trans (and_congr_right fun _ => ?_)
    cases kind <;> cases hkind <;> simp [News.kind, Change.aspects]
  | .batch changes => by
    rw [tellChange, Change.aspects]
    exact calls_tellChanges hkind changes

theorem calls_tellChanges (hkind : kind.aspect? = some aspect) : (changes : List Change) →
    (Calls (listeners.tellChanges changes) id kind ↔
      id ∈ listeners.idsOf kind ∧ aspect ∈ Change.aspectsOfAll changes)
  | [] => by simp [tellChanges, Calls, Change.aspectsOfAll]
  | change :: changes => by
    rw [tellChanges, calls_append, calls_tellChange hkind change, calls_tellChanges hkind changes,
      Change.aspectsOfAll, List.mem_append, and_or_left]

end

theorem calls_announce (hkind : kind.aspect? = some aspect) {change : Change} {snapshot : Snapshot} :
    Calls (listeners.announce change snapshot) id kind ↔
      id ∈ listeners.idsOf kind ∧ aspect ∈ change.aspects := by
  have hstate : ¬Calls (listeners.tell (.state snapshot)) id kind := by
    rw [calls_tell]
    rintro ⟨-, rfl⟩
    cases hkind
  rw [announce, calls_append, or_iff_left hstate, calls_tellChange hkind]

end Listeners

/-! ### What a change alters -/

/-- A change alters a part of a state. -/
def State.Alters (state : State) (change : Change) (aspect : Aspect) : Prop :=
  ¬SameIn aspect (state.apply change).1 state

/-- The part that one change may set together with another one. -/
def Aspect.companion? : Aspect → Option Aspect
  | .status => some .position
  | .position => some .status
  | _ => none

theorem State.exists_alters {state : State} {change : Change} (hlasting : change.Lasting)
    (haltered : (state.apply change).2 = true) : ∃ aspect ∈ change.aspects, state.Alters change aspect := by
  by_contra hnone
  refine (hlasting.altered_iff state).1 haltered (eq_of_sameIn fun aspect => ?_)
  by_cases hmem : aspect ∈ change.aspects
  · by_contra halters
    exact hnone ⟨aspect, hmem, halters⟩
  · exact apply_frame change hmem

namespace Cover
variable {cover : Cover} {change : Change}

theorem Causes.lasting (h : cover.Causes change) : change.Lasting := by
  cases h with
  | feedback _ hdecode => exact Decoder.lasting_of_decode hdecode
  | command hencode hassumed => exact (Encoder.assumes_of_encode hencode hassumed).lasting

/-- A change of a cover sets one part of the state, or status and position together. -/
theorem Causes.aspects (h : cover.Causes change) :
    (∃ aspect, change.aspects = [aspect]) ∨ change.aspects.Perm [.status, .position] := by
  cases h with
  | feedback _ hdecode =>
    cases Decoder.carries_of_decode hdecode with
    | position => exact .inr (List.Perm.swap ..)
    | status | tilt | availability | attributes => exact .inl ⟨_, rfl⟩
  | command hencode hassumed =>
    cases Encoder.assumes_of_encode hencode hassumed with
    | opened | closed =>
      unfold Encoder.endChange
      split
      · exact .inr (.refl _)
      · exact .inl ⟨_, rfl⟩
    | position => exact .inr (List.Perm.swap ..)
    | tilt => exact .inl ⟨_, rfl⟩

/-- What a change sets is altered, or it is set together with another part that is. -/
theorem Causes.alters (h : cover.Causes change) {state : State} {aspect : Aspect}
    (haltered : (state.apply change).2 = true) (hmem : aspect ∈ change.aspects) :
    state.Alters change aspect ∨
      ∃ other, aspect.companion? = some other ∧ other ∈ change.aspects ∧ state.Alters change other := by
  obtain ⟨other, hother, halters⟩ := State.exists_alters h.lasting haltered
  by_cases heq : other = aspect
  · exact .inl (heq ▸ halters)
  rcases h.aspects with ⟨only, honly⟩ | hboth
  · rw [honly, List.mem_singleton] at hmem hother
    exact absurd (hother.trans hmem.symm) heq
  · refine .inr ⟨other, ?_, hother, halters⟩
    rw [hboth.mem_iff] at hmem hother
    -- two different ones of the two
    rcases List.mem_pair.1 hmem with rfl | rfl <;> rcases List.mem_pair.1 hother with rfl | rfl <;>
      first | rfl | exact absurd rfl heq

end Cover

/-! ### What callbacks hear -/

/-- What the callbacks hear of a change that was made in the state `before`. -/
structure Notice.Reports (notice : Notice) (listeners : Listeners) (before : State) : Prop where
  carried : ∀ id kind aspect, kind.aspect? = some aspect →
    (Listeners.Calls notice.calls id kind ↔
      id ∈ listeners.idsOf kind ∧ aspect ∈ notice.change.aspects)
  tilt : ∀ id, Listeners.Calls notice.calls id .tilt → before.Alters notice.change .tilt
  availability : ∀ id, Listeners.Calls notice.calls id .availability →
    before.Alters notice.change .availability
  status : ∀ id, Listeners.Calls notice.calls id .status → before.Alters notice.change .status ∨
    (.position ∈ notice.change.aspects ∧ before.Alters notice.change .position)
  position : ∀ id, Listeners.Calls notice.calls id .position →
    before.Alters notice.change .position ∨
    (.status ∈ notice.change.aspects ∧ before.Alters notice.change .status)

/-- The notices tell of changes that lead from one state to another, each with the state in which
it was made, and alter it. -/
inductive Passage : State → List (State × Notice) → State → Prop where
  | stay (state : State) : Passage state [] state
  | pass {state last : State} {notice : Notice} {rest : List (State × Notice)}
      (halters : (state.apply notice.change).2 = true)
      (hrest : Passage (state.apply notice.change).1 rest last) :
      Passage state ((state, notice) :: rest) last

theorem Passage.trans {first middle last : State} {steps rest : List (State × Notice)}
    (h : Passage first steps middle) (hrest : Passage middle rest last) :
    Passage first (steps ++ rest) last := by
  induction h with
  | stay => exact hrest
  | pass halters _ ih => exact .pass halters (ih hrest)

theorem Cover.Causes.reports {cover : Cover} {change : Change} (h : cover.Causes change) {state : State}
    (haltered : (state.apply change).2 = true) (announcing : Cover) :
    (announcing.announce change).Reports announcing.listeners state := by
  have hcarried : ∀ id kind aspect, kind.aspect? = some aspect →
      (Listeners.Calls (announcing.announce change).calls id kind ↔
        id ∈ announcing.listeners.idsOf kind ∧ aspect ∈ change.aspects) :=
    fun _ _ _ hkind => Listeners.calls_announce hkind
  have halters : ∀ id kind aspect, kind.aspect? = some aspect →
      Listeners.Calls (announcing.announce change).calls id kind → state.Alters change aspect ∨
        ∃ other, aspect.companion? = some other ∧ other ∈ change.aspects ∧
          state.Alters change other :=
    fun id kind aspect hkind hcalls => h.alters haltered ((hcarried id kind aspect hkind).1 hcalls).2
  refine ⟨hcarried, fun id hcalls => ?_, fun id hcalls => ?_, fun id hcalls => ?_,
    fun id hcalls => ?_⟩
  · exact (halters id .tilt .tilt rfl hcalls).resolve_right nofun
  · exact (halters id .availability .availability rfl hcalls).resolve_right nofun
  · refine (halters id .status .status rfl hcalls).imp_right ?_
    rintro ⟨other, ⟨⟩, hother⟩
    exact hother
  · refine (halters id .position .position rfl hcalls).imp_right ?_
    rintro ⟨other, ⟨⟩, hother⟩
    exact hother

/-! ### Runs -/

namespace Running
variable {σ : Type} {run later latest : Running σ}

/-- From `run` to `later` nothing was announced but changes that altered the state, and the callbacks
heard of each of them. -/
def Tells (run later : Running σ) : Prop :=
  later.cover.listeners = run.cover.listeners ∧ ∃ steps : List (State × Notice),
    later.notices = run.notices ++ steps.map (·.2) ∧
    Passage run.cover.state steps later.cover.state ∧
    ∀ before notice, (before, notice) ∈ steps → notice.Reports run.cover.listeners before

theorem Tells.idle (hlisteners : later.cover.listeners = run.cover.listeners)
    (hnotices : later.notices = run.notices) (hstate : later.cover.state = run.cover.state) :
    run.Tells later := by
  refine ⟨hlisteners, [], ?_, ?_, fun _ _ hmem => absurd hmem List.not_mem_nil⟩
  · rw [hnotices, List.map_nil, List.append_nil]
  · rw [hstate]; exact .stay _

theorem Tells.trans (h : run.Tells later) (h' : later.Tells latest) : run.Tells latest := by
  obtain ⟨hlisteners, steps, hnotices, hpassage, hreports⟩ := h
  obtain ⟨hlisteners', steps', hnotices', hpassage', hreports'⟩ := h'
  refine ⟨hlisteners'.trans hlisteners, steps ++ steps', ?_, hpassage.trans hpassage', ?_⟩
  · rw [hnotices', hnotices, List.map_append, List.append_assoc]
  · intro before notice hmem
    rcases List.mem_append.1 hmem with hmem | hmem
    · exact hreports before notice hmem
    · exact hlisteners ▸ hreports' before notice hmem

theorem Tells.quiet (h : run.Tells later) (hquiet : later.Quiet latest) : run.Tells latest := by
  obtain ⟨hlisteners, steps, hnotices, hpassage, hreports⟩ := h
  refine ⟨hquiet.listeners.trans hlisteners, steps, hquiet.notices.trans hnotices, ?_, hreports⟩
  rw [hquiet.state]; exact hpassage

theorem tells_make {cover : Cover} {change : Change} (hcause : cover.Causes change)
    (run : Running σ) : run.Tells (run.make change) := by
  cases haltered : (run.cover.state.apply change).2 with
  | false => rw [make_unaltered haltered]; exact .idle rfl rfl rfl
  | true =>
    let notice := (run.cover.withState (run.cover.state.apply change).1).announce change
    refine ⟨rfl, [(run.cover.state, notice)], ?_, .pass haltered (.stay _), ?_⟩
    · rw [notices_make, if_pos haltered]; rfl
    · intro before notice hmem
      cases List.mem_singleton.1 hmem
      exact hcause.reports haltered _

theorem tells_makeAll {cover : Cover} {changes : List Change}
    (hcause : ∀ change ∈ changes, cover.Causes change) (run : Running σ) :
    run.Tells (run.makeAll changes) := by
  induction changes generalizing run with
  | nil => exact .idle rfl rfl rfl
  | cons change changes ih =>
    rw [List.forall_mem_cons] at hcause
    exact (tells_make hcause.1 run).trans (ih hcause.2 _)

/-- The callbacks that were called, announcement by announcement, with what they were called for. -/
def told (run : Running σ) : List (List (Nat × Listeners.Kind)) :=
  run.notices.map fun notice => notice.calls.map fun call => (call.id, call.news.kind)

end Running

namespace Cover
open Running
variable {σ : Type}

theorem tells_perform (transport : Transport σ) (act : Act) (run : Running σ) :
    run.Tells (perform transport act run).2 := by
  cases perform_outcome transport act run with
  | changed _ changes hcause hquiet => exact (tells_makeAll hcause run).quiet hquiet
  | reconfigured _ _ _ hquiet => exact .idle hquiet.listeners hquiet.notices hquiet.state

theorem tells_performAll (transport : Transport σ) (acts : List Act) (run : Running σ) :
    run.Tells (performAll transport acts run) := by
  induction acts generalizing run with
  | nil => exact .idle rfl rfl rfl
  | cons act acts ih => exact (tells_perform transport act run).trans (ih _)

/-- In every run, each notice is about a change that altered the state, and each change of the state was
announced. A callback is called exactly for the values that the change carries. So a callback for the
tilt or for the availability is only called if that was altered, and one for the status or the
position if that was altered, or the other one of the two, which came with it. -/
theorem heard_of_changes (transport : Transport σ) (acts : List Act) (run : Running σ) :
    let later := performAll transport acts run
    ∃ steps : List (State × Notice), later.notices = run.notices ++ steps.map (·.2) ∧
      Passage run.cover.state steps later.cover.state ∧
      ∀ before notice, (before, notice) ∈ steps → notice.Reports run.cover.listeners before :=
  (tells_performAll transport acts run).2

/-- A blind is told two positions, and is open at both: the second time its status is announced to the
first callback, although it is not altered. -/
theorem status_heard_unaltered :
    let config := { Config.named "blind" with positionTopic := some "p" }
    config.validate = .ok () ∧ ∃ cover, create "cover.blind" config = .ok cover ∧
      let observed := { cover with listeners := (cover.listeners.add .status).1 }
      let first := performAll willing [.message "p" "40"] (.start observed ())
      let second := performAll willing [.message "p" "60"] first
      first.cover.state.status = .opened ∧ second.cover.state.status = .opened ∧
      first.told = [[(1, .status)]] ∧ second.told = [[(1, .status)], [(1, .status)]] := by
  intro config
  have hvalid : config.validate = .ok () := eq_ok_of_isOk (by decide +kernel)
  obtain ⟨cover, hcreate, -⟩ := create_of_valid "cover.blind" hvalid
  have hrun : (create "cover.blind" config).map (fun (cover : Cover) =>
      let observed : Cover := { cover with listeners := (cover.listeners.add .status).1 }
      let first := performAll willing [.message "p" "40"] (.start observed ())
      let second := performAll willing [.message "p" "60"] first
      decide (first.cover.state.status = .opened ∧ second.cover.state.status = .opened ∧
        first.told = [[(1, .status)]] ∧ second.told = [[(1, .status)], [(1, .status)]])) =
      Except.ok true := by decide +kernel
  rw [hcreate] at hrun
  exact ⟨hvalid, cover, hcreate, of_decide_eq_true (Except.ok.inj hrun)⟩

end Cover

end CoverControl
