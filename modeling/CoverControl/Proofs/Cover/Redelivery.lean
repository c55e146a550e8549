import CoverControl.Proofs.Cover.Hub
import CoverControl.Proofs.Cover.Messages

/-!
# Redelivery

A message may be delivered several times in a row, once for each overlapping filter. The first
delivery leaves every change of the message done, since each lasts and those after it spare it
(`Spares`): they set other parts of the state, or set the status to what it was set to before. Then
the further deliveries alter nothing and are not announced. The exception is a payload that reports
one status on the state channel and implies the other one on the position channel (`Contradicts`): the
position has the last word in each delivery, but both changes are announced each time. The state is
the same all the same.
-/

namespace CoverControl

/-! ### Changes that stay done -/

/-- What another change has done stays done: that one would alter nothing still. -/
def Change.Spares (change other : Change) : Prop :=
  ∀ state : State, (state.apply other).2 = false → ((state.apply change).1.apply other).2 = false

theorem Change.spares_of_disjoint {change other : Change}
    (h : other.aspects.Disjoint change.aspects) : change.Spares other := by
  intro state hother
  rw [State.altered_of_disjoint h]; exact hother

def Percent.status (position : Percent) : Status := if position.isClosed then .closed else .opened

theorem Change.spares_positionFeedback (position : Percent) :
    (positionFeedback position).Spares (.status position.status) :=
  fun _ _ => bne_self_eq_false _

namespace State
variable {change : Change} {changes : List Change} {state : State}

theorem unaltered_applyAll (hspares : ∀ later ∈ changes, later.Spares change)
    (h : (state.apply change).2 = false) : ((applyAll changes state).1.apply change).2 = false := by
  induction changes generalizing state with
  | nil => exact h
  | cons later changes ih =>
    obtain ⟨hlater, hspares⟩ := List.forall_mem_cons.1 hspares
    exact ih hspares (hlater state h)

/-- After changes that last, each spared by those after it, all of them are done. -/
theorem done_applyAll (hlasting : ∀ change ∈ changes, change.Lasting)
    (hspares : changes.Pairwise fun earlier later => later.Spares earlier) (state : State) :
    ∀ change ∈ changes, ((applyAll changes state).1.apply change).2 = false := by
  induction changes generalizing state with
  | nil => exact nofun
  | cons change changes ih =>
    obtain ⟨hfirst, hlasting⟩ := List.forall_mem_cons.1 hlasting
    obtain ⟨hspared, hspares⟩ := List.pairwise_cons.1 hspares
    -- The first change is done as soon as it is made, and spared from then on.
    refine List.forall_mem_cons.2 ⟨?_, ih hlasting hspares _⟩
    show ((applyAll changes (state.apply change).1).1.apply change).2 = false
    exact unaltered_applyAll hspared (hfirst state)

theorem applyAll_of_done (h : ∀ change ∈ changes, (state.apply change).2 = false) :
    (applyAll changes state).1 = state := by
  induction changes with
  | nil => rfl
  | cons change changes ih =>
    obtain ⟨hfirst, hrest⟩ := List.forall_mem_cons.1 h
    simp only [applyAll]
    rw [apply_unaltered change hfirst, ih hrest]

theorem applyAll_status_position {status : Status} {position : Percent} :
    (applyAll (.status status :: .positionFeedback position :: changes) state).1 =
      (applyAll (.positionFeedback position :: changes) state).1 := rfl

theorem status_of_done {position : Percent}
    (h : (state.apply (.positionFeedback position)).2 = false) : state.status = position.status := by
  rw [← apply_unaltered _ h]; rfl

end State

namespace Running
variable {σ : Type} {run : Running σ} {changes : List Change}

theorem makeAll_of_done (h : ∀ change ∈ changes, (run.cover.state.apply change).2 = false) :
    run.makeAll changes = run := by
  induction changes with
  | nil => rfl
  | cons change changes ih =>
    obtain ⟨hfirst, hrest⟩ := List.forall_mem_cons.1 h
    rw [makeAll_cons, make_unaltered hfirst, ih hrest]

theorem length_notices_makeAll (run : Running σ) (changes : List Change) :
    run.notices.length ≤ (run.makeAll changes).notices.length := by
  induction changes generalizing run with
  | nil => exact Nat.le_refl _
  | cons change changes ih =>
    refine Nat.le_trans ?_ (ih (run.make change))
    rw [notices_make, List.length_append]; exact Nat.le_add_right ..

end Running

/-! ### The changes of one message -/

namespace Channel

/-- The parts of the state that two channels report are different, but for the first two channels. -/
theorem pairwise_all :
    all.Pairwise fun earlier later => earlier.Apart later ∨ earlier = .state ∧ later = .position := by
  simp [all, Apart]

end Channel

/-- A message that feeds both channels of the status feeds them first. -/
theorem Config.classify_of_both {config : Config} {topic : String}
    (hstate : .state ∈ config.classify topic) (hposition : .position ∈ config.classify topic) :
    ∃ channels, config.classify topic = .state :: .position :: channels ∧
      (.position :: channels).Pairwise Channel.Apart := by
  have hapart : [Channel.position, .tilt, .availability, .attributes].Pairwise Channel.Apart := by
    simp [Channel.Apart]
  refine ⟨[.tilt, .availability, .attributes].filter fun channel =>
    (config.filter channel).any (Topic.accepts · topic), ?_, ?_⟩
  · rw [Config.classify_eq] at hstate hposition ⊢
    rw [List.filter_cons_of_pos, List.filter_cons_of_pos]
    · exact (List.mem_filter.1 hposition).2
    · exact (List.mem_filter.1 hstate).2
  · exact hapart.sublist (List.filter_sublist.cons_cons Channel.position)

namespace Cover
open Running
variable {σ : Type} {cover : Cover} {topic payload : String} {run : Running σ} {decoder : Decoder}
  {channels : List Channel}

/-- A message that reports one status, and implies the other one with its position. -/
def Contradicts (cover : Cover) (topic payload : String) : Prop :=
  .state ∈ cover.config.classify topic ∧ .position ∈ cover.config.classify topic ∧
  ∃ status position, cover.tracker.decoder.decode .state payload = .ok (.status status) ∧
    cover.tracker.decoder.decode .position payload = .ok (.positionFeedback position) ∧
    status ≠ position.status

theorem spares_meanings (h : channels.Pairwise fun earlier later => ∀ change change',
      decoder.decode earlier payload = .ok change → decoder.decode later payload = .ok change' →
      change'.Spares change) :
    (meanings decoder payload channels).Pairwise fun earlier later => later.Spares earlier := by
  refine List.pairwise_filterMap.2 (h.imp fun hspares change hchange change' hchange' => ?_)
  exact hspares _ _ (eq_ok_of_toOption hchange) (eq_ok_of_toOption hchange')

theorem spares_feedback (h : ¬cover.Contradicts topic payload) :
    (cover.feedback topic payload).Pairwise fun earlier later => later.Spares earlier := by
  refine spares_meanings ((Channel.pairwise_all.filter _).imp_of_mem ?_)
  intro earlier later hearlier hlater hrelated change change' hdecode hdecode'
  obtain hapart | ⟨rfl, rfl⟩ := hrelated
  · exact Change.spares_of_disjoint (hapart.disjoint_of_decode hdecode hdecode')
  · -- Both set the status, so they have to agree on it.
    cases Decoder.carries_of_decode hdecode with
    | status status =>
    cases Decoder.carries_of_decode hdecode' with
    | position position =>
      have hsame : status = position.status := by
        by_contra hne
        exact h ⟨hearlier, hlater, status, position, hdecode, hdecode', hne⟩
      rw [hsame]; exact Change.spares_positionFeedback position

/-- Of a message that contradicts itself the status comes first, and then the position. -/
theorem Contradicts.feedback_eq (h : cover.Contradicts topic payload) :
    ∃ status position changes, status ≠ position.status ∧
      cover.feedback topic payload = .status status :: .positionFeedback position :: changes ∧
      (.positionFeedback position :: changes).Pairwise fun earlier later => later.Spares earlier := by
  obtain ⟨hstate, hposition, status, position, hdecode, hdecode', hne⟩ := h
  obtain ⟨channels, hclassify, hapart⟩ := Config.classify_of_both hstate hposition
  refine ⟨status, position, meanings cover.tracker.decoder payload channels, hne, ?_, ?_⟩
  · rw [feedback, hclassify, meanings_cons_of_ok hdecode, meanings_cons_of_ok hdecode']
  · rw [← meanings_cons_of_ok hdecode']
    refine spares_meanings (hapart.imp fun hapart change change' hdecode hdecode' => ?_)
    exact Change.spares_of_disjoint (hapart.disjoint_of_decode hdecode hdecode')

/-! ### Delivering again -/

theorem cover_hear (topic payload : String) (run : Running σ) :
    (hear topic payload run).cover = run.cover.withState
      (State.applyAll (run.cover.feedback topic payload) run.cover.state).1 := by
  rw [(hear_still topic payload run).cover, cover_makeAll]

theorem feedback_hear (topic payload : String) (run : Running σ) :
    (hear topic payload run).cover.feedback topic payload = run.cover.feedback topic payload := by
  rw [cover_hear]; rfl

theorem contradicts_hear : (hear topic payload run).cover.Contradicts topic payload ↔
    run.cover.Contradicts topic payload := by
  rw [cover_hear]; rfl

theorem still_hear_again (h : ¬run.cover.Contradicts topic payload) :
    (hear topic payload run).Still (hear topic payload (hear topic payload run)) := by
  have hagain := hear_still topic payload (hear topic payload run)
  rw [feedback_hear, makeAll_of_done] at hagain
  · exact hagain
  · rw [cover_hear]
    exact State.done_applyAll (fun change h => lasting_of_mem_meanings h) (spares_feedback h) _

/-- After a message that contradicts itself all is done but its status. -/
theorem Contradicts.done_hear (h : run.cover.Contradicts topic payload) :
    ∃ status position changes, status ≠ position.status ∧
      run.cover.feedback topic payload = .status status :: .positionFeedback position :: changes ∧
      ∀ change ∈ .positionFeedback position :: changes,
        ((hear topic payload run).cover.state.apply change).2 = false := by
  obtain ⟨status, position, changes, hne, hfeedback, hspares⟩ := h.feedback_eq
  have hlasting : ∀ change ∈ .positionFeedback position :: changes, change.Lasting := by
    intro change hchange
    have hmem : change ∈ run.cover.feedback topic payload := by
      rw [hfeedback]; exact List.mem_cons_of_mem _ hchange
    exact lasting_of_mem_meanings hmem
  have hstate : (hear topic payload run).cover.state =
      (State.applyAll (.positionFeedback position :: changes) run.cover.state).1 := by
    rw [cover_hear, hfeedback, ← State.applyAll_status_position]; rfl
  refine ⟨status, position, changes, hne, hfeedback, ?_⟩
  rw [hstate]
  exact State.done_applyAll hlasting hspares run.cover.state

theorem Contradicts.cover_hear_again (h : run.cover.Contradicts topic payload) :
    (hear topic payload (hear topic payload run)).cover = (hear topic payload run).cover := by
  obtain ⟨status, position, changes, -, hfeedback, hdone⟩ := h.done_hear
  rw [cover_hear, feedback_hear, hfeedback, State.applyAll_status_position,
    State.applyAll_of_done hdone]
  rfl

theorem Contradicts.length_hear_again (h : run.cover.Contradicts topic payload) :
    (hear topic payload run).notices.length <
      (hear topic payload (hear topic payload run)).notices.length := by
  obtain ⟨status, position, changes, hne, hfeedback, hdone⟩ := h.done_hear
  have hagain := hear_still topic payload (hear topic payload run)
  rw [feedback_hear, hfeedback] at hagain
  generalize hear topic payload run = once at hdone hagain ⊢
  -- The position is done, so the status is the one that goes with it, and is announced to be another.
  have hstatus := State.status_of_done (hdone _ List.mem_cons_self)
  have halters : (once.cover.state.apply (.status status)).2 = true :=
    bne_iff_ne.2 fun h => hne (h.symm.trans hstatus)
  have hfirst : (once.make (.status status)).notices.length = once.notices.length + 1 := by
    rw [notices_make, if_pos halters, List.length_append]; rfl
  have hrest := length_notices_makeAll (once.make (.status status))
    (.positionFeedback position :: changes)
  rw [hagain.notices, makeAll_cons]
  omega

theorem cover_hear_again (topic payload : String) (run : Running σ) :
    (hear topic payload (hear topic payload run)).cover = (hear topic payload run).cover := by
  by_cases h : run.cover.Contradicts topic payload
  · exact h.cover_hear_again
  · exact (still_hear_again h).cover

section
variable (transport : Transport σ) (topic payload : String) (run : Running σ) (k : Nat)

theorem performAll_replicate_succ :
    performAll transport (List.replicate (k + 1) (.message topic payload)) run =
      hear topic payload (performAll transport (List.replicate k (.message topic payload)) run) := by
  rw [List.replicate_succ', performAll_append]; rfl

theorem contradicts_performAll :
    (performAll transport (List.replicate k (.message topic payload)) run).cover.Contradicts topic payload
      ↔ run.cover.Contradicts topic payload := by
  induction k with
  | zero => exact Iff.rfl
  | succ k ih => rw [performAll_replicate_succ, contradicts_hear, ih]

theorem cover_performAll_replicate :
    (performAll transport (List.replicate (k + 1) (.message topic payload)) run).cover =
      (hear topic payload run).cover := by
  induction k with
  | zero => rfl
  | succ k ih =>
    rw [performAll_replicate_succ, performAll_replicate_succ, cover_hear_again,
      ← performAll_replicate_succ, ih]

variable {topic payload run}

theorem notices_performAll_replicate (h : ¬run.cover.Contradicts topic payload) :
    (performAll transport (List.replicate (k + 1) (.message topic payload)) run).notices =
      (hear topic payload run).notices := by
  induction k with
  | zero => rfl
  | succ k ih =>
    have hbefore := (contradicts_performAll transport topic payload run k).not.2 h
    rw [performAll_replicate_succ, performAll_replicate_succ, (still_hear_again hbefore).notices,
      ← performAll_replicate_succ, ih]

theorem Contradicts.length_performAll (h : run.cover.Contradicts topic payload) :
    (hear topic payload run).notices.length + k ≤
      (performAll transport (List.replicate (k + 1) (.message topic payload)) run).notices.length := by
  induction k with
  | zero => exact Nat.le_refl _
  | succ k ih =>
    have hbefore := (contradicts_performAll transport topic payload run k).2 h
    have hmore := hbefore.length_hear_again
    rw [← performAll_replicate_succ, ← performAll_replicate_succ] at hmore
    omega

end

/-- A payload that a tracker could handle alters nothing if it is handled again at once. A message that
is delivered several times in a row leaves the cover as it is after the first time. The further
deliveries are not announced, unless the message contradicts itself; then they are. -/
theorem redelivery_harmless (transport : Transport σ) :
    (∀ (tracker later : Tracker) (channel : Channel) (payload : String) (altered : Bool),
      tracker.handle channel payload = .ok (later, altered) →
      later.handle channel payload = .ok (later, false)) ∧
    ∀ (run : Running σ) (topic payload : String) (k : Nat),
      let once := (perform transport (.message topic payload) run).2
      let again := performAll transport (List.replicate (k + 1) (.message topic payload)) run
      again.cover = once.cover ∧
      (again.notices = once.notices ↔ k = 0 ∨ ¬run.cover.Contradicts topic payload) := by
  refine ⟨fun _ _ _ _ _ h => Tracker.handle_again h, fun run topic payload k => ?_⟩
  intro once again
  refine ⟨cover_performAll_replicate transport topic payload run k, fun hsame => ?_, ?_⟩
  · by_contra hmore
    obtain ⟨hk, h⟩ := not_or.1 hmore
    have hlength := (not_not.1 h).length_performAll transport k
    have hsame : (performAll transport (List.replicate (k + 1) (.message topic payload)) run).notices =
        (hear topic payload run).notices := hsame
    rw [hsame] at hlength
    omega
  · rintro (rfl | h)
    · rfl
    · exact notices_performAll_replicate transport k h

/-- A blind that says 0 for open, while the position 0 is closed, contradicts itself; with 30 it does
not. -/
theorem redelivery_harmless_blind :
    let config := { Config.named "blind" with
      stateTopic := some "all", positionTopic := some "all", stateOpened := some "0" }
    config.validate = .ok () ∧ ∃ cover, create "cover.blind" config = .ok cover ∧
      (∃ later, cover.tracker.handle .position "30" = .ok (later, true) ∧
        later.handle .position "30" = .ok (later, false)) ∧
      let run := start cover ()
      let delivered := fun times payload =>
        performAll willing (List.replicate times (.message "all" payload)) run
      (delivered 3 "30").cover = (delivered 1 "30").cover ∧ ¬cover.Contradicts "all" "30" ∧
      (delivered 3 "30").notices = (delivered 1 "30").notices ∧
      (delivered 3 "0").cover = (delivered 1 "0").cover ∧ cover.Contradicts "all" "0" ∧
      (delivered 1 "0").notices.length = 2 ∧ (delivered 3 "0").notices.length = 6 := by
  intro config
  have hvalid : config.validate = .ok () := eq_ok_of_isOk (by decide +kernel)
  obtain ⟨cover, hcreate, -⟩ := create_of_valid "cover.blind" hvalid
  refine ⟨hvalid, cover, hcreate, ?_⟩
  have hresult : (create "cover.blind" config).map (fun cover =>
      ((cover.tracker.handle .position "30").map (·.2),
        (cover.tracker.decoder.decode .state "30").isOk,
        (performAll willing [.message "all" "0"] (start cover ())).notices.length,
        (performAll willing (List.replicate 3 (.message "all" "0")) (start cover ())).notices.length)) =
      .ok (.ok true, false, 2, 6) := by decide +kernel
  rw [hcreate] at hresult
  simp only [Except.map, Except.ok.injEq, Prod.mk.injEq] at hresult
  obtain ⟨hhandled, hstate, honce, hagain⟩ := hresult
  obtain ⟨hhandle, hdeliver⟩ := redelivery_harmless willing
  obtain ⟨hcover, hnotices⟩ := hdeliver (start cover ()) "all" "30" 2
  obtain ⟨hcover', hnotices'⟩ := hdeliver (start cover ()) "all" "0" 2
  have hconsistent : ¬cover.Contradicts "all" "30" := by
    rintro ⟨-, -, status, position, hdecode, -⟩
    rw [hdecode] at hstate; cases hstate
  have hcontradicts : cover.Contradicts "all" "0" := by
    by_contra h
    have hsame := congrArg List.length (hnotices'.2 (.inr h))
    rw [hagain] at hsame
    exact absurd (hsame.trans honce) (by decide)
  refine ⟨?_, hcover, hconsistent, hnotices.2 (.inr hconsistent), hcover', hcontradicts, honce, hagain⟩
  cases hlater : cover.tracker.handle .position "30" with
  | error fault => rw [hlater] at hhandled; cases hhandled
  | ok answer =>
    obtain ⟨later, altered⟩ := answer
    rw [hlater] at hhandled
    cases hhandled
    exact ⟨later, rfl, hhandle _ _ _ _ _ hlater⟩

end Cover

end CoverControl
