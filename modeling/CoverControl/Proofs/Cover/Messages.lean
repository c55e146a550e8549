import CoverControl.Proofs.Cover.Outcome
import CoverControl.Proofs.Feedback

/-!
# What a message comes to

A message may feed several channels, and each of them is decoded, applied and announced before the
next one is looked at. Still it comes to one batch: what a payload means does not depend on the state,
so the changes of a message are known beforehand (`feedback`), and one that cannot be decoded is not
among them. The state after the message is the state after all of them (`cover_makeAll`). On the way
each change that makes another state is announced with the snapshot of that state (`Announced`); that
the flag of a change tells as much is because changes that are decoded last.
-/

namespace CoverControl

namespace Cover

/-- The cover in another state. -/
def withState (cover : Cover) (state : State) : Cover :=
  { cover with tracker := { cover.tracker with state := state } }

/-- What a cover announces of changes that are made in turn, from a state on: each change that makes
another state, once, as the cover in that state announces it. -/
inductive Announced (cover : Cover) : State → List Change → List Notice → Prop where
  | done (state : State) : Announced cover state [] []
  | altered {state : State} {change : Change} {changes : List Change} {notices : List Notice}
      (h : (state.apply change).1 ≠ state)
      (hrest : Announced cover (state.apply change).1 changes notices) :
      Announced cover state (change :: changes)
        ((cover.withState (state.apply change).1).announce change :: notices)
  | unaltered {state : State} {change : Change} {changes : List Change} {notices : List Notice}
      (h : (state.apply change).1 = state) (hrest : Announced cover state changes notices) :
      Announced cover state (change :: changes) notices

end Cover

namespace Running
variable {σ : Type} {run : Running σ} {cover : Cover} {state : State} {changes : List Change}

theorem cover_make (run : Running σ) (change : Change) :
    (run.make change).cover = run.cover.withState (run.cover.state.apply change).1 := rfl

theorem notices_make (run : Running σ) (change : Change) :
    (run.make change).notices = run.notices ++ if (run.cover.state.apply change).2 then
      [(run.cover.withState (run.cover.state.apply change).1).announce change] else [] := rfl

theorem cover_makeAll (run : Running σ) (changes : List Change) :
    (run.makeAll changes).cover = run.cover.withState (State.applyAll changes run.cover.state).1 := by
  induction changes generalizing run with
  | nil => rfl
  | cons change changes ih => rw [makeAll_cons, ih]; rfl

theorem announced_makeAll (hlasting : ∀ change ∈ changes, change.Lasting)
    (hcover : run.cover = cover.withState state) :
    ∃ notices, (run.makeAll changes).notices = run.notices ++ notices ∧
      cover.Announced state changes notices := by
  induction changes generalizing run state with
  | nil => exact ⟨[], (List.append_nil _).symm, .done state⟩
  | cons change changes ih =>
    obtain ⟨hfirst, hlasting⟩ := List.forall_mem_cons.1 hlasting
    have hstate : run.cover.state = state := congrArg Cover.state hcover
    have hmade : (run.make change).cover = cover.withState (state.apply change).1 := by
      rw [cover_make, hstate, hcover]; rfl
    obtain ⟨notices, hnotices, hannounced⟩ := ih hlasting hmade
    rw [makeAll_cons, hnotices, notices_make, hstate, hcover]
    -- The notice goes by the flag, which tells whether the state is another one.
    by_cases halters : (state.apply change).1 = state
    · have hflag : (state.apply change).2 = false :=
        Bool.eq_false_iff.2 fun h => (hfirst.altered_iff state).1 h halters
      rw [halters] at hannounced
      refine ⟨notices, ?_, .unaltered halters hannounced⟩
      rw [if_neg (by rw [hflag]; exact Bool.false_ne_true), List.append_nil]
    · refine ⟨_, ?_, .altered halters hannounced⟩
      rw [if_pos ((hfirst.altered_iff state).2 halters), List.append_assoc]; rfl

end Running

namespace Cover
open Running
variable {decoder : Decoder} {payload : String} {channels : List Channel}

theorem lasting_of_mem_meanings {change : Change} (h : change ∈ meanings decoder payload channels) :
    change.Lasting := by
  obtain ⟨channel, -, hchange⟩ := List.mem_filterMap.1 h
  exact Decoder.lasting_of_decode (eq_ok_of_toOption hchange)

theorem meanings_cons_of_ok {channel : Channel} {change : Change}
    (h : decoder.decode channel payload = .ok change) :
    meanings decoder payload (channel :: channels) = change :: meanings decoder payload channels :=
  List.filterMap_cons_some (by rw [h]; rfl)

theorem meanings_cons_of_error {channel : Channel} {fault : PayloadFault}
    (h : decoder.decode channel payload = .error fault) :
    meanings decoder payload (channel :: channels) = meanings decoder payload channels :=
  List.filterMap_cons_none (by rw [h]; rfl)

/-- A channel on which a payload means nothing may as well be left out. -/
theorem meanings_filter_ne {channel : Channel} {fault : PayloadFault}
    (h : decoder.decode channel payload = .error fault) :
    meanings decoder payload (channels.filter (· ≠ channel)) = meanings decoder payload channels := by
  induction channels with
  | nil => rfl
  | cons channel' channels ih =>
    by_cases heq : channel' = channel
    · rw [List.filter_cons_of_neg (by simpa using heq), ih, heq, meanings_cons_of_error h]
    · rw [List.filter_cons_of_pos (by simpa using heq)]
      cases hdecode : decoder.decode channel' payload with
      | ok change => rw [meanings_cons_of_ok hdecode, meanings_cons_of_ok hdecode, ih]
      | error fault' => rw [meanings_cons_of_error hdecode, meanings_cons_of_error hdecode, ih]

theorem handleChannels_makeAll (cover : Cover) (topic payload : String) (channels : List Channel) :
    let handled := handleChannels topic payload channels cover
    let made := (start cover ()).makeAll (meanings cover.tracker.decoder payload channels)
    handled.cover = made.cover ∧ handled.notices = made.notices := by
  have hstill := handleChannels_still topic payload channels (start cover ())
  exact ⟨hstill.cover, hstill.notices⟩

theorem handleMessage_makeAll (cover : Cover) (topic payload : String) :
    let handled := cover.handleMessage topic payload
    let made := (start cover ()).makeAll (cover.feedback topic payload)
    handled.cover = made.cover ∧ handled.notices = made.notices := by
  have hstill := hear_still topic payload (start cover ())
  exact ⟨hstill.cover, hstill.notices⟩

/-- After a message the cover is in the state after the batch of all changes that its payload means on
the channels whose filters accept the topic, in the order of the channels, and is else as before. Each
of these changes that made another state in its turn was announced, once and in that state, and
nothing else was. A channel on which the payload cannot be decoded might as well not be there, and a
topic that no filter accepts does nothing. -/
theorem message_as_batch (cover : Cover) (topic payload : String) :
    let channels := [Channel.state, .position, .tilt, .availability, .attributes].filter
      fun channel => (cover.config.filter channel).any (Topic.accepts · topic)
    let changes := channels.filterMap fun channel =>
      (cover.tracker.decoder.decode channel payload).toOption
    let handled := cover.handleMessage topic payload
    handled.cover = cover.withState (cover.state.apply (.batch changes)).1 ∧
    cover.Announced cover.state changes handled.notices ∧
    (∀ channel fault, cover.tracker.decoder.decode channel payload = .error fault →
      let others := handleChannels topic payload (channels.filter (· ≠ channel)) cover
      handled.cover = others.cover ∧ handled.notices = others.notices) ∧
    ((∀ channel filter, cover.config.filter channel = some filter →
        Topic.accepts filter topic = false) →
      handled.cover = cover ∧ handled.notices = []) := by
  intro channels changes handled
  obtain ⟨hcover, hnotices⟩ := handleMessage_makeAll cover topic payload
  have hfeedback : cover.feedback topic payload = changes := by
    rw [feedback, meanings, Config.classify_eq]
  rw [hfeedback] at hcover hnotices
  refine ⟨?_, ?_, fun channel fault hdecode => ?_, fun hnone => ?_⟩
  · rw [hcover, cover_makeAll]; rfl
  · have hlasting : ∀ change ∈ changes, change.Lasting := fun change h => lasting_of_mem_meanings h
    have hstart : (start cover ()).cover = cover.withState cover.state := rfl
    obtain ⟨notices, hmade, hannounced⟩ := announced_makeAll hlasting hstart
    rw [hnotices, hmade]; exact hannounced
  · obtain ⟨hcover', hnotices'⟩ :=
      handleChannels_makeAll cover topic payload (channels.filter (· ≠ channel))
    rw [meanings_filter_ne hdecode] at hcover' hnotices'
    exact ⟨hcover.trans hcover'.symm, hnotices.trans hnotices'.symm⟩
  · have hchanges : changes = [] := by
      rw [← hfeedback, feedback, Config.classify_eq_nil hnone]; rfl
    rw [hchanges] at hcover hnotices
    exact ⟨hcover, hnotices⟩

/-- A blind hears of everything on one topic. What is no state literal and no object is a position all
the same. -/
theorem message_as_batch_shared :
    let config := { Config.named "blind" with
      stateTopic := some "all", positionTopic := some "+", attributesTopic := some "all/#" }
    config.validate = .ok () ∧ ∃ cover, create "cover.blind" config = .ok cover ∧
      let changes := [Channel.state, .position, .attributes].filterMap fun channel =>
        (cover.tracker.decoder.decode channel "30").toOption
      let handled := cover.handleMessage "all" "30"
      let others := handleChannels "all" "30" [.position, .attributes] cover
      let unknown := cover.handleMessage "other/all" "30"
      changes.length = 1 ∧ handled.cover.state.position = some ⟨30, by decide⟩ ∧
      handled.cover = cover.withState (cover.state.apply (.batch changes)).1 ∧
      cover.Announced cover.state changes handled.notices ∧
      handled.cover = others.cover ∧ handled.notices = others.notices ∧
      unknown.cover = cover ∧ unknown.notices = [] := by
  intro config
  have hvalid : config.validate = .ok () := eq_ok_of_isOk (by decide +kernel)
  obtain ⟨cover, hcreate, hnew⟩ := create_of_valid "cover.blind" hvalid
  refine ⟨hvalid, cover, hcreate, ?_⟩
  intro changes handled others unknown
  have hresult : (create "cover.blind" config).map (fun cover =>
      let changes := [Channel.state, .position, .attributes].filterMap fun channel =>
        (cover.tracker.decoder.decode channel "30").toOption
      (changes.length, (cover.handleMessage "all" "30").cover.state.position,
        (cover.tracker.decoder.decode .state "30").map fun _ => ())) =
      .ok (1, some ⟨30, by decide⟩, .error (.unexpected .state "30")) := by decide +kernel
  have hchannels : ([Channel.state, .position, .tilt, .availability, .attributes].filter fun channel =>
      (cover.config.filter channel).any (Topic.accepts · "all")) = [.state, .position, .attributes] := by
    rw [hnew.config_eq]; decide +kernel
  have hunknown : ∀ channel filter, cover.config.filter channel = some filter →
      Topic.accepts filter "other/all" = false := by
    rw [hnew.config_eq]
    intro channel filter hfilter
    cases channel <;> cases hfilter <;> decide +kernel
  rw [hcreate] at hresult
  obtain ⟨hlength, hresult⟩ := Prod.mk.inj (Except.ok.inj hresult)
  obtain ⟨hposition, hstate⟩ := Prod.mk.inj hresult
  have hfails : cover.tracker.decoder.decode .state "30" = .error (.unexpected .state "30") := by
    cases hdecode : cover.tracker.decoder.decode .state "30" with
    | ok change => rw [hdecode] at hstate; cases hstate
    | error fault => rw [hdecode] at hstate; cases hstate; rfl
  obtain ⟨hcover, hannounced, hothers, -⟩ := message_as_batch cover "all" "30"
  obtain ⟨-, -, -, hnothing⟩ := message_as_batch cover "other/all" "30"
  obtain ⟨hsame, hsame'⟩ := hothers _ _ hfails
  rw [hchannels] at hcover hannounced hsame hsame'
  obtain ⟨hkept, hsilent⟩ := hnothing hunknown
  exact ⟨hlength, hposition, hcover, hannounced, hsame, hsame', hkept, hsilent⟩

end Cover

end CoverControl
