import CoverControl.Proofs.Cover.Outcome
import CoverControl.Proofs.Listeners
import CoverControl.Proofs.State

/-!
# The hub is up to date

A callback for the whole state that is there from the start, and stays, never misses an update: the
last snapshot it heard shows the state of the cover (`UpToDate`). A change that alters nothing needs
no announcement, since it leaves the very same state, and all others are announced with the snapshot
after them. Whatever else an act does, the state is not touched.
-/

namespace CoverControl

/-- A snapshot shows a state: nothing in it that depends on the state is out of date. -/
structure Snapshot.Shows (snapshot : Snapshot) (state : State) : Prop where
  status : snapshot.state = if state.available then state.status.name else unavailable
  position : snapshot.position = state.position
  tilt : snapshot.tilt = state.tilt
  attributes : snapshot.attributes = state.attributes

theorem Cover.snapshot_shows (cover : Cover) : cover.snapshot.Shows cover.state := ⟨rfl, rfl, rfl, rfl⟩

namespace Running
variable {σ : Type} {run later : Running σ} {id : Nat} {first : Snapshot}

/-- The snapshots that the callback with an id heard, the first one first. -/
def heard (run : Running σ) (id : Nat) : List Snapshot :=
  run.notices.flatMap fun notice => notice.calls.filterMap (Listeners.Call.snapshotFor id)

/-- The callback with an id hears of the state, and what it heard last shows it; `first` is what it
was shown at the start. -/
structure UpToDate (id : Nat) (first : Snapshot) (run : Running σ) : Prop where
  listens : id ∈ run.cover.listeners.idsOf .state
  shows : ((run.heard id).getLast?.getD first).Shows run.cover.state

theorem Quiet.heard (h : run.Quiet later) : later.heard id = run.heard id := by
  rw [Running.heard, h.notices]; rfl

theorem UpToDate.quiet (h : run.UpToDate id first) (hquiet : run.Quiet later) :
    later.UpToDate id first := by
  refine ⟨?_, ?_⟩
  · rw [hquiet.listeners]; exact h.listens
  · rw [hquiet.heard, hquiet.state]; exact h.shows

/-- What alters nothing is not announced, and leaves the cover as it is. -/
theorem make_unaltered {change : Change} (h : (run.cover.state.apply change).2 = false) :
    run.make change = run := by
  have hsame := State.apply_unaltered change h
  have hmade : run.cover.applyChange change = (run.cover, []) := by
    show ({ run.cover with tracker := { run.cover.tracker with
        state := (run.cover.state.apply change).1 } },
      if (run.cover.state.apply change).2 then _ else []) = _
    rw [hsame, h]; rfl
  rw [Running.make, hmade, List.append_nil]

theorem heard_make {change : Change} (h : (run.cover.state.apply change).2 = true) :
    (run.make change).heard id = run.heard id ++
      (run.cover.listeners.announce change (run.make change).cover.snapshot).filterMap
        (Listeners.Call.snapshotFor id) := by
  have hnotices : (run.cover.applyChange change).2 = [(run.make change).cover.announce change] :=
    if_pos h
  rw [heard, Running.make, hnotices, List.flatMap_append, List.flatMap_singleton]; rfl

theorem UpToDate.make (h : run.UpToDate id first) (change : Change) :
    (run.make change).UpToDate id first := by
  cases haltered : (run.cover.state.apply change).2 with
  | false => rw [make_unaltered haltered]; exact h
  | true =>
    refine ⟨h.listens, ?_⟩
    rw [heard_make haltered, List.getLast?_append, Listeners.getLast?_snapshots_announce h.listens]
    exact Cover.snapshot_shows _

theorem UpToDate.makeAll (h : run.UpToDate id first) (changes : List Change) :
    (run.makeAll changes).UpToDate id first := by
  induction changes generalizing run with
  | nil => exact h
  | cons change changes ih => exact ih (h.make change)

theorem UpToDate.reconfigure (h : run.UpToDate id first) (encoder : Encoder) (decoder : Decoder) :
    (run.reconfigure encoder decoder).UpToDate id first := ⟨h.listens, h.shows⟩

end Running

namespace Cover
open Running
variable {σ : Type} {id : Nat} {first : Snapshot} {run : Running σ}

theorem upToDate_perform (transport : Transport σ) (act : Act) (h : run.UpToDate id first) :
    (perform transport act run).2.UpToDate id first := by
  cases perform_outcome transport act run with
  | changed _ changes _ hquiet => exact (h.makeAll changes).quiet hquiet
  | reconfigured _ _ _ hquiet => exact (h.reconfigure _ _).quiet hquiet

theorem upToDate_performAll (transport : Transport σ) (acts : List Act) (h : run.UpToDate id first) :
    (performAll transport acts run).UpToDate id first := by
  induction acts generalizing run with
  | nil => exact h
  | cons act acts ih => exact ih (upToDate_perform transport act h)

/-- A callback for the whole state that is added to a new cover of a valid configuration is up to date
after every run: what it heard last, or the snapshot at the start if it heard nothing, shows the
state that the cover shows now. -/
theorem hub_up_to_date {config : Config} (hvalid : config.validate = .ok ()) (entityId : String) :
    ∃ cover, create entityId config = .ok cover ∧
      ∀ {σ : Type} (transport : Transport σ) (machine : σ) (acts : List Act),
        let added := cover.listeners.add .state
        let observed := { cover with listeners := added.1 }
        let run := performAll transport acts (.start observed machine)
        let last := (run.heard added.2).getLast?.getD observed.snapshot
        last.state = run.cover.snapshot.state ∧ last.position = run.cover.snapshot.position ∧
        last.tilt = run.cover.snapshot.tilt ∧ last.attributes = run.cover.snapshot.attributes := by
  obtain ⟨cover, hcreate, -⟩ := create_of_valid entityId hvalid
  refine ⟨cover, hcreate, fun transport machine acts => ?_⟩
  intro added observed run last
  have hlistens : added.2 ∈ added.1.idsOf .state := by
    rw [Listeners.idsOf_add]
    exact List.mem_append_right _ (List.mem_singleton.2 rfl)
  have hstart : (start observed machine).UpToDate added.2 observed.snapshot :=
    ⟨hlistens, snapshot_shows observed⟩
  have hlast : last.Shows run.cover.state := (upToDate_performAll transport acts hstart).shows
  exact ⟨hlast.status, hlast.position, hlast.tilt, hlast.attributes⟩

/-- A cover that is told its status and a position, and cannot subscribe. -/
theorem hub_up_to_date_blind :
    let config := { Config.named "blind" with stateTopic := some "s", positionTopic := some "p/+" }
    let deaf : Transport Unit :=
      ⟨fun _ machine => ⟨.ok (), machine, []⟩, fun _ _ machine => ⟨.error .requestRefused, machine, []⟩,
        fun _ machine => ⟨.ok (), machine, []⟩⟩
    let acts : List Act := [.subscribe, .message "s" "OPEN", .message "p/1" "40", .execute .closeCover]
    config.validate = .ok () ∧ ∃ cover, create "cover.blind" config = .ok cover ∧
      let added := cover.listeners.add .state
      let observed := { cover with listeners := added.1 }
      let run := performAll deaf acts (.start observed ())
      let last := (run.heard added.2).getLast?.getD observed.snapshot
      last.state = run.cover.snapshot.state ∧ last.position = run.cover.snapshot.position ∧
      last.tilt = run.cover.snapshot.tilt ∧ last.attributes = run.cover.snapshot.attributes := by
  intro config deaf acts
  have hvalid : config.validate = .ok () := eq_ok_of_isOk (by decide +kernel)
  obtain ⟨cover, hcreate, h⟩ := hub_up_to_date hvalid "cover.blind"
  exact ⟨hvalid, cover, hcreate, h deaf () acts⟩

end Cover

end CoverControl
