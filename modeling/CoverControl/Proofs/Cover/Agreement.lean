import CoverControl.Proofs.Changes
import CoverControl.Proofs.Cover.Availability
import CoverControl.Proofs.Cover.Outcome
import CoverControl.Proofs.Scale.Reading

/-!
# Status and position agree

A cover without a state topic learns its status from its position only: feedback sets both, and what
orders assume does too, since the raw values of the two ends have the percentages 100 and 0 whatever
the range. So the two always agree (`State.Agrees`), as long as every configuration that is installed
has a position topic and no state topic.
-/

namespace CoverControl

/-- Nothing is known, or the status is that of the position. -/
def State.Agrees (state : State) : Prop :=
  (state.position = none ∧ state.status = .unknown) ∨
  ∃ p, state.position = some p ∧ (p.value = 0 → state.status = .closed) ∧
    (0 < p.value → state.status = .opened)

theorem State.agrees_initial (available : Bool) : (initial available).Agrees := .inl ⟨rfl, rfl⟩

/-- A change after which status and position agree if they did before. -/
def Change.Settles (change : Change) : Prop :=
  ∀ state : State, state.Agrees → (state.apply change).1.Agrees

theorem Change.settles_positionFeedback (p : Percent) : (positionFeedback p).Settles := by
  intro state _
  refine .inr ⟨p, rfl, fun hp => ?_, fun hp => ?_⟩
  · show (if p.isClosed then Status.closed else .opened) = .closed
    rw [Percent.isClosed, hp]; rfl
  · show (if p.isClosed then Status.closed else .opened) = .opened
    rw [Percent.isClosed, beq_eq_false_iff_ne.2 hp.ne']; rfl

/-- The configuration has a position topic and no state topic. -/
structure Config.PositionOnly (config : Config) : Prop where
  position : config.positionTopic.isSome = true
  state : config.stateTopic = none

theorem Channel.Carries.settles {channel : Channel} {change : Change} (h : channel.Carries change)
    (hchannel : channel ≠ .state) : change.Settles := by
  cases h with
  | status => exact absurd rfl hchannel
  | position p => exact Change.settles_positionFeedback p
  | tilt | availability | attributes => exact fun _ h => h

theorem Encoder.Assumes.settles {encoder : Encoder} {change : Change} (h : encoder.Assumes change)
    (hposition : encoder.config.positionTopic.isSome = true)
    (hencoder : Encoder.ofConfig encoder.config = .ok encoder) : change.Settles := by
  have hends := Scale.percent_ends (position_of_ok hencoder)
  cases h with
  | opened =>
    rw [endChange, if_pos hposition, hends.1]
    exact fun _ _ => .inr ⟨.opened, rfl, fun h => absurd h (by decide), fun _ => rfl⟩
  | closed =>
    rw [endChange, if_pos hposition, hends.2]
    exact fun _ _ => .inr ⟨.closed, rfl, fun _ => rfl, fun h => absurd h (by decide)⟩
  | position p => exact Change.settles_positionFeedback p
  | tilt => exact fun _ h => h

namespace Cover
open Running
variable {σ : Type} {run later : Running σ}

/-- A cover whose encoder is that of a configuration with a position topic and no state topic, and
whose status and position agree. -/
structure Agreeing (cover : Cover) : Prop where
  encoder : Encoder.ofConfig cover.config = .ok cover.encoder
  topics : cover.config.PositionOnly
  state : cover.state.Agrees

theorem Agreeing.of_config {config : Config} {cover : Cover}
    (hencoder : Encoder.ofConfig config = .ok cover.encoder) (htopics : config.PositionOnly)
    (hstate : cover.state.Agrees) : cover.Agreeing := by
  have hconfig : cover.config = config := Encoder.config_of_ok hencoder
  exact ⟨by rw [hconfig]; exact hencoder, by rw [hconfig]; exact htopics, hstate⟩

theorem Agreeing.settles {cover : Cover} (h : cover.Agreeing) {change : Change}
    (hcause : cover.Causes change) : change.Settles := by
  cases hcause with
  | feedback hchannel hdecode =>
    exact (Decoder.carries_of_decode hdecode).settles (Config.ne_of_classify hchannel h.topics.state)
  | command hencode hassumed =>
    exact (Encoder.assumes_of_encode hencode hassumed).settles h.topics.position h.encoder

theorem Agreeing.quiet (h : run.cover.Agreeing) (hquiet : run.Quiet later) : later.cover.Agreeing := by
  refine ⟨?_, ?_, ?_⟩
  · rw [hquiet.config, hquiet.encoder]; exact h.encoder
  · rw [hquiet.config]; exact h.topics
  · rw [hquiet.state]; exact h.state

theorem Agreeing.makeAll {changes : List Change} (h : run.cover.Agreeing)
    (hsettles : ∀ change ∈ changes, change.Settles) : (run.makeAll changes).cover.Agreeing := by
  induction changes generalizing run with
  | nil => exact h
  | cons change changes ih =>
    rw [List.forall_mem_cons] at hsettles
    exact ih ⟨h.encoder, h.topics, hsettles.1 _ h.state⟩ hsettles.2

theorem agreeing_perform (transport : Transport σ) {act : Act} (h : run.cover.Agreeing)
    (hact : ∀ config, act.Installs config → config.PositionOnly) :
    (perform transport act run).2.cover.Agreeing := by
  cases perform_outcome transport act run with
  | changed _ changes hcause hquiet =>
    exact (h.makeAll fun change hmem => h.settles (hcause change hmem)).quiet hquiet
  | @reconfigured _ hinstalls encoder decoder hencoder _ hquiet =>
    have hreconfigured : (run.reconfigure encoder decoder).cover.Agreeing :=
      .of_config hencoder (hact _ hinstalls) h.state
    exact hreconfigured.quiet hquiet

theorem agreeing_performAll (transport : Transport σ) {acts : List Act} (h : run.cover.Agreeing)
    (hacts : ∀ act ∈ acts, ∀ config, act.Installs config → config.PositionOnly) :
    (performAll transport acts run).cover.Agreeing := by
  induction acts generalizing run with
  | nil => exact h
  | cons act acts ih =>
    rw [List.forall_mem_cons] at hacts
    exact ih (agreeing_perform transport h hacts.1) hacts.2

/-- In every state of a cover that never has a state topic and always a position topic, nothing is
known, or the status is closed at position 0 and open at all others. -/
theorem status_of_position {config : Config} (hvalid : config.validate = .ok ())
    (htopics : config.PositionOnly) (entityId : String) :
    ∃ cover, create entityId config = .ok cover ∧
      ∀ {σ : Type} (transport : Transport σ) (machine : σ) (acts : List Act),
        (∀ act ∈ acts, ∀ config, act.Installs config → config.PositionOnly) →
        (performAll transport acts (.start cover machine)).cover.state.Agrees := by
  obtain ⟨cover, hcreate, hnew⟩ := create_of_valid entityId hvalid
  refine ⟨cover, hcreate, fun transport machine acts hacts => ?_⟩
  have hstate : cover.state.Agrees := by
    rw [hnew.state]; exact State.agrees_initial _
  have hstart : (start cover machine).cover.Agreeing := .of_config hnew.encoder htopics hstate
  exact (agreeing_performAll transport hstart hacts).state

/-- A blind that is turned round between a message and a command. -/
theorem status_of_position_turned :
    let config : Config :=
      { Config.named "blind" with
        positionTopic := some "p", commandTopic := some "c", optimistic := true }
    let turned : Config := { config with positionOpened := 0, positionClosed := 100 }
    let acts : List Act := [.message "p" "40", .updateConfig turned, .execute .openCover]
    config.validate = .ok () ∧ config.PositionOnly ∧
    (∀ act ∈ acts, ∀ config, act.Installs config → config.PositionOnly) ∧
    ∃ cover, create "cover.blind" config = .ok cover ∧
      (performAll willing acts (.start cover ())).cover.state.Agrees := by
  intro config turned acts
  have hvalid : config.validate = .ok () := eq_ok_of_isOk (by decide +kernel)
  have hacts : ∀ act ∈ acts, ∀ config, act.Installs config → config.PositionOnly := by
    rintro act hact config ⟨rfl, -⟩
    have hturned : config = turned := by simpa [acts] using hact
    subst hturned
    exact ⟨rfl, rfl⟩
  obtain ⟨cover, hcreate, h⟩ := status_of_position hvalid ⟨rfl, rfl⟩ "cover.blind"
  exact ⟨hvalid, ⟨rfl, rfl⟩, hacts, cover, hcreate, h willing () acts hacts⟩

end Cover

end CoverControl
