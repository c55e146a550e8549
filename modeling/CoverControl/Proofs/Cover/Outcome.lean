import CoverControl.Cover.Run
import CoverControl.Proofs.Config

/-!
# What an act comes to

Requests to the transport alter only the entity id and the active filters of a cover (`Quiet`),
whatever is answered and wherever an operation ends. So an act comes to one of two things
(`Outcome`): some changes are made, each announced if it alters the state, or the cover is
reconfigured, which keeps the state. The changes are those that the act gives rise to: a message
what it means on its channels, a command what it assumes. Statements about runs follow from these
two cases.
-/

namespace CoverControl

namespace Running
variable {σ : Type} {run later latest : Running σ} {change : Change} {changes changes' : List Change}

/-- From `run` to `later` the cover stayed as it was, whatever became of the transport. -/
structure Still (run later : Running σ) : Prop where
  cover : later.cover = run.cover
  notices : later.notices = run.notices

/-- From `run` to `later` nothing happened but requests and reports. -/
structure Quiet (run later : Running σ) : Prop where
  encoder : later.cover.encoder = run.cover.encoder
  tracker : later.cover.tracker = run.cover.tracker
  listeners : later.cover.listeners = run.cover.listeners
  notices : later.notices = run.notices

theorem Still.refl (run : Running σ) : run.Still run := ⟨rfl, rfl⟩

theorem Still.trans (h₁ : run.Still later) (h₂ : later.Still latest) : run.Still latest :=
  ⟨h₂.cover.trans h₁.cover, h₂.notices.trans h₁.notices⟩

theorem Still.quiet (h : run.Still later) : run.Quiet later := by
  refine ⟨?_, ?_, ?_, h.notices⟩ <;> rw [h.cover]

theorem Quiet.refl (run : Running σ) : run.Quiet run := (Still.refl run).quiet

theorem Quiet.trans (h₁ : run.Quiet later) (h₂ : later.Quiet latest) : run.Quiet latest :=
  ⟨h₂.encoder.trans h₁.encoder, h₂.tracker.trans h₁.tracker, h₂.listeners.trans h₁.listeners,
    h₂.notices.trans h₁.notices⟩

theorem Quiet.config (h : run.Quiet later) : later.cover.config = run.cover.config :=
  congrArg Encoder.config h.encoder

theorem Quiet.state (h : run.Quiet later) : later.cover.state = run.cover.state :=
  congrArg Tracker.state h.tracker

/-! ### Changes -/

/-- Makes a change, and announces it if it alters the state. -/
def make (run : Running σ) (change : Change) : Running σ :=
  { run with
    cover := (run.cover.applyChange change).1
    notices := run.notices ++ (run.cover.applyChange change).2 }

def makeAll (run : Running σ) (changes : List Change) : Running σ := changes.foldl make run

theorem makeAll_cons : run.makeAll (change :: changes) = (run.make change).makeAll changes := rfl

theorem makeAll_append : run.makeAll (changes ++ changes') = (run.makeAll changes).makeAll changes' :=
  List.foldl_append

@[simp] theorem state_make : (run.make change).cover.state = (run.cover.state.apply change).1 := rfl

/-- What no single change alters, several do not alter either. -/
theorem eq_makeAll {α : Type} (part : Cover → α)
    (hpart : ∀ cover change, part (Cover.applyChange cover change).1 = part cover) :
    part (run.makeAll changes).cover = part run.cover := by
  induction changes generalizing run with
  | nil => rfl
  | cons change changes ih => rw [makeAll_cons, ih]; exact hpart _ _

@[simp] theorem encoder_makeAll : (run.makeAll changes).cover.encoder = run.cover.encoder :=
  eq_makeAll Cover.encoder fun _ _ => rfl

@[simp] theorem decoder_makeAll :
    (run.makeAll changes).cover.tracker.decoder = run.cover.tracker.decoder :=
  eq_makeAll (fun cover => cover.tracker.decoder) fun _ _ => rfl

@[simp] theorem activeTopics_makeAll :
    (run.makeAll changes).cover.activeTopics = run.cover.activeTopics :=
  eq_makeAll Cover.activeTopics fun _ _ => rfl

theorem Still.make (h : run.Still later) : (run.make change).Still (later.make change) := by
  refine ⟨?_, ?_⟩ <;> simp only [Running.make, h.cover, h.notices]

theorem Still.makeAll (h : run.Still later) : (run.makeAll changes).Still (later.makeAll changes) := by
  induction changes generalizing run later with
  | nil => exact h
  | cons change changes ih => exact ih h.make

/-- Encodes and decodes by another configuration from now on. -/
def reconfigure (run : Running σ) (encoder : Encoder) (decoder : Decoder) : Running σ :=
  { run with cover := { run.cover with
      encoder := encoder, tracker := { run.cover.tracker with decoder := decoder } } }

/-- Takes over what the handling of a message came to. -/
def absorb (run : Running σ) (handled : Handled) : Running σ :=
  { run with
    cover := handled.cover
    notices := run.notices ++ handled.notices
    journal := run.journal ++ handled.journal }

end Running

namespace Cover
open Running
variable {σ : Type} {transport : Transport σ} {run later : Running σ}

/-! ### Requests -/

/-- A transport that does whatever it is asked. -/
def willing : Transport Unit :=
  ⟨fun _ u => ⟨.ok (), u, []⟩, fun _ _ u => ⟨.ok (), u, []⟩, fun _ u => ⟨.ok (), u, []⟩⟩

theorem unsubscribeAll_quiet (topics : List String) (run : Running σ) :
    run.Quiet (unsubscribeAll transport topics run).2 := by
  induction topics generalizing run with
  | nil => exact ⟨rfl, rfl, rfl, rfl⟩
  | cons topic topics ih =>
    simp only [unsubscribeAll]
    split
    · exact ⟨rfl, rfl, rfl, rfl⟩
    · refine Quiet.trans ?_ (ih _)
      exact ⟨rfl, rfl, rfl, rfl⟩

theorem subscribeAll_quiet (qos : Qos) (topics : List String) (run : Running σ) :
    run.Quiet (subscribeAll transport qos topics run).2 := by
  induction topics generalizing run with
  | nil => exact .refl run
  | cons topic topics ih =>
    simp only [subscribeAll]
    split
    · exact ih run
    split
    · exact ⟨rfl, rfl, rfl, rfl⟩
    · refine Quiet.trans ?_ (ih _)
      exact ⟨rfl, rfl, rfl, rfl⟩

theorem renewTopics_quiet (run : Running σ) : run.Quiet (renewTopics transport run).2 := by
  have h : run.Quiet (unsubscribeAll transport run.cover.activeTopics run).2 := unsubscribeAll_quiet _ _
  rw [renewTopics]
  split <;> rename_i heq <;> rw [heq] at h
  · exact h
  · exact h.trans (subscribeAll_quiet _ _ _)

theorem rename_quiet (entityId : String) (run : Running σ) :
    run.Quiet (rename transport entityId run).2 := by
  refine Quiet.trans ?_ (renewTopics_quiet _)
  exact ⟨rfl, rfl, rfl, rfl⟩

theorem remove_quiet (run : Running σ) : run.Quiet (remove transport run).2 := by
  refine Quiet.trans ?_ (unsubscribeAll_quiet _ _)
  exact ⟨rfl, rfl, rfl, rfl⟩

theorem send_still (command : Command) (run : Running σ) :
    run.Still (send transport command run).2 := by
  unfold send
  split
  · exact .refl run
  dsimp only
  split <;> exact ⟨rfl, rfl⟩

theorem assume_eq (order : Order) (run : Running σ) :
    assume order run = run.makeAll order.assumed.toList := by
  unfold assume
  split <;> rename_i heq <;> rw [heq] <;> rfl

theorem encode_of_send {command : Command} {order : Order}
    (h : send transport command run = (.ok order, later)) :
    run.cover.encoder.encode command = .ok order := by
  unfold send at h
  split at h
  · cases h
  · rename_i order' hencode
    dsimp only at h
    split at h
    · cases h
    · cases h; exact hencode

/-! ### Messages -/

/-- What a payload means on some channels, in their order. -/
def meanings (decoder : Decoder) (payload : String) (channels : List Channel) : List Change :=
  channels.filterMap fun channel => (decoder.decode channel payload).toOption

/-- What a message means to a cover. -/
def feedback (cover : Cover) (topic payload : String) : List Change :=
  meanings cover.tracker.decoder payload (cover.config.classify topic)

theorem handleChannel_still (topic payload : String) (channel : Channel) (run : Running σ) :
    (run.makeAll (meanings run.cover.tracker.decoder payload [channel])).Still
      (run.absorb (run.cover.handleChannel topic payload channel)) := by
  unfold handleChannel meanings
  cases hdecode : run.cover.tracker.decoder.decode channel payload with
  | error fault =>
    simp only [hdecode, Except.toOption, List.filterMap_cons, List.filterMap_nil]
    exact ⟨rfl, List.append_nil _⟩
  | ok change =>
    simp only [hdecode, Except.toOption, List.filterMap_cons, List.filterMap_nil]
    split <;> rename_i heq
    all_goals
      refine ⟨?_, ?_⟩ <;> simp only [makeAll, List.foldl, make, absorb, heq]

theorem handleChannels_still (topic payload : String) (channels : List Channel) (run : Running σ) :
    (run.makeAll (meanings run.cover.tracker.decoder payload channels)).Still
      (run.absorb (handleChannels topic payload channels run.cover)) := by
  induction channels generalizing run with
  | nil => exact ⟨rfl, List.append_nil _⟩
  | cons channel channels ih =>
    have hfirst := handleChannel_still topic payload channel run
    have hrest := ih (run.absorb (run.cover.handleChannel topic payload channel))
    have hcons : run.absorb (handleChannels topic payload (channel :: channels) run.cover) =
        (run.absorb (run.cover.handleChannel topic payload channel)).absorb
          (handleChannels topic payload channels
            (run.absorb (run.cover.handleChannel topic payload channel)).cover) := by
      simp only [absorb, handleChannels, List.append_assoc]
    have hmeanings : meanings run.cover.tracker.decoder payload (channel :: channels) =
        meanings run.cover.tracker.decoder payload [channel] ++
          meanings run.cover.tracker.decoder payload channels :=
      List.filterMap_append (l := [channel])
    have hdecoder : (run.absorb (run.cover.handleChannel topic payload channel)).cover.tracker.decoder =
        run.cover.tracker.decoder := by rw [hfirst.cover, decoder_makeAll]
    rw [hdecoder] at hrest
    rw [hcons, hmeanings, makeAll_append]
    exact hfirst.makeAll.trans hrest

theorem hear_still (topic payload : String) (run : Running σ) :
    (run.makeAll (run.cover.feedback topic payload)).Still (hear topic payload run) := by
  have hhear : hear topic payload run = run.absorb (run.cover.handleMessage topic payload) := rfl
  rw [hhear, handleMessage, feedback]
  split
  · rename_i hnone
    rw [hnone]
    exact ⟨rfl, List.append_nil _⟩
  · exact handleChannels_still topic payload _ run

/-! ### Acts -/

/-- What may change a cover: feedback, or what a command assumes. -/
inductive Causes (cover : Cover) : Change → Prop where
  | feedback {topic payload : String} {channel : Channel} {change : Change}
      (hchannel : channel ∈ cover.config.classify topic)
      (hdecode : cover.tracker.decoder.decode channel payload = .ok change) : Causes cover change
  | command {command : Command} {order : Order} {change : Change}
      (hencode : cover.encoder.encode command = .ok order)
      (hassumed : order.assumed = some change) : Causes cover change

theorem causes_of_feedback {cover : Cover} {topic payload : String} {change : Change}
    (h : change ∈ cover.feedback topic payload) : cover.Causes change := by
  obtain ⟨channel, hchannel, hdecode⟩ := List.mem_filterMap.1 h
  exact .feedback hchannel (eq_ok_of_toOption hdecode)

/-- An act by which a configuration becomes that of the cover. -/
def Act.Installs (act : Act) (config : Config) : Prop :=
  act = .updateConfig config ∧ config.validate = .ok ()

theorem Act.Installs.unique {act : Act} {config config' : Config} (h : act.Installs config)
    (h' : act.Installs config') : config = config' := by
  obtain ⟨rfl, -⟩ := h
  cases h'.1; rfl

/-- What an act comes to. A configuration that is not valid is refused. -/
inductive Outcome (act : Act) (run later : Running σ) : Prop where
  | changed (hact : ∀ config, ¬act.Installs config) (changes : List Change)
      (hcause : ∀ change ∈ changes, run.cover.Causes change)
      (hquiet : (run.makeAll changes).Quiet later)
  | reconfigured {config : Config} (hact : act.Installs config) {encoder : Encoder}
      {decoder : Decoder} (hencoder : Encoder.ofConfig config = .ok encoder)
      (hdecoder : Decoder.ofConfig config = .ok decoder)
      (hquiet : (run.reconfigure encoder decoder).Quiet later)

theorem Outcome.quiet {act : Act} (hact : ∀ config, ¬act.Installs config) (h : run.Quiet later) :
    Outcome act run later :=
  .changed hact [] (by simp) h

theorem execute_outcome (command : Command) (run : Running σ) :
    Outcome (.execute command) run (execute transport command run).2 := by
  have hstill : run.Still (send transport command run).2 := send_still _ _
  unfold execute
  split <;> rename_i heq <;> rw [heq] at hstill
  · exact .quiet (by rintro _ ⟨⟨⟩, -⟩) hstill.quiet
  · rename_i order later
    refine .changed (by rintro _ ⟨⟨⟩, -⟩) order.assumed.toList (fun change h => ?_) ?_
    · exact .command (encode_of_send heq) (Option.mem_toList.1 h)
    · rw [assume_eq]; exact hstill.makeAll.quiet

theorem updateConfig_of_valid {config : Config} {encoder : Encoder} {decoder : Decoder}
    (hvalid : config.validate = .ok ()) (hencoder : Encoder.ofConfig config = .ok encoder)
    (hdecoder : Decoder.ofConfig config = .ok decoder) :
    updateConfig transport config run = renewTopics transport
      ((run.report [.reconfigured run.cover.entityId]).reconfigure encoder decoder) := by
  have htracker := run.cover.tracker.reconfigure_of_decoder hdecoder
  simp only [updateConfig, hvalid, hencoder, htracker]; rfl

theorem updateConfig_of_invalid {config : Config} {fault : ConfigFault}
    (hfault : config.validate = .error fault) :
    updateConfig transport config run = (.error (.config fault), run) := by
  simp only [updateConfig, hfault]; rfl

theorem updateConfig_outcome (config : Config) (run : Running σ) :
    Outcome (.updateConfig config) run (updateConfig transport config run).2 := by
  cases hvalid : config.validate with
  | ok u =>
    obtain ⟨encoder, hencoder⟩ := Encoder.ofConfig_of_valid hvalid
    obtain ⟨decoder, hdecoder⟩ := Decoder.ofConfig_of_valid hvalid
    refine .reconfigured ⟨rfl, hvalid⟩ hencoder hdecoder ?_
    rw [updateConfig_of_valid hvalid hencoder hdecoder]
    refine Quiet.trans ?_ (renewTopics_quiet _)
    exact ⟨rfl, rfl, rfl, rfl⟩
  | error fault =>
    refine .quiet (by rintro _ ⟨⟨⟩, h⟩; rw [hvalid] at h; cases h) ?_
    rw [updateConfig_of_invalid hvalid]
    exact .refl run

theorem perform_outcome (transport : Transport σ) (act : Act) (run : Running σ) :
    Outcome act run (perform transport act run).2 := by
  cases act with
  | message topic payload =>
    refine .changed (by rintro _ ⟨⟨⟩, -⟩) (run.cover.feedback topic payload) ?_ ?_
    · exact fun change h => causes_of_feedback h
    · exact (hear_still topic payload run).quiet
  | execute command => exact execute_outcome command run
  | subscribe => exact .quiet (by rintro _ ⟨⟨⟩, -⟩) (subscribeAll_quiet _ _ _)
  | rename entityId => exact .quiet (by rintro _ ⟨⟨⟩, -⟩) (rename_quiet _ _)
  | updateConfig config => exact updateConfig_outcome config run
  | remove => exact .quiet (by rintro _ ⟨⟨⟩, -⟩) (remove_quiet _)

/-! ### Configurations -/

theorem config_of_installs {act : Act} {config : Config} (h : act.Installs config) :
    (perform transport act run).2.cover.config = config := by
  cases perform_outcome transport act run with
  | changed hact => exact absurd h (hact config)
  | reconfigured hact hencoder _ hquiet =>
    rw [hquiet.config, h.unique hact]; exact Encoder.config_of_ok hencoder

theorem config_of_not_installs {act : Act} (h : ∀ config, ¬act.Installs config) :
    (perform transport act run).2.cover.config = run.cover.config := by
  cases perform_outcome transport act run with
  | changed _ changes _ hquiet => exact hquiet.config.trans (congrArg Encoder.config encoder_makeAll)
  | reconfigured hact => exact absurd hact (h _)

theorem state_of_installs {act : Act} {config : Config} (h : act.Installs config) :
    (perform transport act run).2.cover.state = run.cover.state := by
  cases perform_outcome transport act run with
  | changed hact => exact absurd h (hact config)
  | reconfigured _ _ _ hquiet => exact hquiet.state

theorem performAll_append (before after : List Act) :
    performAll transport (before ++ after) run =
      performAll transport after (performAll transport before run) := by
  induction before generalizing run with
  | nil => rfl
  | cons act before ih => exact ih

end Cover

end CoverControl
