import CoverControl.Proofs.Cover.Renewal

/-!
# Reconfiguration

The configuration of a cover, what it encodes by and what it decodes by are replaced one after the
other, and the second and the third could be refused. They are not, because a valid configuration
has all the scales that either asks for, the default tilt scale included. So a cover never encodes
by one configuration and decodes by another (`Coherent`): that holds of a new cover and is kept by
every act, whatever the transport refuses.
-/

namespace CoverControl

namespace Cover
open Running
variable {σ : Type} {transport : Transport σ} {run later : Running σ}

/-- A cover encodes and decodes by its configuration, which is valid. -/
structure Coherent (cover : Cover) : Prop where
  valid : cover.config.validate = .ok ()
  encoder : Encoder.ofConfig cover.config = .ok cover.encoder
  decoder : Decoder.ofConfig cover.config = .ok cover.tracker.decoder

theorem coherent_of_create {entityId : String} {config : Config} {cover : Cover}
    (h : create entityId config = .ok cover) : cover.Coherent := by
  obtain ⟨hvalid, hnew⟩ := isNew_of_create h
  have hconfig : cover.config = config := hnew.config_eq
  refine ⟨?_, ?_, ?_⟩ <;> rw [hconfig]
  · exact hvalid
  · exact hnew.encoder
  · exact hnew.decoder

theorem Coherent.congr {cover cover' : Cover} (h : cover.Coherent)
    (hencoder : cover'.encoder = cover.encoder)
    (hdecoder : cover'.tracker.decoder = cover.tracker.decoder) : cover'.Coherent := by
  have hconfig : cover'.config = cover.config := congrArg Encoder.config hencoder
  refine ⟨?_, ?_, ?_⟩ <;> rw [hconfig]
  · exact h.valid
  · rw [hencoder]; exact h.encoder
  · rw [hdecoder]; exact h.decoder

theorem coherent_perform (act : Act) (h : run.cover.Coherent) :
    (perform transport act run).2.cover.Coherent := by
  cases perform_outcome transport act run with
  | changed _ changes _ hquiet =>
    refine h.congr (hquiet.encoder.trans encoder_makeAll) ?_
    rw [hquiet.tracker, decoder_makeAll]
  | @reconfigured config hact encoder decoder hencoder hdecoder hquiet =>
    have hconfig : (perform transport act run).2.cover.config = config := config_of_installs hact
    refine ⟨?_, ?_, ?_⟩ <;> rw [hconfig]
    · exact hact.2
    · rw [hquiet.encoder]; exact hencoder
    · rw [hquiet.tracker]; exact hdecoder

/-- The states that a cover can get into. Between its acts listeners come and go, and others use the
transport. -/
inductive Reachable (transport : Transport σ) : Running σ → Prop where
  | created {entityId : String} {config : Config} {cover : Cover} (machine : σ)
      (h : create entityId config = .ok cover) : Reachable transport (.start cover machine)
  | performed (act : Act) {run : Running σ} (h : Reachable transport run) :
      Reachable transport (perform transport act run).2
  | meanwhile (listeners : Listeners) (machine : σ) {run : Running σ} (h : Reachable transport run) :
      Reachable transport
        { run with cover := { run.cover with listeners := listeners }, transport := machine }

theorem Reachable.coherent (h : Reachable transport run) : run.cover.Coherent := by
  induction h with
  | created machine h => exact coherent_of_create h
  | performed act _ ih => exact coherent_perform act ih
  | meanwhile listeners machine _ ih => exact ih.congr rfl rfl

theorem reachable_performAll (acts : List Act) (h : Reachable transport run) :
    Reachable transport (performAll transport acts run) := by
  induction acts generalizing run with
  | nil => exact h
  | cons act acts ih => exact ih (h.performed act)

theorem updateConfig_refused_iff {config : Config} {fault : ConfigFault} :
    (updateConfig transport config run).1 = .error (.config fault) ↔
      config.validate = .error fault := by
  cases hvalid : config.validate with
  | ok u =>
    obtain ⟨encoder, hencoder⟩ := Encoder.ofConfig_of_valid hvalid
    obtain ⟨decoder, hdecoder⟩ := Decoder.ofConfig_of_valid hvalid
    rw [updateConfig_of_valid hvalid hencoder hdecoder]
    obtain ⟨requests, hrenewal⟩ := renewTopics_renewed transport
      ((run.report [.reconfigured run.cover.entityId]).reconfigure encoder decoder)
    exact ⟨fun h => absurd h hrenewal.ne_config, nofun⟩
  | error fault' =>
    rw [updateConfig_of_invalid hvalid]
    simp

/-- From a valid configuration everything can be built. In every state that a cover can get into, it
encodes and decodes by its configuration. To reconfigure it is refused for the fault of the new
configuration only, and then changes nothing; else the new configuration is that of the cover,
whatever becomes of the subscriptions. The state stays as it is. -/
theorem reconfigured_wholly_or_not (transport : Transport σ) :
    (∀ config : Config, config.validate = .ok () →
      ∃ encoder decoder, Encoder.ofConfig config = .ok encoder ∧
        Decoder.ofConfig config = .ok decoder ∧
        Tracker.ofConfig config = .ok ⟨decoder, .initial config.availabilityTopic.isNone⟩ ∧
        ∀ tracker : Tracker, tracker.reconfigure config = .ok { tracker with decoder := decoder }) ∧
    ∀ run, Reachable transport run → run.cover.Coherent ∧
      ∀ config,
        let outcome := perform transport (.updateConfig config) run
        (∀ fault, outcome.1 = .error (.config fault) ↔ config.validate = .error fault) ∧
        (∀ fault, outcome.1 = .error (.config fault) → outcome.2 = run) ∧
        ((∀ fault, outcome.1 ≠ .error (.config fault)) →
          outcome.2.cover.config = config ∧ outcome.2.cover.Coherent) ∧
        outcome.2.cover.state = run.cover.state := by
  refine ⟨fun config hvalid => ?_, fun run hreach => ⟨hreach.coherent, fun config => ?_⟩⟩
  · obtain ⟨encoder, hencoder⟩ := Encoder.ofConfig_of_valid hvalid
    obtain ⟨decoder, hdecoder⟩ := Decoder.ofConfig_of_valid hvalid
    exact ⟨encoder, decoder, hencoder, hdecoder, Tracker.ofConfig_of_decoder hdecoder,
      fun tracker => tracker.reconfigure_of_decoder hdecoder⟩
  · intro outcome
    have hrefused : ∀ fault, outcome.1 = .error (.config fault) ↔ config.validate = .error fault :=
      fun fault => updateConfig_refused_iff
    have hkept : ∀ fault, config.validate = .error fault → outcome.2 = run := fun fault h =>
      congrArg Prod.snd (updateConfig_of_invalid h)
    refine ⟨hrefused, fun fault h => hkept fault ((hrefused fault).1 h), fun h => ?_, ?_⟩
    · cases hvalid : config.validate with
      | ok u => exact ⟨config_of_installs ⟨rfl, hvalid⟩, coherent_perform _ hreach.coherent⟩
      | error fault => exact absurd ((hrefused fault).2 hvalid) (h fault)
    · cases hvalid : config.validate with
      | ok u => exact state_of_installs ⟨rfl, hvalid⟩
      | error fault => rw [hkept fault hvalid]

/-- The transport refuses its fourth request, an unsubscription: the second configuration is installed
all the same. The third one has an empty tilt range. -/
theorem reconfigured_wholly_or_not_brittle :
    let config := { Config.named "blind" with stateTopic := some "s", positionTopic := some "p" }
    let turned := { config with positionOpened := 80, positionClosed := 180 }
    let flat := { turned with tilt := some { TiltSection.default with min := 7, max := 7 } }
    let answer : Nat → Reply Nat := fun asked =>
      ⟨if asked = 3 then .error .requestRefused else .ok (), asked + 1, []⟩
    let brittle : Transport Nat := ⟨fun _ => answer, fun _ _ => answer, fun _ => answer⟩
    config.validate = .ok () ∧ turned.validate = .ok () ∧
    ∃ cover, create "cover.blind" config = .ok cover ∧
      let before := performAll brittle [.subscribe, .message "p" "42"] (.start cover 0)
      let changed := perform brittle (.updateConfig turned) before
      let refused := perform brittle (.updateConfig flat) changed.2
      before.cover.state.position = some ⟨42, by decide⟩ ∧
      changed.1 = .error (.transport .requestRefused) ∧ changed.2.cover.config = turned ∧
      changed.2.cover.Coherent ∧ changed.2.cover.state = before.cover.state ∧
      refused.1 = .error (.config (.emptyRange "tilt" (Scale.raw 7))) ∧ refused.2 = changed.2 := by
  intro config turned flat answer brittle
  have hvalid : config.validate = .ok () := eq_ok_of_isOk (by decide +kernel)
  have hturned : turned.validate = .ok () := eq_ok_of_isOk (by decide +kernel)
  have hflat : flat.validate = .error (.emptyRange "tilt" (Scale.raw 7)) := by decide +kernel
  have hresult : (create "cover.blind" config).map (fun cover =>
      let before := performAll brittle [.subscribe, .message "p" "42"] (.start cover 0)
      let changed := perform brittle (.updateConfig turned) before
      (before.cover.state.position, changed.1)) =
      .ok (some ⟨42, by decide⟩, .error (.transport .requestRefused)) := by decide +kernel
  obtain ⟨cover, hcreate, -⟩ := create_of_valid "cover.blind" hvalid
  refine ⟨hvalid, hturned, cover, hcreate, ?_⟩
  intro before changed refused
  rw [hcreate] at hresult
  obtain ⟨hposition, hfault⟩ := Prod.mk.inj (Except.ok.inj hresult)
  have hreach : Reachable brittle before := reachable_performAll _ (.created 0 hcreate)
  obtain ⟨-, hsettles⟩ := reconfigured_wholly_or_not brittle
  obtain ⟨-, -, hinstalled, hstate⟩ := (hsettles before hreach).2 turned
  have hne : ∀ fault, changed.1 ≠ .error (.config fault) := by
    intro fault h
    rw [hfault] at h; cases h
  obtain ⟨hconfig, hcoherent⟩ := hinstalled hne
  obtain ⟨hrefused, hkept, -, -⟩ := (hsettles changed.2 (hreach.performed _)).2 flat
  have hrefusal := (hrefused _).2 hflat
  with_reducible exact ⟨hposition, hfault, hconfig, hcoherent, hstate, hrefusal, hkept _ hrefusal⟩

end Cover

end CoverControl
