import CoverControl.Cover.Basic

/-!
# Valid configurations

A configuration is valid if its topics can be used and its ranges are not empty (`validate_ok_iff`). A
valid one can be used: its encoder, its decoder and a cover of it exist. A new cover knows nothing but
whether it is available, which its configuration decides.
-/

namespace CoverControl

section
variable {ε α β : Type} {x : Except ε α}

theorem bind_eq_ok {f : α → Except ε β} {b : β} :
    (x >>= f) = .ok b ↔ ∃ a, x = .ok a ∧ f a = .ok b := by
  cases x <;> simp [bind, Except.bind]

theorem map_eq_ok {f : α → β} {b : β} : x.map f = .ok b ↔ ∃ a, x = .ok a ∧ f a = b := by
  cases x <;> simp [Except.map]

theorem bind_eq_error {f : α → Except ε β} {fault : ε} :
    (x >>= f) = .error fault ↔ x = .error fault ∨ ∃ a, x = .ok a ∧ f a = .error fault := by
  cases x <;> simp [bind, Except.bind]

theorem eq_ok_of_isOk {x : Except ε Unit} (h : x.isOk = true) : x = .ok () := by
  cases x with
  | ok u => rfl
  | error fault => cases h

theorem eq_ok_of_toOption {a : α} (h : x.toOption = some a) : x = .ok a := by
  cases x with
  | ok a' => cases h; rfl
  | error fault => cases h

end

theorem TiltSection.scale_default : ∃ scale, default.scale = .ok scale := by
  have hrange : ((Scale.raw default.min).eq (Scale.raw default.max)) = false := by decide +kernel
  rw [scale, Scale.tilt, Scale.ofBounds, hrange]
  exact ⟨_, rfl⟩

variable {config : Config}

/-! ### What is validated -/

namespace Config

/-- The topic that a command is published to. -/
def topicOf (config : Config) : Command → Option String
  | .openCover | .closeCover | .stopCover => config.commandTopic
  | .setPosition _ => config.setPositionTopic
  | .openTilt | .closeTilt | .setTilt _ => config.tiltCommandTopic

/-- Messages can be published to the topics of commands, and the filters can be subscribed to. -/
structure TopicsValid (config : Config) : Prop where
  published : ∀ command topic, config.topicOf command = some topic →
    Topic.checkPublished topic = .ok ()
  filters : ∀ channel filter, config.filter channel = some filter → Topic.checkFilter filter = .ok ()

/-- The ranges of a configuration are not empty. -/
structure HasScales (config : Config) : Prop where
  position : ∃ scale, config.positionScale = .ok scale
  tilt : ∀ tilt, config.tilt = some tilt → ∃ scale, tilt.scale = .ok scale

/-- Checks the ranges, which comes after the topics. -/
def checkRanges (config : Config) : Except ConfigFault Unit := do
  let _ ← config.positionScale
  match config.tilt with
  | some tilt =>
    let _ ← tilt.scale
    .ok ()
  | none => .ok ()

theorem checkRanges_ok_iff : config.checkRanges = .ok () ↔ config.HasScales := by
  rw [checkRanges, bind_eq_ok]
  constructor
  · rintro ⟨scale, hscale, h⟩
    refine ⟨⟨scale, hscale⟩, fun tilt htilt => ?_⟩
    rw [htilt] at h
    obtain ⟨scale, hscale, -⟩ := bind_eq_ok.1 h
    exact ⟨scale, hscale⟩
  · rintro ⟨⟨scale, hscale⟩, htilt⟩
    refine ⟨scale, hscale, ?_⟩
    split
    · obtain ⟨scale, hscale⟩ := htilt _ ‹_›
      exact bind_eq_ok.2 ⟨scale, hscale, rfl⟩
    · rfl

/-- The range of positions is looked at first. -/
theorem checkRanges_error_iff {fault : ConfigFault} : config.checkRanges = .error fault ↔
    config.positionScale = .error fault ∨
      (∃ scale, config.positionScale = .ok scale) ∧
        ∃ tilt, config.tilt = some tilt ∧ tilt.scale = .error fault := by
  rw [checkRanges, bind_eq_error]
  refine or_congr_right ⟨?_, ?_⟩
  · rintro ⟨scale, hscale, h⟩
    refine ⟨⟨scale, hscale⟩, ?_⟩
    split at h
    · rename_i tilt htilt
      rcases bind_eq_error.1 h with h | ⟨_, -, h⟩
      · exact ⟨tilt, htilt, h⟩
      · cases h
    · cases h
  · rintro ⟨⟨scale, hscale⟩, tilt, htilt, h⟩
    refine ⟨scale, hscale, ?_⟩
    rw [htilt]
    exact bind_eq_error.2 (.inl h)

/-- What is not the fault of a topic comes from behind the check of the topic. -/
theorem checkTopic_bind_iff {check : String → Except Topic.Fault Unit} {field : String}
    {topic : Option String} {next : Unit → Except ConfigFault Unit} {result : Except ConfigFault Unit}
    (h : ∀ field topic reason, result ≠ .error (.invalidTopic field topic reason)) :
    (checkTopic check field topic >>= next) = result ↔
      (∀ text, topic = some text → check text = .ok ()) ∧ next () = result := by
  cases topic with
  | none => simp [checkTopic, bind, Except.bind]
  | some text =>
    cases hcheck : check text with
    | ok u => simp [checkTopic, hcheck, bind, Except.bind]
    | error fault =>
      have hne := h field text fault.message
      simpa [checkTopic, hcheck, bind, Except.bind] using hne.symm

theorem validate_iff {result : Except ConfigFault Unit}
    (h : ∀ field topic reason, result ≠ .error (.invalidTopic field topic reason)) :
    config.validate = result ↔ config.TopicsValid ∧ config.checkRanges = result := by
  unfold validate
  simp only [checkTopic_bind_iff h]
  constructor
  · rintro ⟨hcommand, hposition, htilt, hstate, hfeedback, havailable, hattributes, hstatus, hranges⟩
    refine ⟨⟨fun command => ?_, fun channel => ?_⟩, hranges⟩
    · cases command <;> assumption
    · cases channel <;> assumption
  · rintro ⟨⟨hpublished, hfilters⟩, hranges⟩
    exact ⟨hpublished .stopCover, hpublished (.setPosition .closed), hpublished .openTilt,
      hfilters .state, hfilters .position, hfilters .availability, hfilters .attributes, hfilters .tilt,
      hranges⟩

theorem validate_ok_iff : config.validate = .ok () ↔ config.TopicsValid ∧ config.HasScales := by
  rw [validate_iff (by simp), checkRanges_ok_iff]

theorem topicsValid_of_valid (h : config.validate = .ok ()) : config.TopicsValid :=
  (validate_ok_iff.1 h).1

theorem hasScales_of_valid (h : config.validate = .ok ()) : config.HasScales :=
  (validate_ok_iff.1 h).2

end Config

/-! ### What a configuration is used for -/

theorem Encoder.ofConfig_of_scales (h : config.HasScales) :
    ∃ encoder, Encoder.ofConfig config = .ok encoder := by
  obtain ⟨position, hposition⟩ := h.position
  simp only [ofConfig, hposition]
  cases hsection : config.tilt with
  | none => exact ⟨_, rfl⟩
  | some tilt =>
    obtain ⟨scale, hscale⟩ := h.tilt tilt hsection
    simp only [hscale]
    exact ⟨_, rfl⟩

theorem Encoder.ofConfig_of_valid (h : config.validate = .ok ()) :
    ∃ encoder, Encoder.ofConfig config = .ok encoder :=
  ofConfig_of_scales (Config.hasScales_of_valid h)

theorem Encoder.parts_of_ok {encoder : Encoder} (h : Encoder.ofConfig config = .ok encoder) :
    encoder.config = config ∧ config.positionScale = .ok encoder.position := by
  obtain ⟨position, hposition, h⟩ := bind_eq_ok.1 h
  split at h
  · cases h; exact ⟨rfl, hposition⟩
  · obtain ⟨scale, -, h⟩ := bind_eq_ok.1 h
    cases h; exact ⟨rfl, hposition⟩

theorem Encoder.config_of_ok {encoder : Encoder} (h : Encoder.ofConfig config = .ok encoder) :
    encoder.config = config := (parts_of_ok h).1

theorem Encoder.position_of_ok {encoder : Encoder} (h : Encoder.ofConfig config = .ok encoder) :
    config.positionScale = .ok encoder.position := (parts_of_ok h).2

theorem Encoder.tilt_of_ok {encoder : Encoder} {tilt : TiltSection}
    (h : Encoder.ofConfig config = .ok encoder) (htilt : config.tilt = some tilt) :
    ∃ scale, tilt.scale = .ok scale ∧ encoder.tilt = some (tilt, scale) := by
  obtain ⟨position, -, h⟩ := bind_eq_ok.1 h
  rw [htilt] at h
  obtain ⟨scale, hscale, h⟩ := bind_eq_ok.1 h
  cases h
  exact ⟨scale, hscale, rfl⟩

theorem Encoder.tilt_eq_of_ok {encoder : Encoder} (h : Encoder.ofConfig config = .ok encoder) :
    encoder.tilt.map (·.1) = config.tilt := by
  cases hsection : config.tilt with
  | none =>
    obtain ⟨position, -, h⟩ := bind_eq_ok.1 h
    rw [hsection] at h
    cases h; rfl
  | some tilt =>
    obtain ⟨scale, -, htilt⟩ := tilt_of_ok h hsection
    rw [htilt]; rfl

theorem Encoder.hasScales_of_ok {encoder : Encoder} (h : Encoder.ofConfig config = .ok encoder) :
    config.HasScales := by
  refine ⟨⟨_, position_of_ok h⟩, fun tilt htilt => ?_⟩
  obtain ⟨scale, hscale, -⟩ := tilt_of_ok h htilt
  exact ⟨scale, hscale⟩

theorem Decoder.ofConfig_of_scales (h : config.HasScales) :
    ∃ decoder, Decoder.ofConfig config = .ok decoder := by
  obtain ⟨position, hposition⟩ := h.position
  obtain ⟨tilt, hscale⟩ : ∃ scale, config.tiltScale = .ok scale := by
    rw [Config.tiltScale]
    cases hsection : config.tilt with
    | none => exact TiltSection.scale_default
    | some tilt => exact h.tilt tilt hsection
  exact ⟨_, bind_eq_ok.2 ⟨position, hposition, bind_eq_ok.2 ⟨tilt, hscale, rfl⟩⟩⟩

theorem Decoder.ofConfig_of_valid (h : config.validate = .ok ()) :
    ∃ decoder, Decoder.ofConfig config = .ok decoder :=
  ofConfig_of_scales (Config.hasScales_of_valid h)

/-- What a decoder takes from its configuration to read numbers. -/
theorem Decoder.scales_of_ok {decoder : Decoder} (h : Decoder.ofConfig config = .ok decoder) :
    config.positionScale = .ok decoder.position ∧ config.tiltScale = .ok decoder.tilt ∧
    decoder.template = config.valueTemplate := by
  obtain ⟨position, hposition, h⟩ := bind_eq_ok.1 h
  obtain ⟨tilt, htilt, h⟩ := bind_eq_ok.1 h
  cases h
  exact ⟨hposition, htilt, rfl⟩

/-- What a decoder takes from its configuration to understand texts. -/
theorem Decoder.literals_of_ok {decoder : Decoder} (h : Decoder.ofConfig config = .ok decoder) :
    decoder.opened = config.openedLiteral ∧ decoder.closed = config.closedLiteral ∧
    decoder.available = config.payloadAvailable ∧ decoder.unavailable = config.payloadUnavailable := by
  obtain ⟨position, -, h⟩ := bind_eq_ok.1 h
  obtain ⟨tilt, -, h⟩ := bind_eq_ok.1 h
  cases h
  exact ⟨rfl, rfl, rfl, rfl⟩

theorem Decoder.render_of_plain {decoder : Decoder} (h : decoder.template = none) (payload : String) :
    decoder.render payload = .ok payload := by
  rw [render, h]

theorem Tracker.ofConfig_of_decoder {decoder : Decoder} (h : Decoder.ofConfig config = .ok decoder) :
    Tracker.ofConfig config = .ok ⟨decoder, .initial config.availabilityTopic.isNone⟩ := by
  rw [ofConfig, h]; rfl

theorem Tracker.reconfigure_of_decoder {decoder : Decoder} (tracker : Tracker)
    (h : Decoder.ofConfig config = .ok decoder) :
    tracker.reconfigure config = .ok { tracker with decoder := decoder } := by
  rw [reconfigure, h]; rfl

namespace Cover
variable {entityId : String} {cover : Cover}

/-- What a new cover starts from. -/
structure IsNew (entityId : String) (config : Config) (cover : Cover) : Prop where
  entityId : cover.entityId = entityId
  encoder : Encoder.ofConfig config = .ok cover.encoder
  decoder : Decoder.ofConfig config = .ok cover.tracker.decoder
  state : cover.state = .initial config.availabilityTopic.isNone
  listeners : cover.listeners = .empty
  activeTopics : cover.activeTopics = []

theorem IsNew.config_eq (h : cover.IsNew entityId config) : cover.config = config :=
  Encoder.config_of_ok h.encoder

theorem create_of_valid (entityId : String) (h : config.validate = .ok ()) :
    ∃ cover, create entityId config = .ok cover ∧ cover.IsNew entityId config := by
  obtain ⟨encoder, hencoder⟩ := Encoder.ofConfig_of_valid h
  obtain ⟨decoder, hdecoder⟩ := Decoder.ofConfig_of_valid h
  refine ⟨⟨entityId, encoder, ⟨decoder, .initial config.availabilityTopic.isNone⟩, .empty, []⟩, ?_,
    rfl, hencoder, hdecoder, rfl, rfl, rfl⟩
  rw [create, h, hencoder, Tracker.ofConfig_of_decoder hdecoder]; rfl

theorem isNew_of_create (h : create entityId config = .ok cover) :
    config.validate = .ok () ∧ cover.IsNew entityId config := by
  cases hvalid : config.validate with
  | ok u =>
    obtain ⟨cover', hcreate, hnew⟩ := create_of_valid entityId hvalid
    rw [hcreate] at h
    exact ⟨rfl, Except.ok.inj h ▸ hnew⟩
  | error fault => rw [create, hvalid] at h; cases h

end Cover

end CoverControl
