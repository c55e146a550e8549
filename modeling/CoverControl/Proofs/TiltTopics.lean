import CoverControl.Config.Json
import CoverControl.Config.Setting
import CoverControl.Proofs.Scale.Emptiness

/-!
# Tilt sections and topics

A configuration that was read has a tilt section if and only if it has a topic of the tilt. A built one
has a tilt section also if a detail of the tilt was set, a range for instance, and no topic at all
(`isSome_tilt_iff`). Such a section does nothing but to be validated: a record with the same values is read
without it, so its range can be empty there, and in the built configuration it cannot (`Config.AsRead`).
-/

namespace CoverControl

open Binary64

seal unitsPerOne unitsLimit

namespace Config
variable {config origin : Config}

/-- One of the topics of the tilt is configured. -/
def HasTiltTopic (config : Config) : Prop :=
  config.tiltCommandTopic.isSome = true ∨ config.tiltStatusTopic.isSome = true

instance : Decidable config.HasTiltTopic := inferInstanceAs (Decidable (_ ∨ _))

theorem hasTiltTopic_of_tilt {tilt : TiltSection} (h : config.tilt = some tilt) :
    config.HasTiltTopic ↔ tilt.commandTopic.isSome = true ∨ tilt.statusTopic.isSome = true := by
  simp [HasTiltTopic, tiltCommandTopic, tiltStatusTopic, h]

theorem not_hasTiltTopic (h : config.tilt = none) : ¬config.HasTiltTopic := by
  simp [HasTiltTopic, tiltCommandTopic, tiltStatusTopic, h]

theorem isSome_tilt_of_hasTiltTopic (h : config.HasTiltTopic) : config.tilt.isSome = true := by
  cases htilt : config.tilt with
  | none => exact absurd h (not_hasTiltTopic htilt)
  | some tilt => rfl

/-! ### Reading -/

/-- The configurations that settings start from. -/
inductive Origin : Config → Prop where
  | named (name : String) : Origin (.named name)
  | default : Origin .default
  | read {text : String} {config : Config} (h : ofJson text = .ok config) : Origin config

theorem tilt_of_toConfig {draft : Draft} (h : draft.toConfig = .ok config) :
    config.tilt = draft.tiltSection := by
  obtain ⟨deviceClass, -, h⟩ := bind_eq_ok.1 h
  obtain ⟨-, -, h⟩ := bind_eq_ok.1 h
  cases h; rfl

theorem exists_read {α : Type} {read : Json.Reader α} {text : String} {value : α}
    (h : Json.readText read text = .ok value) : ∃ rest, read text.toList = .ok (value, rest) := by
  obtain ⟨⟨value', rest⟩, hread, h⟩ := bind_eq_ok.1 h
  dsimp only at h
  split at h
  · cases h; exact ⟨rest, hread⟩
  · cases h

theorem exists_draft {text : String} (h : ofJson text = .ok config) :
    ∃ draft : Draft, draft.toConfig = .ok config := by
  have hread : Json.readText reader text = .ok config := by
    unfold ofJson at h
    split at h
    · cases h; assumption
    · cases h
  obtain ⟨rest, hread⟩ := exists_read hread
  obtain ⟨⟨draft, cs⟩, -, hread⟩ := bind_eq_ok.1 hread
  dsimp only at hread
  split at hread
  · cases hread; exact ⟨draft, ‹_›⟩
  · cases hread

theorem Origin.hasTiltTopic_iff (h : Origin config) : config.tilt.isSome = true ↔ config.HasTiltTopic := by
  refine ⟨fun hsome => ?_, isSome_tilt_of_hasTiltTopic⟩
  cases h with
  | named | default => cases hsome
  | read h =>
    obtain ⟨draft, hdraft⟩ := exists_draft h
    have htilt := tilt_of_toConfig hdraft
    unfold Draft.tiltSection at htilt
    split at htilt
    · rw [hasTiltTopic_of_tilt htilt, ← Bool.or_eq_true]
      assumption
    · rw [htilt] at hsome; cases hsome

end Config

/-! ### Settings -/

namespace Setting

/-- Sets a topic of the tilt. -/
def isTiltTopic : Setting → Bool
  | tiltCommandTopic _ | tiltStatusTopic _ => true
  | _ => false

/-- Sets a detail of the tilt that is no topic. -/
def isTiltDetail : Setting → Bool
  | tiltValues .. | tiltRange .. | tiltOptimistic _ => true
  | _ => false

end Setting

namespace Config
variable {config origin : Config}

theorem isSome_tilt_set (config : Config) (setting : Setting) :
    (config.set setting).tilt.isSome = true ↔
      config.tilt.isSome = true ∨ setting.isTiltTopic = true ∨ setting.isTiltDetail = true := by
  cases setting <;> simp [set, modifyTilt, Setting.isTiltTopic, Setting.isTiltDetail]

theorem hasTiltTopic_set (config : Config) (setting : Setting) :
    (config.set setting).HasTiltTopic ↔ config.HasTiltTopic ∨ setting.isTiltTopic = true := by
  cases setting <;> cases htilt : config.tilt <;>
    simp [set, modifyTilt, HasTiltTopic, tiltCommandTopic, tiltStatusTopic, htilt, Setting.isTiltTopic,
      TiltSection.default]

theorem isSome_tilt_setAll (config : Config) (settings : List Setting) :
    (config.setAll settings).tilt.isSome = true ↔
      config.tilt.isSome = true ∨
        ∃ setting ∈ settings, setting.isTiltTopic = true ∨ setting.isTiltDetail = true := by
  induction settings generalizing config with
  | nil => simp [setAll]
  | cons setting settings ih =>
    rw [setAll, List.foldl_cons, ← setAll, ih, isSome_tilt_set, List.exists_mem_cons_iff, or_assoc]

theorem hasTiltTopic_setAll (config : Config) (settings : List Setting) :
    (config.setAll settings).HasTiltTopic ↔
      config.HasTiltTopic ∨ ∃ setting ∈ settings, setting.isTiltTopic = true := by
  induction settings generalizing config with
  | nil => simp [setAll]
  | cons setting settings ih =>
    rw [setAll, List.foldl_cons, ← setAll, ih, hasTiltTopic_set, List.exists_mem_cons_iff, or_assoc]

theorem Origin.isSome_tilt_setAll (h : Origin origin) (settings : List Setting) :
    (origin.setAll settings).tilt.isSome = true ↔ (origin.setAll settings).HasTiltTopic ∨
      ∃ setting ∈ settings, setting.isTiltDetail = true := by
  rw [Config.isSome_tilt_setAll, hasTiltTopic_setAll, h.hasTiltTopic_iff, or_assoc]
  refine or_congr_right ⟨?_, ?_⟩
  · rintro ⟨setting, hmem, htopic | hdetail⟩
    · exact .inl ⟨setting, hmem, htopic⟩
    · exact .inr ⟨setting, hmem, hdetail⟩
  · rintro (⟨setting, hmem, htopic⟩ | ⟨setting, hmem, hdetail⟩)
    · exact ⟨setting, hmem, .inl htopic⟩
    · exact ⟨setting, hmem, .inr hdetail⟩

end Config

/-! ### Validation -/

theorem DeviceClass.ofName?_name (deviceClass : DeviceClass) : ofName? deviceClass.name = .ok deviceClass := by
  cases deviceClass <;> rfl

/-- The record with the values of a configuration; records have no templates. -/
def Draft.ofConfig (config : Config) : Draft where
  config := { config with valueTemplate := none, positionTemplate := none }
  tilt := config.tilt.getD .default
  deviceClass := config.deviceClass.map DeviceClass.name

namespace Config
variable {config origin : Config}

/-- The tilt section that is left of a configuration in a record. -/
def recordedTilt (config : Config) : Option TiltSection :=
  if config.HasTiltTopic then config.tilt else none

theorem map_toConfig {draft : Draft} {deviceClass : Option DeviceClass}
    (h : draft.deviceClass.mapM DeviceClass.ofName? = .ok deviceClass) :
    draft.toConfig.map (fun _ => ()) =
      { draft.config with deviceClass := deviceClass, tilt := draft.tiltSection }.validate := by
  rw [Draft.toConfig, h]
  show Except.map _ (validate _ >>= fun _ => .ok _) = _
  cases validate { draft.config with deviceClass := deviceClass, tilt := draft.tiltSection } <;> rfl

theorem map_toConfig_ofConfig (config : Config) :
    (Draft.ofConfig config).toConfig.map (fun _ => ()) =
      { config with tilt := config.recordedTilt }.validate := by
  have hclass : (Draft.ofConfig config).deviceClass.mapM DeviceClass.ofName? = .ok config.deviceClass := by
    rw [Draft.ofConfig]
    cases config.deviceClass with
    | none => rfl
    | some deviceClass => simp [DeviceClass.ofName?_name]
  have htilt : (Draft.ofConfig config).tiltSection = config.recordedTilt := by
    rw [Draft.tiltSection, recordedTilt]
    cases htilt : config.tilt with
    | none => simp [Draft.ofConfig, htilt, TiltSection.default, not_hasTiltTopic htilt]
    | some tilt => simp [Draft.ofConfig, htilt, hasTiltTopic_of_tilt htilt]
  rw [map_toConfig hclass, htilt]
  rfl

/-- The checks of topics, which come before those of ranges. -/
def checkTopics (config : Config) : Except ConfigFault Unit := do
  checkTopic Topic.checkPublished "command_topic" config.commandTopic
  checkTopic Topic.checkPublished "set_position_topic" config.setPositionTopic
  checkTopic Topic.checkPublished "tilt_command_topic" config.tiltCommandTopic
  checkTopic Topic.checkFilter "state_topic" config.stateTopic
  checkTopic Topic.checkFilter "position_topic" config.positionTopic
  checkTopic Topic.checkFilter "availability_topic" config.availabilityTopic
  checkTopic Topic.checkFilter "json_attributes_topic" config.attributesTopic
  checkTopic Topic.checkFilter "tilt_status_topic" config.tiltStatusTopic

theorem validate_eq (config : Config) : config.validate = config.checkTopics >>= fun _ => config.checkRanges := by
  simp only [checkTopics, bind_assoc]
  rfl

theorem checkRanges_without_tilt (h : ∀ bound, config.checkRanges ≠ .error (.emptyRange "tilt" bound)) :
    { config with tilt := none }.checkRanges = config.checkRanges := by
  have hposition : { config with tilt := none }.positionScale = config.positionScale := rfl
  cases hresult : config.checkRanges with
  | ok u =>
    obtain ⟨hscale, -⟩ := checkRanges_ok_iff.1 hresult
    rw [← hposition] at hscale
    exact checkRanges_ok_iff.2 ⟨hscale, by rintro _ ⟨⟩⟩
  | error fault =>
    rcases checkRanges_error_iff.1 hresult with hscale | ⟨-, tilt, -, htilt⟩
    · rw [← hposition] at hscale
      exact checkRanges_error_iff.2 (.inl hscale)
    · obtain ⟨rfl, -⟩ := scale_error_iff.1 htilt
      exact absurd hresult (h _)

/-- Without a topic of the tilt, a tilt section matters only if its range is empty. -/
theorem validate_without_tilt (htopic : ¬config.HasTiltTopic)
    (h : ∀ bound, config.validate ≠ .error (.emptyRange "tilt" bound)) :
    { config with tilt := none }.validate = config.validate := by
  obtain ⟨hcommand, hstatus⟩ : config.tiltCommandTopic = none ∧ config.tiltStatusTopic = none := by
    simpa [HasTiltTopic] using htopic
  have htopics : { config with tilt := none }.checkTopics = config.checkTopics := by
    rw [checkTopics, checkTopics, hcommand, hstatus]
    rfl
  rw [validate_eq] at h
  rw [validate_eq, validate_eq, htopics]
  cases hchecked : config.checkTopics with
  | error fault =>
    have hstop (next : Unit → Except ConfigFault Unit) : (.error fault >>= next) = .error fault := rfl
    rw [hstop, hstop]
  | ok u =>
    have hnext (next : Unit → Except ConfigFault Unit) : (.ok u >>= next) = next u := rfl
    rw [hchecked, hnext] at h
    rw [hnext, hnext, checkRanges_without_tilt h]

/-- A record with the values of a configuration is accepted, or refused with some fault, as the
configuration itself is. -/
def JudgedAsRecord (config : Config) : Prop :=
  (Draft.ofConfig config).toConfig.map (fun _ => ()) = config.validate

theorem judgedAsRecord_iff : config.JudgedAsRecord ↔
    config.HasTiltTopic ∨ ∀ bound, config.validate ≠ .error (.emptyRange "tilt" bound) := by
  rw [JudgedAsRecord, map_toConfig_ofConfig, recordedTilt]
  split
  · simp [*]
  · rename_i htopic
    rw [or_iff_right htopic]
    refine ⟨fun hsame bound hempty => ?_, validate_without_tilt htopic⟩
    rw [hempty] at hsame
    obtain ⟨-, hfirst⟩ := validate_empty_iff.1 hsame
    generalize hfault : ConfigFault.emptyRange "tilt" bound = fault at hfirst
    cases hfirst with
    | position => simp at hfault
    | tilt _ hsection => cases hsection

/-! ### Built configurations -/

/-- A built configuration has a tilt section if and only if it has a topic of the tilt or a detail of the
tilt was set; and it is judged as a record with the same values if and only if it has such a topic or is not
refused for the range of its tilt. -/
theorem isSome_tilt_iff (horigin : Origin origin) (settings : List Setting) :
    let config := origin.setAll settings
    (config.tilt.isSome = true ↔
      config.HasTiltTopic ∨ ∃ setting ∈ settings, setting.isTiltDetail = true) ∧
    (config.JudgedAsRecord ↔
      config.HasTiltTopic ∨ ∀ bound, config.validate ≠ .error (.emptyRange "tilt" bound)) :=
  ⟨horigin.isSome_tilt_setAll settings, judgedAsRecord_iff⟩

/-- A configuration that was read without a tilt section is given an empty range and then a topic. -/
theorem isSome_tilt_iff_read :
    let settings : List Setting := [.tiltRange 7 7 true, .tiltStatusTopic "t"]
    ∃ origin, Origin origin ∧ ofJson "\x7b\"name\": \"blind\", \"tilt_min\": 5\x7d" = .ok origin ∧
      (origin.setAll settings).tilt.isSome = true ∧ (origin.setAll settings).JudgedAsRecord := by
  intro settings
  have hisOk : (ofJson "\x7b\"name\": \"blind\", \"tilt_min\": 5\x7d").isOk = true := by decide +kernel
  cases hread : ofJson "\x7b\"name\": \"blind\", \"tilt_min\": 5\x7d" with
  | error fault => rw [hread] at hisOk; cases hisOk
  | ok origin =>
    have htopic : (origin.setAll settings).HasTiltTopic :=
      (hasTiltTopic_setAll origin settings).2 (.inr ⟨.tiltStatusTopic "t", by simp [settings], rfl⟩)
    obtain ⟨hpresent, hjudged⟩ := isSome_tilt_iff (.read hread) settings
    exact ⟨origin, .read hread, rfl, hpresent.2 (.inl htopic), hjudged.2 (.inl htopic)⟩

/-- A range is set, and no topic: there is a tilt section, and the range is refused that a record may have. -/
theorem tilt_without_topic :
    let config := (named "blind").setAll [.tiltRange 10 10 false]
    Origin (named "blind") ∧ config.tilt.isSome = true ∧ ¬config.HasTiltTopic ∧
    config.validate = .error (.emptyRange "tilt" (Scale.raw 10)) ∧
    (Draft.ofConfig config).toConfig.isOk = true := by
  refine ⟨.named "blind", rfl, by decide, by decide +kernel, by decide +kernel⟩

end Config

end CoverControl
