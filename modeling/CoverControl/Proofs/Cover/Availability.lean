import CoverControl.Proofs.Changes
import CoverControl.Proofs.Cover.Outcome
import CoverControl.Proofs.State
import Mathlib.Data.List.Induction

/-!
# Covers without an availability topic

A new cover is available if no topic reports its availability, and while there is no such topic
nothing alters the availability: neither feedback on another channel nor a command sets it. But a
new configuration keeps the state. So a cover that is unavailable when its availability topic is
dropped stays so, until a configuration with such a topic is installed (`Stranded`), and there is no
other way for a cover without the topic to be unavailable.
-/

namespace CoverControl

/-! ### Changes that leave the availability alone -/

/-- A change without a single change of the availability. -/
def Change.AvoidsAvailability (change : Change) : Prop :=
  ∀ available, .availability available ∉ change.leaves

theorem Decoder.avoids_of_decode {decoder : Decoder} {channel : Channel} {payload : String}
    {change : Change} (h : decoder.decode channel payload = .ok change)
    (hchannel : channel ≠ .availability) : change.AvoidsAvailability := by
  cases carries_of_decode h with
  | availability => exact absurd rfl hchannel
  | status | position | tilt | attributes =>
    simp [Change.AvoidsAvailability, Change.positionFeedback, Change.leaves, Change.leavesOfAll]

theorem Encoder.avoids_of_assumed {encoder : Encoder} {command : Command} {order : Order}
    {change : Change} (h : encoder.encode command = .ok order) (hassumed : order.assumed = some change) :
    change.AvoidsAvailability := by
  have hend : ∀ (status : Status) (raw : Int64), (encoder.endChange status raw).AvoidsAvailability := by
    intro status raw
    rw [endChange]
    split <;> simp [Change.AvoidsAvailability, Change.leaves, Change.leavesOfAll]
  cases assumes_of_encode h hassumed with
  | opened | closed => exact hend _ _
  | position | tilt =>
    simp [Change.AvoidsAvailability, Change.positionFeedback, Change.leaves, Change.leavesOfAll]

namespace Cover
open Running
variable {σ : Type} {transport : Transport σ} {run : Running σ}

theorem Causes.avoids {cover : Cover} {change : Change} (h : cover.Causes change)
    (hnone : cover.config.availabilityTopic = none) : change.AvoidsAvailability := by
  cases h with
  | feedback hchannel hdecode =>
    exact Decoder.avoids_of_decode hdecode (Config.ne_of_classify hchannel hnone)
  | command hencode hassumed => exact Encoder.avoids_of_assumed hencode hassumed

theorem available_makeAll {changes : List Change} (h : ∀ change ∈ changes, change.AvoidsAvailability) :
    (run.makeAll changes).cover.state.available = run.cover.state.available := by
  induction changes generalizing run with
  | nil => rfl
  | cons change changes ih =>
    rw [makeAll_cons, ih fun c hc => h c (List.mem_cons_of_mem _ hc), state_make,
      State.available_apply change (h change List.mem_cons_self)]

/-- Without a topic that reports it, the availability stays as it is. -/
theorem available_perform (act : Act) (hnone : run.cover.config.availabilityTopic = none) :
    (perform transport act run).2.cover.state.available = run.cover.state.available := by
  cases perform_outcome transport act run with
  | changed _ changes hcause hquiet =>
    rw [hquiet.state, available_makeAll fun change h => (hcause change h).avoids hnone]
  | reconfigured _ _ _ hquiet => rw [hquiet.state]; rfl

/-- In a run, the availability topic was dropped while the cover was unavailable, and no
configuration with such a topic was installed since. -/
def Stranded (transport : Transport σ) (start : Running σ) (acts : List Act) : Prop :=
  ∃ before act config after, acts = before ++ act :: after ∧
    act.Installs config ∧ config.availabilityTopic = none ∧
    (performAll transport before start).cover.config.availabilityTopic ≠ none ∧
    (performAll transport before start).cover.state.available = false ∧
    ∀ act' ∈ after, ∀ config', act'.Installs config' → config'.availabilityTopic = none

theorem not_stranded_nil : ¬Stranded transport run [] := by
  rintro ⟨before, act, _, after, heq, -⟩
  cases before <;> cases heq

theorem stranded_concat {acts : List Act} {act : Act} :
    Stranded transport run (acts ++ [act]) ↔
      (∃ config, act.Installs config ∧ config.availabilityTopic = none ∧
        (performAll transport acts run).cover.config.availabilityTopic ≠ none ∧
        (performAll transport acts run).cover.state.available = false) ∨
      (Stranded transport run acts ∧ ∀ config, act.Installs config → config.availabilityTopic = none) := by
  constructor
  · rintro ⟨before, drop, config, after, heq, hinstalls, hnone, htopic, havail, hafter⟩
    rcases List.eq_nil_or_concat after with rfl | ⟨after, last, rfl⟩
    · obtain ⟨rfl, hlast⟩ := List.append_inj' heq rfl
      cases hlast
      exact .inl ⟨config, hinstalls, hnone, htopic, havail⟩
    · have hsplit : acts ++ [act] = (before ++ drop :: after) ++ [last] := by
        rw [heq, List.concat_eq_append, List.append_assoc, List.cons_append]
      obtain ⟨hacts, hlast⟩ := List.append_inj' hsplit rfl
      cases hlast
      refine .inr ⟨⟨before, drop, config, after, hacts, hinstalls, hnone, htopic, havail, ?_⟩, ?_⟩
      · exact fun act' h => hafter act' (by simp [h])
      · exact hafter act (by simp)
  · rintro (⟨config, hinstalls, hnone, htopic, havail⟩ | ⟨⟨before, drop, config, after, rfl, h⟩, hact⟩)
    · exact ⟨acts, act, config, [], rfl, hinstalls, hnone, htopic, havail, by simp⟩
    · obtain ⟨hinstalls, hnone, htopic, havail, hafter⟩ := h
      refine ⟨before, drop, config, after ++ [act], by simp, hinstalls, hnone, htopic, havail, ?_⟩
      intro act' hmem
      rcases List.mem_append.1 hmem with hmem | hmem
      · exact hafter act' hmem
      · rw [List.mem_singleton.1 hmem]; exact hact

/-- A stranded cover has no availability topic. -/
theorem Stranded.config {acts : List Act} (h : Stranded transport run acts) :
    (performAll transport acts run).cover.config.availabilityTopic = none := by
  induction acts using List.reverseRecOn with
  | nil => exact absurd h not_stranded_nil
  | append_singleton acts act ih =>
    rw [performAll_append]
    show (perform transport act _).2.cover.config.availabilityTopic = none
    by_cases hinstalls : ∃ config, act.Installs config
    · obtain ⟨config, hinstalls⟩ := hinstalls
      rw [config_of_installs hinstalls]
      rcases stranded_concat.1 h with ⟨config', hinstalls', hnone, -⟩ | ⟨-, hact⟩
      · rw [hinstalls.unique hinstalls']; exact hnone
      · exact hact config hinstalls
    · rw [config_of_not_installs fun config h => hinstalls ⟨config, h⟩]
      rcases stranded_concat.1 h with ⟨config', hinstalls', -⟩ | ⟨h, -⟩
      · exact absurd ⟨config', hinstalls'⟩ hinstalls
      · exact ih h

theorem available_iff {acts : List Act}
    (hstart : run.cover.state.available = run.cover.config.availabilityTopic.isNone)
    (hnone : (performAll transport acts run).cover.config.availabilityTopic = none) :
    (performAll transport acts run).cover.state.available = false ↔ Stranded transport run acts := by
  induction acts using List.reverseRecOn with
  | nil =>
    have hnone : run.cover.config.availabilityTopic = none := hnone
    show run.cover.state.available = false ↔ _
    rw [hstart, hnone]
    exact ⟨by rintro ⟨⟩, fun h => absurd h not_stranded_nil⟩
  | append_singleton acts act ih =>
    have hlast : performAll transport (acts ++ [act]) run =
        (perform transport act (performAll transport acts run)).2 := performAll_append _ _
    rw [hlast] at hnone ⊢
    rw [stranded_concat]
    by_cases hinstalls : ∃ config, act.Installs config
    · obtain ⟨config, hinstalls⟩ := hinstalls
      rw [config_of_installs hinstalls] at hnone
      rw [state_of_installs hinstalls]
      by_cases htopic : (performAll transport acts run).cover.config.availabilityTopic = none
      · rw [ih htopic]
        constructor
        · exact fun h => .inr ⟨h, fun config' h' => hinstalls.unique h' ▸ hnone⟩
        · rintro (⟨_, _, _, htopic', -⟩ | ⟨h, -⟩)
          · exact absurd htopic htopic'
          · exact h
      · constructor
        · exact fun h => .inl ⟨config, hinstalls, hnone, htopic, h⟩
        · rintro (⟨_, _, _, _, h⟩ | ⟨h, -⟩)
          · exact h
          · exact absurd h.config htopic
    · rw [config_of_not_installs fun config h => hinstalls ⟨config, h⟩] at hnone
      rw [available_perform act hnone, ih hnone]
      constructor
      · exact fun h => .inr ⟨h, fun config h' => absurd ⟨config, h'⟩ hinstalls⟩
      · rintro (⟨config, h', -⟩ | ⟨h, -⟩)
        · exact absurd ⟨config, h'⟩ hinstalls
        · exact h

theorem shown_unavailable_iff (cover : Cover) :
    cover.snapshot.state = Snapshot.unavailable ↔ cover.state.available = false := by
  have hname : ∀ status : Status, status.name ≠ Snapshot.unavailable := by
    intro status; cases status <;> decide
  show (if cover.state.available then cover.state.status.name else Snapshot.unavailable) = _ ↔ _
  cases cover.state.available with
  | true => exact ⟨fun h => absurd h (hname _), by rintro ⟨⟩⟩
  | false => exact ⟨fun _ => rfl, fun _ => rfl⟩

/-- A cover that has no availability topic now is unavailable, and shows so, exactly if it lost the
topic while it was unavailable and never got one again. -/
theorem unavailable_iff_stranded {config : Config} (hvalid : config.validate = .ok ())
    (entityId : String) :
    ∃ cover, create entityId config = .ok cover ∧
      ∀ {σ : Type} (transport : Transport σ) (machine : σ) (acts : List Act),
        let run := performAll transport acts (.start cover machine)
        run.cover.config.availabilityTopic = none →
          (run.cover.state.available = false ↔ Stranded transport (.start cover machine) acts) ∧
          (run.cover.snapshot.state = Snapshot.unavailable ↔
            Stranded transport (.start cover machine) acts) := by
  obtain ⟨cover, hcreate, hnew⟩ := create_of_valid entityId hvalid
  refine ⟨cover, hcreate, fun transport machine acts => ?_⟩
  intro run hnone
  have hstart : cover.state.available = cover.config.availabilityTopic.isNone := by
    rw [hnew.state, hnew.config_eq]; rfl
  have havail : run.cover.state.available = false ↔ Stranded transport (.start cover machine) acts :=
    available_iff hstart hnone
  exact ⟨havail, (shown_unavailable_iff run.cover).trans havail⟩

/-- A cover that is told to be away, and then that nothing tells so. -/
theorem unavailable_iff_stranded_away :
    let config := { Config.named "porch" with availabilityTopic := some "porch/+" }
    let acts : List Act := [.message "porch/at" "offline", .updateConfig (.named "porch")]
    config.validate = .ok () ∧ ∃ cover, create "cover.porch" config = .ok cover ∧
      let run := performAll willing acts (.start cover ())
      run.cover.config.availabilityTopic = none ∧
      (run.cover.state.available = false ↔ Stranded willing (.start cover ()) acts) ∧
      (run.cover.snapshot.state = Snapshot.unavailable ↔ Stranded willing (.start cover ()) acts) := by
  intro config acts
  have hvalid : config.validate = .ok () := eq_ok_of_isOk (by decide +kernel)
  have hplain : (Config.named "porch").validate = .ok () := eq_ok_of_isOk (by decide +kernel)
  obtain ⟨cover, hcreate, h⟩ := unavailable_iff_stranded hvalid "cover.porch"
  have hinstalls : (Act.updateConfig (.named "porch")).Installs (.named "porch") := ⟨rfl, hplain⟩
  have hconfig : (performAll willing acts (.start cover ())).cover.config = .named "porch" := by
    simp only [acts, performAll, config_of_installs hinstalls]
  have hnone : (performAll willing acts (.start cover ())).cover.config.availabilityTopic = none := by
    rw [hconfig]; rfl
  exact ⟨hvalid, cover, hcreate, hnone, h willing () acts hnone⟩

/-- A new cover waits for its availability topic, and still does when it has none any more. -/
theorem unavailable_without_topic :
    let config := { Config.named "porch" with availabilityTopic := some "porch/at" }
    config.validate = .ok () ∧ (Config.named "porch").validate = .ok () ∧
    ∃ cover, create "cover.porch" config = .ok cover ∧
      let run := performAll willing [.updateConfig (.named "porch")] (.start cover ())
      run.cover.config.availabilityTopic = none ∧ run.cover.state.available = false ∧
      run.cover.snapshot.state = "unavailable" := by
  intro config
  have hvalid : config.validate = .ok () := eq_ok_of_isOk (by decide +kernel)
  have hplain : (Config.named "porch").validate = .ok () := eq_ok_of_isOk (by decide +kernel)
  obtain ⟨cover, hcreate, hnew⟩ := create_of_valid "cover.porch" hvalid
  have hinstalls : (Act.updateConfig (.named "porch")).Installs (.named "porch") := ⟨rfl, hplain⟩
  refine ⟨hvalid, hplain, cover, hcreate, ?_⟩
  intro run
  have hconfig : run.cover.config = .named "porch" := by
    simp only [run, performAll, config_of_installs hinstalls]
  have hnone : run.cover.config.availabilityTopic = none := by rw [hconfig]; rfl
  have havail : run.cover.state.available = false := by
    simp only [run, performAll, state_of_installs hinstalls]
    exact congrArg State.available hnew.state
  exact ⟨hnone, havail, (shown_unavailable_iff run.cover).2 havail⟩

end Cover

end CoverControl
