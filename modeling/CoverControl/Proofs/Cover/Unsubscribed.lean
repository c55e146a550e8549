import CoverControl.Proofs.Cover.Availability
import CoverControl.Proofs.Cover.Commands
import CoverControl.Proofs.Cover.Renewal

/-!
# Covers that nobody subscribed

A new cover has no subscriptions, and as long as it has none it has nothing to give up. But renaming
and reconfiguring it do not ask whether it had any: they end with all subscriptions of the
configuration. So these are the acts, besides subscribing itself, that make a cover subscribe for the
first time, and they always do if there is a filter to subscribe to (`subscribes_iff_swapped`).
-/

namespace CoverControl

namespace Running
variable {σ : Type} {run later : Running (σ × List Exchange)}

/-- The transport was asked to subscribe to something. -/
def Asks (run : Running (σ × List Exchange)) : Prop :=
  ∃ exchange ∈ run.record, ∃ topic qos, exchange.request = .subscribe topic qos

/-- Nothing is subscribed, and the transport was asked for nothing but to publish. -/
structure Fresh (run : Running (σ × List Exchange)) : Prop where
  active : run.cover.activeTopics = []
  record : ∀ exchange ∈ run.record, ∃ message, exchange.request = .publish message

theorem Fresh.not_asks (h : run.Fresh) : ¬run.Asks := by
  rintro ⟨exchange, hmem, topic, qos, hsubscribe⟩
  obtain ⟨message, hpublish⟩ := h.record exchange hmem
  rw [hsubscribe] at hpublish
  cases hpublish

theorem Asks.mono (h : run.Asks) (hrecord : run.record <+: later.record) : later.Asks := by
  obtain ⟨exchange, hmem, hsubscribe⟩ := h
  exact ⟨exchange, hrecord.subset hmem, hsubscribe⟩

end Running

namespace Cover
open Running
variable {σ : Type} {transport : Transport σ} {run later : Running (σ × List Exchange)} {act : Act}
  {acts : List Act}

/-! ### Records grow -/

theorem record_unsubscribeAll (topics : List String) (run : Running (σ × List Exchange)) :
    run.record <+: (unsubscribeAll transport.recorded topics run).2.record := by
  induction topics generalizing run with
  | nil => exact List.prefix_refl _
  | cons topic topics ih =>
    have hasked := List.prefix_append run.record
      [⟨.unsubscribe topic, (transport.recorded.unsubscribe topic run.transport).result⟩]
    simp only [unsubscribeAll]
    split
    · exact hasked
    · refine List.IsPrefix.trans ?_ (ih _)
      exact hasked

theorem record_subscribeAll (qos : Qos) (topics : List String) (run : Running (σ × List Exchange)) :
    run.record <+: (subscribeAll transport.recorded qos topics run).2.record := by
  induction topics generalizing run with
  | nil => exact List.prefix_refl _
  | cons topic topics ih =>
    have hasked := List.prefix_append run.record
      [⟨.subscribe topic qos, (transport.recorded.subscribe topic qos run.transport).result⟩]
    simp only [subscribeAll]
    split
    · exact ih run
    split
    · exact hasked
    · refine List.IsPrefix.trans ?_ (ih _)
      exact hasked

theorem record_renewTopics (run : Running (σ × List Exchange)) :
    run.record <+: (renewTopics transport.recorded run).2.record := by
  have hgiven : run.record <+:
      (unsubscribeAll transport.recorded run.cover.activeTopics run).2.record :=
    record_unsubscribeAll _ run
  rw [renewTopics]
  split <;> rename_i heq <;> rw [heq] at hgiven
  · exact hgiven
  · exact hgiven.trans (record_subscribeAll _ _ _)

/-- A command asks for nothing but to publish. -/
theorem execute_publishes (command : Command) (run : Running (σ × List Exchange)) :
    let later := (execute transport.recorded command run).2
    later.cover.activeTopics = run.cover.activeTopics ∧
    ∃ published, later.record = run.record ++ published ∧
      ∀ exchange ∈ published, ∃ message, exchange.request = .publish message := by
  have hexecuted := execute_executed transport command run
  revert hexecuted
  generalize execute transport.recorded command run = outcome
  intro hexecuted
  cases hexecuted with
  | unencoded => exact ⟨rfl, [], (List.append_nil _).symm, nofun⟩
  | @refused order _ _ _ _ hstill hrecord =>
    refine ⟨congrArg Cover.activeTopics hstill.cover, _, hrecord, ?_⟩
    exact List.forall_mem_singleton.2 ⟨order.message, rfl⟩
  | @done order _ _ _ hstill hrecord =>
    refine ⟨?_, _, hrecord, List.forall_mem_singleton.2 ⟨order.message, rfl⟩⟩
    rw [hstill.cover, activeTopics_makeAll]

theorem record_perform (act : Act) (run : Running (σ × List Exchange)) :
    run.record <+: (perform transport.recorded act run).2.record := by
  cases act with
  | message topic payload => exact List.prefix_refl _
  | execute command =>
    obtain ⟨-, published, hrecord, -⟩ := execute_publishes command run
    exact ⟨published, hrecord.symm⟩
  | subscribe => exact record_subscribeAll _ _ run
  | rename entityId =>
    refine List.IsPrefix.trans ?_ (record_renewTopics _)
    exact List.prefix_refl _
  | updateConfig config =>
    simp only [perform, updateConfig]
    split
    · exact List.prefix_refl _
    · refine List.IsPrefix.trans ?_ (record_renewTopics _)
      exact List.prefix_refl _
  | remove =>
    refine List.IsPrefix.trans ?_ (record_unsubscribeAll _ _)
    exact List.prefix_refl _

/-! ### First subscriptions -/

theorem asks_subscribeAll {topic : String} (qos : Qos) (topics : List String)
    (hnew : topic ∉ run.cover.activeTopics) :
    (subscribeAll transport.recorded qos (topic :: topics) run).2.Asks := by
  have hinactive : run.cover.activeTopics.contains topic = false := by simpa using hnew
  have hasked : (run.receive (transport.recorded.subscribe topic qos run.transport)).Asks :=
    ⟨_, List.mem_append_right _ (List.mem_singleton.2 rfl), topic, qos, rfl⟩
  simp only [subscribeAll, hinactive, Bool.false_eq_true, ↓reduceIte]
  split
  · exact hasked
  · refine hasked.mono (List.IsPrefix.trans ?_ (record_subscribeAll _ _ _))
    exact List.prefix_refl _

/-- Where nothing is subscribed, to renew the subscriptions is to make them. -/
theorem renewTopics_fresh (h : run.Fresh) :
    let later := (renewTopics transport.recorded run).2
    if run.cover.config.inboundTopics = [] then later.Fresh else later.Asks := by
  intro later
  have hlater : later = (subscribeTopics transport.recorded (run.setActive [])).2 := by
    show (renewTopics transport.recorded run).2 = _
    rw [renewTopics, h.active]; rfl
  rw [hlater, subscribeTopics]
  have hconfig : (run.setActive []).cover.config = run.cover.config := rfl
  rw [hconfig]
  cases run.cover.config.inboundTopics with
  | nil => exact ⟨rfl, h.record⟩
  | cons topic topics => exact asks_subscribeAll _ topics List.not_mem_nil

/-- An act that renews the subscriptions, whether there are any or not. -/
def Act.Swaps (act : Act) : Prop :=
  (∃ entityId, act = .rename entityId) ∨ ∃ config, act.Installs config

theorem Act.Swaps.prepares (h : act.Swaps) (cover : Cover) : ∃ prepared, act.Prepares cover prepared := by
  rcases h with ⟨entityId, rfl⟩ | ⟨config, rfl, hvalid⟩
  · exact ⟨_, .rename entityId cover⟩
  · obtain ⟨encoder, hencoder⟩ := Encoder.ofConfig_of_valid hvalid
    obtain ⟨decoder, hdecoder⟩ := Decoder.ofConfig_of_valid hvalid
    exact ⟨_, .updateConfig hvalid hencoder hdecoder cover⟩

theorem perform_swaps (h : run.Fresh) (hswaps : act.Swaps) :
    let later := (perform transport.recorded act run).2
    if later.cover.config.inboundTopics = [] then later.Fresh else later.Asks := by
  obtain ⟨prepared, hprepares⟩ := hswaps.prepares run.cover
  obtain ⟨journal, hperform⟩ := perform_of_prepares transport.recorded hprepares
  have hfresh : Fresh { run with cover := prepared, journal := journal } :=
    ⟨hprepares.activeTopics.trans h.active, h.record⟩
  rw [hperform]
  intro later
  have hconfig : later.cover.config = prepared.config := (renewTopics_quiet _).config
  rw [hconfig]
  exact renewTopics_fresh hfresh

theorem perform_fresh (h : run.Fresh) (hact : act ≠ .subscribe) (hswaps : ¬act.Swaps) :
    (perform transport.recorded act run).2.Fresh := by
  cases act with
  | message topic payload =>
    refine ⟨?_, h.record⟩
    rw [perform, (hear_still topic payload run).cover, activeTopics_makeAll]
    exact h.active
  | execute command =>
    obtain ⟨hactive, published, hrecord, hpublished⟩ := execute_publishes command run
    refine ⟨hactive.trans h.active, ?_⟩
    rw [perform, hrecord]
    exact List.forall_mem_append.2 ⟨h.record, hpublished⟩
  | subscribe => exact absurd rfl hact
  | rename entityId => exact absurd (.inl ⟨entityId, rfl⟩) hswaps
  | updateConfig config =>
    cases hvalid : config.validate with
    | ok u => exact absurd (.inr ⟨config, rfl, hvalid⟩) hswaps
    | error fault => rw [perform, updateConfig_of_invalid hvalid]; exact h
  | remove =>
    rw [perform, remove, h.active]
    exact ⟨rfl, h.record⟩

/-! ### Runs -/

/-- Some act renews the subscriptions, and the configuration has a filter then. -/
def Swapped (transport : Transport σ) (acts : List Act) (run : Running σ) : Prop :=
  ∃ before act after, acts = before ++ act :: after ∧ act.Swaps ∧
    (performAll transport (before ++ [act]) run).cover.config.inboundTopics ≠ []

theorem swapped_concat {transport : Transport σ} {run : Running σ} :
    Swapped transport (acts ++ [act]) run ↔ Swapped transport acts run ∨
      act.Swaps ∧ (performAll transport (acts ++ [act]) run).cover.config.inboundTopics ≠ [] := by
  constructor
  · rintro ⟨before, swap, after, heq, hswap⟩
    rcases List.eq_nil_or_concat after with rfl | ⟨after, last, rfl⟩
    · obtain ⟨rfl, hact⟩ := List.append_inj' heq rfl
      rw [List.singleton_inj.1 hact]; exact .inr hswap
    · have hsplit : acts ++ [act] = (before ++ swap :: after) ++ [last] := by simpa using heq
      exact .inl ⟨before, swap, after, (List.append_inj' hsplit rfl).1, hswap⟩
  · rintro (⟨before, swap, after, rfl, hswap⟩ | hswap)
    · exact ⟨before, swap, after ++ [act], by simp, hswap⟩
    · exact ⟨acts, act, [], rfl, hswap⟩

/-- Until a cover subscribes, it stays fresh, and it subscribes with the first swap. -/
theorem asks_iff_swapped (h : run.Fresh) (hacts : ∀ act ∈ acts, act ≠ .subscribe) :
    let later := performAll transport.recorded acts run
    (later.Asks ↔ Swapped transport.recorded acts run) ∧ (¬later.Asks → later.Fresh) := by
  induction acts using List.reverseRecOn with
  | nil =>
    refine ⟨iff_of_false h.not_asks ?_, fun _ => h⟩
    rintro ⟨before, act, after, heq, -⟩
    simp at heq
  | append_singleton acts act ih =>
    rw [List.forall_mem_append, List.forall_mem_singleton] at hacts
    obtain ⟨hiff, hfresh⟩ := ih hacts.1
    rw [swapped_concat, ← hiff, performAll_append]
    intro later
    by_cases hasks : (performAll transport.recorded acts run).Asks
    · have hlater : later.Asks := hasks.mono (record_perform act _)
      exact ⟨iff_of_true hlater (.inl hasks), fun h => absurd hlater h⟩
    by_cases hswaps : act.Swaps
    · have hlater : if later.cover.config.inboundTopics = [] then later.Fresh else later.Asks :=
        perform_swaps (hfresh hasks) hswaps
      split at hlater <;> rename_i htopics
      · refine ⟨iff_of_false hlater.not_asks ?_, fun _ => hlater⟩
        rintro (h | h)
        · exact hasks h
        · exact h.2 htopics
      · exact ⟨iff_of_true hlater (.inr ⟨hswaps, htopics⟩), fun h => absurd hlater h⟩
    · have hlater : later.Fresh := perform_fresh (hfresh hasks) hacts.2 hswaps
      exact ⟨iff_of_false hlater.not_asks (by simp [hasks, hswaps]), fun _ => hlater⟩

/-- A cover that is never told to subscribe asks its transport to, exactly if it is renamed or given
another configuration at some time, and has a filter to subscribe to then. Otherwise nothing is active,
and nothing was asked of the transport but to publish. -/
theorem subscribes_iff_swapped {config : Config} (hvalid : config.validate = .ok ())
    (entityId : String) :
    ∃ cover, create entityId config = .ok cover ∧
      ∀ {σ : Type} (transport : Transport σ) (machine : σ) (acts : List Act),
        (∀ act ∈ acts, act ≠ .subscribe) →
        let begun := start cover (machine, ([] : List Exchange))
        let run := performAll transport.recorded acts begun
        performAll transport acts (.start cover machine) = run.forget ∧
        (run.Asks ↔ Swapped transport.recorded acts begun) ∧
        (¬Swapped transport.recorded acts begun → run.cover.activeTopics = [] ∧
          ∀ exchange ∈ run.record, ∃ message, exchange.request = .publish message) := by
  obtain ⟨cover, hcreate, hnew⟩ := create_of_valid entityId hvalid
  refine ⟨cover, hcreate, fun transport machine acts hacts => ?_⟩
  intro begun run
  have hbegun : begun.Fresh := ⟨hnew.activeTopics, nofun⟩
  obtain ⟨hiff, hfresh⟩ := asks_iff_swapped hbegun hacts
  refine ⟨performAll_forget transport begun acts, hiff, fun hswapped => ?_⟩
  have hrun : run.Fresh := hfresh (hiff.not.2 hswapped)
  exact ⟨hrun.active, hrun.record⟩

/-- A gate that is opened and removed, and one that is renamed in between. -/
theorem subscribes_iff_swapped_gate :
    let config :=
      { Config.named "gate" with stateTopic := some "gate/is", commandTopic := some "gate/set" }
    config.validate = .ok () ∧ ∃ cover, create "cover.gate" config = .ok cover ∧
      let begun := start cover ((), ([] : List Exchange))
      let quiet : List Act := [.execute .openCover, .remove]
      let swapping : List Act := [.execute .openCover, .rename "cover.door", .remove]
      (performAll willing.recorded quiet begun).cover.activeTopics = [] ∧
      (performAll willing.recorded swapping begun).Asks := by
  intro config
  have hvalid : config.validate = .ok () := eq_ok_of_isOk (by decide +kernel)
  obtain ⟨cover, hcreate, h⟩ := subscribes_iff_swapped hvalid "cover.gate"
  refine ⟨hvalid, cover, hcreate, ?_⟩
  intro begun quiet swapping
  obtain ⟨-, -, hquiet⟩ := h willing () quiet (by simp [quiet])
  obtain ⟨-, hswapping, -⟩ := h willing () swapping (by simp [swapping])
  refine ⟨(hquiet ?_).1, hswapping.2 ?_⟩
  · rintro ⟨before, act, after, heq, hswaps, -⟩
    have hact : act ∈ quiet := heq ▸ List.mem_append_right _ List.mem_cons_self
    rcases hswaps with ⟨entityId, rfl⟩ | ⟨config, rfl, -⟩ <;> simp [quiet] at hact
  · refine ⟨[.execute .openCover], .rename "cover.door", [.remove], rfl, .inl ⟨_, rfl⟩, ?_⟩
    have hopen : ∀ config, ¬(Act.execute .openCover).Installs config := by rintro _ ⟨⟨⟩, -⟩
    have hrename : ∀ config, ¬(Act.rename "cover.door").Installs config := by rintro _ ⟨⟨⟩, -⟩
    simp only [performAll, List.singleton_append, config_of_not_installs hrename,
      config_of_not_installs hopen]
    rw [show begun.cover.config = config from (isNew_of_create hcreate).2.config_eq]
    decide

/-- A gate that was never told to subscribe is renamed. -/
theorem subscribed_unasked :
    let config := { Config.named "gate" with stateTopic := some "gate/is" }
    config.validate = .ok () ∧ ∃ cover, create "cover.gate" config = .ok cover ∧
      let run := performAll willing.recorded [.rename "cover.door"] (.start cover ((), []))
      run.record = [⟨.subscribe "gate/is" config.qos, .ok ()⟩] ∧
      run.cover.activeTopics = ["gate/is"] := by
  intro config
  have hvalid : config.validate = .ok () := eq_ok_of_isOk (by decide +kernel)
  obtain ⟨cover, hcreate, hnew⟩ := create_of_valid "cover.gate" hvalid
  refine ⟨hvalid, cover, hcreate, ?_⟩
  obtain ⟨entityId, ⟨config', position, tilt⟩, tracker, listeners, activeTopics⟩ := cover
  obtain rfl : activeTopics = [] := hnew.activeTopics
  obtain rfl : config' = config := hnew.config_eq
  exact ⟨rfl, rfl⟩

end Cover

end CoverControl
