import CoverControl.Cover.Inbound
import CoverControl.Proofs.Config
import CoverControl.Proofs.Filters
import CoverControl.Proofs.Listening

/-!
# Delivery

A handler that alone is registered on a router gets a message once for each of its filters that accepts
the topic, however it came to be registered (`recipients_of_only`). If these are the filters of a cover,
the cover knows what to do with whatever it gets: a topic is unknown to it exactly if the router does
not deliver it.
-/

namespace CoverControl

namespace Listening
variable {listening : Listening} {handler : Handler} {filters : List String}

/-- One handler listens to the given filters, and nobody else to anything. -/
def Only (listening : Listening) (handler : Handler) (filters : List String) : Prop :=
  ∀ filter h, (filter, h) ∈ listening.pairs ↔ filter ∈ filters ∧ h = handler

theorem mem_pairs_registered (hlive : handler ∉ listening.gone) {filter : String} {h : Handler} :
    (filter, h) ∈ ((filters.map (.register · handler)).foldl after listening).pairs ↔
      (filter, h) ∈ listening.pairs ∨ (filter ∈ filters ∧ h = handler) := by
  induction filters generalizing listening with
  | nil => simp
  | cons first filters ih =>
    rw [List.map_cons, List.foldl_cons, ih (by simp [after, hlive])]
    simp [after, hlive]
    grind

theorem only_registered (handler : Handler) (filters : List String) :
    ((filters.map (.register · handler)).foldl after .empty).Only handler filters := by
  intro filter h
  rw [mem_pairs_registered (by simp [empty])]
  simp [empty]

end Listening

namespace Router
variable {router : Router} {listening : Listening} {handler : Handler} {filters : List String}

theorem Watch.listening_run (acts : List Act) (watch : Watch) :
    (acts.foldl Watch.step watch).listening = acts.foldl Listening.after watch.listening := by
  induction acts generalizing watch with
  | nil => rfl
  | cons act acts ih => exact ih _

theorem Watch.only_registered (filters : List String) (handler : Handler) :
    ((filters.map (.register · handler)).foldl Watch.step .start).listening.Only handler filters := by
  rw [listening_run]
  exact Listening.only_registered handler filters

theorem Represents.recipients_of_only (hrep : router.Represents listening)
    (honly : listening.Only handler filters) (hnodup : filters.Nodup) (topic : String) :
    router.recipients topic =
      List.replicate (filters.countP (Topic.accepts · topic)) handler := by
  have hpairs : router.livePairs.Perm (filters.map fun filter => (filter, handler)) := by
    refine (List.perm_ext_iff_of_nodup (nodup_livePairs hrep) ?_).2 ?_
    · exact hnodup.map fun _ _ heq => (Prod.mk.inj heq).1
    · rintro ⟨filter, h⟩
      rw [mem_livePairs hrep.unique, ← hrep.pairs, honly]
      simp [eq_comm]
  rw [recipients_eq, ← List.perm_replicate]
  refine ((hpairs.filter fun pair => Topic.accepts pair.1 topic).map Prod.snd).trans (.of_eq ?_)
  rw [List.filter_map, List.map_map, List.countP_eq_length_filter]
  exact List.map_const'

end Router

namespace Cover
variable {cover : Cover} {topic payload : String}

theorem unknownTopic_not_mem_handleChannels (channels : List Channel) (cover : Cover) :
    .unknownTopic topic ∉ (handleChannels topic payload channels cover).journal := by
  induction channels generalizing cover with
  | nil => exact List.not_mem_nil
  | cons channel channels ih =>
    rw [handleChannels, List.mem_append, not_or]
    refine ⟨?_, ih _⟩
    unfold handleChannel
    split
    · simp
    · split <;> simp

/-- A topic is unknown to a cover if it feeds none of its channels. -/
theorem unknownTopic_mem_iff : .unknownTopic topic ∈ (cover.handleMessage topic payload).journal ↔
    cover.config.classify topic = [] := by
  unfold handleMessage
  split
  · rename_i hnone
    simp [hnone]
  · rename_i hne
    exact iff_of_false (unknownTopic_not_mem_handleChannels _ _) hne

end Cover

/-- The channels that a topic feeds are those whose filters accept it, each once and in their order, and
the filters to subscribe to are the filters of all channels, each once. So a topic feeds some channel if
one of these filters accepts it. A router on which only a cover is registered, for its filters, hands it
a message once for each filter that accepts the topic: it gets whatever feeds one of its channels, and
nothing that it gets is of an unknown topic. Registering the filters on a new router leads there. -/
theorem delivered_iff_classified (config : Config) (topic : String) :
    let channels := config.classify topic
    let filters := config.inboundTopics
    (∀ channel, channel ∈ channels ↔
      ∃ filter, (channel, some filter) ∈ config.feeds ∧ Topic.accepts filter topic = true) ∧
    channels.Sublist (config.feeds.map (·.1)) ∧ channels.Nodup ∧
    (∀ filter, filter ∈ filters ↔ ∃ channel, (channel, some filter) ∈ config.feeds) ∧ filters.Nodup ∧
    (channels ≠ [] ↔ ∃ filter ∈ filters, Topic.accepts filter topic = true) ∧
    (∀ handler : Handler, ((filters.map (.register · handler)).foldl Router.Watch.step
      .start).listening.Only handler filters) ∧
    ∀ (acts : List Router.Act) (handler : Handler),
      let watch := acts.foldl Router.Watch.step .start
      watch.listening.Only handler filters →
      let recipients := watch.router.recipients topic
      recipients = List.replicate (filters.countP (Topic.accepts · topic)) handler ∧
      (handler ∈ recipients ↔ channels ≠ []) ∧
      ∀ cover : Cover, cover.config = config → ∀ payload,
        .unknownTopic topic ∈ (cover.handleMessage topic payload).journal ↔ handler ∉ recipients := by
  intro channels filters
  refine ⟨fun channel => ?_, config.classify_sublist topic, ?_, fun filter => ?_,
    config.nodup_inboundTopics, Config.classify_ne_nil, Router.Watch.only_registered filters, ?_⟩
  · simp only [Config.mem_feeds]
    exact Config.mem_classify
  · exact (config.classify_sublist topic).nodup (by decide)
  · simp only [Config.mem_feeds]
    exact Config.mem_inboundTopics
  · intro acts handler watch honly recipients
    obtain ⟨hrep, -⟩ : watch.Sound := Router.Watch.sound_start.run acts
    have hrecipients : recipients = _ :=
      hrep.recipients_of_only honly config.nodup_inboundTopics topic
    have hmem : handler ∈ recipients ↔ channels ≠ [] := by
      rw [hrecipients, List.mem_replicate, and_iff_left rfl, Config.classify_ne_nil,
        ← Nat.pos_iff_ne_zero, List.countP_pos_iff]
    refine ⟨hrecipients, hmem, ?_⟩
    rintro cover rfl payload
    rw [hmem, Cover.unknownTopic_mem_iff, not_not]

/-- A blind with two filters for three channels, which both accept a topic. -/
theorem delivered_iff_classified_blind :
    let config := { Config.named "blind" with
      stateTopic := some "hall/#", positionTopic := some "hall/+", availabilityTopic := some "hall/#" }
    let acts := config.inboundTopics.map (.register · 7)
    let watch := acts.foldl Router.Watch.step .start
    config.validate = .ok () ∧ watch.listening.Only 7 config.inboundTopics ∧
      config.inboundTopics = ["hall/#", "hall/+"] ∧
      config.classify "hall/blind" = [.state, .position, .availability] ∧
      watch.router.recipients "hall/blind" = [7, 7] ∧ watch.router.recipients "hall/blind/top" = [7] ∧
      ∃ cover, Cover.create "cover.blind" config = .ok cover ∧
        .unknownTopic "hall" ∉ (cover.handleMessage "hall" "").journal ∧
        .unknownTopic "all" ∈ (cover.handleMessage "all" "").journal := by
  intro config acts watch
  have hvalid : config.validate = .ok () := eq_ok_of_isOk (by decide +kernel)
  obtain ⟨cover, hcreate, hnew⟩ := Cover.create_of_valid "cover.blind" hvalid
  have hall := delivered_iff_classified config
  have honly : watch.listening.Only 7 config.inboundTopics := (hall "hall").2.2.2.2.2.2.1 7
  have hdelivered := fun topic => (hall topic).2.2.2.2.2.2.2 acts 7 honly
  have hunknown := fun topic => (hdelivered topic).2.2 cover hnew.config_eq ""
  refine ⟨hvalid, honly, by decide +kernel, by decide +kernel, (hdelivered _).1.trans (by decide +kernel),
    (hdelivered _).1.trans (by decide +kernel), cover, hcreate, ?_, ?_⟩
  · rw [hunknown, (hdelivered "hall").1, not_not]; decide +kernel
  · rw [hunknown, (hdelivered "all").1]; decide +kernel

end CoverControl
