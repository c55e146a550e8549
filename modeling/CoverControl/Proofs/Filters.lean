import CoverControl.Config.Basic
import Mathlib.Data.List.Nodup

/-!
# The filters of a configuration

Five channels may each have a filter (`Config.feeds`). The filters to subscribe to are all of them, each
once, and the channels that a topic feeds are those whose filters accept it, in the order of `feeds`.
So a topic feeds a channel exactly if one of the filters subscribed to accepts it (`classify_ne_nil`).
-/

namespace CoverControl

theorem Channel.mem_all (channel : Channel) : channel ∈ Channel.all := by
  cases channel <;> decide

namespace Config
variable {config : Config} {channel : Channel} {filter topic : String}

/-- The channels with the filters that feed them, in their order. -/
def feeds (config : Config) : List (Channel × Option String) :=
  [(.state, config.stateTopic), (.position, config.positionTopic),
    (.tilt, config.tilt.bind (·.statusTopic)), (.availability, config.availabilityTopic),
    (.attributes, config.attributesTopic)]

theorem mem_feeds : (channel, some filter) ∈ config.feeds ↔ config.filter channel = some filter := by
  cases channel <;> simp [feeds, Config.filter, tiltStatusTopic, eq_comm]

/-! ### The filters to subscribe to -/

theorem nodup_foldl_addNew (texts : List String) {start : List String} (h : start.Nodup) :
    (texts.foldl addNew start).Nodup := by
  induction texts generalizing start with
  | nil => exact h
  | cons text texts ih =>
    refine ih ?_
    unfold addNew
    split
    · exact h
    · rename_i hnew
      rw [← List.concat_eq_append]
      exact List.Nodup.concat (by simpa using hnew) h

theorem nodup_inboundTopics (config : Config) : config.inboundTopics.Nodup :=
  nodup_foldl_addNew _ List.nodup_nil

theorem mem_addNew {texts : List String} {text other : String} :
    other ∈ addNew texts text ↔ other ∈ texts ∨ other = text := by
  unfold addNew
  split
  · rename_i hmem
    exact ⟨.inl, fun h => h.elim id fun heq => heq ▸ List.contains_iff_mem.1 hmem⟩
  · rw [List.mem_append, List.mem_singleton]

theorem mem_foldl_addNew {texts start : List String} {text : String} :
    text ∈ texts.foldl addNew start ↔ text ∈ start ∨ text ∈ texts := by
  induction texts generalizing start with
  | nil => simp
  | cons first texts ih => rw [List.foldl_cons, ih, mem_addNew, List.mem_cons, or_assoc]

theorem mem_inboundTopics :
    filter ∈ config.inboundTopics ↔ ∃ channel, config.filter channel = some filter := by
  rw [inboundTopics, mem_foldl_addNew, List.mem_filterMap]
  simp [Channel.mem_all]

/-! ### The channels that a topic feeds -/

theorem mem_classify : channel ∈ config.classify topic ↔
    ∃ filter, config.filter channel = some filter ∧ Topic.accepts filter topic = true := by
  rw [classify, List.mem_filter]
  cases config.filter channel <;> simp [Channel.mem_all]

theorem classify_eq (config : Config) (topic : String) :
    config.classify topic = [Channel.state, .position, .tilt, .availability, .attributes].filter
      fun channel => (config.filter channel).any (Topic.accepts · topic) := by
  refine List.filter_congr fun channel _ => ?_
  cases config.filter channel <;> rfl

theorem classify_eq_nil
    (h : ∀ channel filter, config.filter channel = some filter → Topic.accepts filter topic = false) :
    config.classify topic = [] := by
  refine List.eq_nil_iff_forall_not_mem.2 fun channel hmem => ?_
  obtain ⟨filter, hfilter, haccepts⟩ := mem_classify.1 hmem
  rw [h channel filter hfilter] at haccepts
  cases haccepts

/-- A topic feeds only channels that have a filter. -/
theorem ne_of_classify {silent : Channel} (h : channel ∈ config.classify topic)
    (hnone : config.filter silent = none) : channel ≠ silent := by
  rintro rfl
  obtain ⟨filter, hfilter, -⟩ := mem_classify.1 h
  rw [hnone] at hfilter
  cases hfilter

theorem classify_sublist (config : Config) (topic : String) :
    (config.classify topic).Sublist Channel.all := List.filter_sublist

theorem classify_ne_nil : config.classify topic ≠ [] ↔
    ∃ filter ∈ config.inboundTopics, Topic.accepts filter topic = true := by
  constructor
  · intro hne
    obtain ⟨channel, hchannel⟩ := List.exists_mem_of_ne_nil _ hne
    obtain ⟨filter, hfilter, haccepts⟩ := mem_classify.1 hchannel
    exact ⟨filter, mem_inboundTopics.2 ⟨channel, hfilter⟩, haccepts⟩
  · rintro ⟨filter, hmem, haccepts⟩
    obtain ⟨channel, hfilter⟩ := mem_inboundTopics.1 hmem
    exact List.ne_nil_of_mem (mem_classify.2 ⟨filter, hfilter, haccepts⟩)

end Config

end CoverControl
