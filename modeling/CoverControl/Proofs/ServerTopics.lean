import CoverControl.Proofs.Cover.Delivery
import CoverControl.Proofs.Topic
import Mathlib.Data.Set.Card

/-!
# Topics of the server

Topics that start with `$` are the server's own. By the rule of MQTT they are not matched by filters whose
first level is a wildcard (`Due`), and the server keeps to that rule for each subscription. Here matching
looks at the levels only, so a filter with such a wildcard also captures those topics of the server whose
levels after the first it matches (`Captures`). Nobody sees this as long as all filters of a connection
start with a wildcard, because the server sends nothing then. A handler that asks for a topic of the
server by its name brings its messages to all handlers whose filters capture it.
-/

namespace CoverControl

namespace Topic
variable {filter topic : String} {c : Char} {fs : List (List Char)}

/-- The first level is a wildcard. -/
def StartsWild (filter : String) : Prop :=
  (filter.toList.splitOn '/').head? = some ['+'] ∨ (filter.toList.splitOn '/').head? = some ['#']

instance : Decidable (StartsWild filter) := inferInstanceAs (Decidable (_ ∨ _))

def OfServer (topic : String) : Prop := topic.toList.head? = some '$'

instance : Decidable (OfServer topic) := inferInstanceAs (Decidable (_ = _))

/-- What MQTT asks: the levels match, and no wildcard stands for the first level of a topic of the
server. -/
def Due (filter topic : String) : Prop :=
  Filled (filter.toList.splitOn '/') (topic.toList.splitOn '/') ∧ ¬(StartsWild filter ∧ OfServer topic)

/-- A topic of the server is matched, which MQTT forbids: by `#`, or by the levels after the first. -/
def Captures (filter topic : String) : Prop :=
  StartsWild filter ∧ OfServer topic ∧
    (filter = "#" ∨ Filled (filter.toList.splitOn '/').tail (topic.toList.splitOn '/').tail)

/-! ### The first level -/

theorem accepts_iff_of_checked (h : checkFilter filter = .ok ()) : accepts filter topic = true ↔
    Filled (filter.toList.splitOn '/') (topic.toList.splitOn '/') := by
  rw [accepts, ← levels_eq_splitOn, ← levels_eq_splitOn]
  exact levelsMatch_iff (checkFilter_iff.1 h).2.2

/-- In the first level, `#` is the whole filter. -/
theorem eq_hash (h : checkFilter filter = .ok ()) (hlevels : levels filter = ['#'] :: fs) :
    filter = "#" := by
  have hlast := (checkFilter_iff.1 h).2.2
  rw [hlevels, checkLevels_cons] at hlast
  obtain rfl : fs = [] := by simpa using hlast.1
  exact levels_inj.1 hlevels

theorem filled_iff_tail (h : checkFilter filter = .ok ()) (hwild : StartsWild filter) :
    Filled (filter.toList.splitOn '/') (topic.toList.splitOn '/') ↔
      filter = "#" ∨ Filled (filter.toList.splitOn '/').tail (topic.toList.splitOn '/').tail := by
  rw [StartsWild, ← levels_eq_splitOn] at hwild
  rw [← levels_eq_splitOn, ← levels_eq_splitOn]
  obtain ⟨first, ts, htopic⟩ := List.exists_cons_of_ne_nil (levels_ne_nil topic)
  obtain ⟨level, fs, hfilter⟩ := List.exists_cons_of_ne_nil (levels_ne_nil filter)
  rw [hfilter, List.head?_cons, Option.some_inj, Option.some_inj] at hwild
  rcases hwild with rfl | rfl
  · have hne : filter ≠ "#" := by
      rintro rfl
      exact absurd (List.cons.inj hfilter).1 (by decide)
    rw [hfilter, htopic, filled_cons (by decide), or_iff_right hne]
    simp
  · have hhash := eq_hash h hfilter
    subst hhash
    exact iff_of_true (filled_hash _) (.inl rfl)

/-- What is matched is what MQTT asks, and what is captured besides. -/
theorem accepts_iff_due_or_captures (h : checkFilter filter = .ok ()) :
    accepts filter topic = true ↔ Due filter topic ∨ Captures filter topic := by
  rw [accepts_iff_of_checked h]
  by_cases hserver : StartsWild filter ∧ OfServer topic
  · rw [filled_iff_tail h hserver.1, Due, Captures]
    simp [hserver]
  · have hnone : ¬Captures filter topic := fun hcaptures => hserver ⟨hcaptures.1, hcaptures.2.1⟩
    rw [Due, and_iff_left hserver, or_iff_left hnone]

theorem Captures.not_due (h : Captures filter topic) : ¬Due filter topic :=
  fun hdue => hdue.2 ⟨h.1, h.2.1⟩

/-! ### Which topics are captured -/

theorem tail_splitOn_cons (h : c ≠ '/') (cs : List Char) :
    ((c :: cs).splitOn '/').tail = (cs.splitOn '/').tail := by
  obtain ⟨level, levels, hsplit, hcons⟩ := split_cons_of_ne h cs
  rw [← split_eq_splitOn, ← split_eq_splitOn, hsplit, hcons]
  rfl

/-- The `$` is not looked at. -/
theorem captures_iff (h : checkFilter filter = .ok ()) (hwild : StartsWild filter) (rest : String) :
    Captures filter ("$" ++ rest) ↔ accepts filter rest = true := by
  have hlist : ("$" ++ rest).toList = '$' :: rest.toList := by simp
  have hserver : OfServer ("$" ++ rest) := by rw [OfServer, hlist]; rfl
  rw [accepts_iff_of_checked h, filled_iff_tail h hwild, Captures, hlist, tail_splitOn_cons (by decide)]
  simp [hwild, hserver]

theorem startsWild_iff_captures (h : checkFilter filter = .ok ()) :
    StartsWild filter ↔ ∃ topic, Captures filter topic := by
  constructor
  · intro hwild
    obtain ⟨topic, hlevels⟩ := exists_levels_lettered filter
    refine ⟨"$" ++ topic, (captures_iff h hwild topic).2 ?_⟩
    rw [accepts, hlevels]
    exact levelsMatch_lettered _
  · rintro ⟨_, hwild, -⟩
    exact hwild

end Topic

namespace Router
variable {router : Router} {listening : Listening}

/-- A handler gets a message once for each of its filters that accept the topic. -/
theorem Represents.count_recipients (hrep : router.Represents listening) (topic : String)
    (handler : Handler) : (router.recipients topic).count handler =
      {filter | (filter, handler) ∈ listening.pairs ∧ Topic.accepts filter topic = true}.ncard := by
  have hfilters : {filter | (filter, handler) ∈ listening.pairs ∧ Topic.accepts filter topic = true} =
      ((listening.pairs.filter fun pair => Topic.accepts pair.1 topic ∧ handler = pair.2).image
        Prod.fst : Set String) := by
    ext filter
    simp
  rw [hfilters, Set.ncard_coe_finset, Finset.card_image_of_injOn, ← Multiset.coe_count,
    hrep.recipients, Multiset.count_map, ← Finset.filter_val, Finset.filter_filter]
  · rfl
  · -- pairs of one handler differ in their filters
    rintro ⟨filter, h⟩ hmem ⟨filter', h'⟩ hmem' heq
    obtain ⟨-, -, rfl⟩ := Finset.mem_filter.1 (Finset.mem_coe.1 hmem)
    obtain ⟨-, -, rfl⟩ := Finset.mem_filter.1 (Finset.mem_coe.1 hmem')
    exact congrArg (·, handler) heq

theorem Represents.count_recipients_eq_add (hrep : router.Represents listening) {handler : Handler}
    (hchecked : ∀ filter, (filter, handler) ∈ listening.pairs → Topic.checkFilter filter = .ok ())
    (topic : String) : (router.recipients topic).count handler =
      {filter | (filter, handler) ∈ listening.pairs ∧ Topic.Due filter topic}.ncard +
      {filter | (filter, handler) ∈ listening.pairs ∧ Topic.Captures filter topic}.ncard := by
  have hfinite (p : String → Prop) : {filter | (filter, handler) ∈ listening.pairs ∧ p filter}.Finite :=
    (listening.pairs.image Prod.fst).finite_toSet.subset fun filter hmem =>
      Finset.mem_coe.2 (Finset.mem_image.2 ⟨_, hmem.1, rfl⟩)
  have hdisjoint : Disjoint {filter | (filter, handler) ∈ listening.pairs ∧ Topic.Due filter topic}
      {filter | (filter, handler) ∈ listening.pairs ∧ Topic.Captures filter topic} :=
    Set.disjoint_left.2 fun _ hdue hcaptures => hcaptures.2.not_due hdue.2
  rw [hrep.count_recipients, ← Set.ncard_union_eq hdisjoint (hfinite _) (hfinite _)]
  congr 1
  ext filter
  show _ ∧ _ ↔ (_ ∧ _) ∨ (_ ∧ _)
  rw [← and_or_left]
  exact and_congr_right fun hpair => Topic.accepts_iff_due_or_captures (hchecked filter hpair)

end Router

namespace Config
variable {config : Config} {channel : Channel} {topic : String}

theorem mem_classify_iff_due_or_captures (h : config.validate = .ok ()) :
    channel ∈ config.classify topic ↔ ∃ filter, config.filter channel = some filter ∧
      (Topic.Due filter topic ∨ Topic.Captures filter topic) := by
  rw [mem_classify]
  refine exists_congr fun filter => and_congr_right fun hfilter => ?_
  exact Topic.accepts_iff_due_or_captures ((topicsValid_of_valid h).filters channel filter hfilter)

end Config

/-- A filter matches a topic if MQTT asks for it, or if the filter captures it; and every filter whose first
level is a wildcard captures some topic of the server. After every run a router hands a message to a
handler once for each of its filters to which it is due, and once more for each that captures its topic.
The topic feeds those channels of a valid configuration to whose filters it is due or that capture it. -/
theorem handed_iff_due_or_captured (topic : String) :
    (∀ filter, Topic.checkFilter filter = .ok () →
      (Topic.accepts filter topic = true ↔ Topic.Due filter topic ∨ Topic.Captures filter topic) ∧
      (Topic.StartsWild filter ↔ ∃ other, Topic.Captures filter other)) ∧
    (∀ (acts : List Router.Act) (handler : Handler),
      let watch := acts.foldl Router.Watch.step .start
      let pairs := watch.listening.pairs
      (∀ filter, (filter, handler) ∈ pairs → Topic.checkFilter filter = .ok ()) →
      (watch.router.recipients topic).count handler =
        {filter | (filter, handler) ∈ pairs ∧ Topic.Due filter topic}.ncard +
        {filter | (filter, handler) ∈ pairs ∧ Topic.Captures filter topic}.ncard) ∧
    ∀ config : Config, config.validate = .ok () → ∀ channel,
      channel ∈ config.classify topic ↔ ∃ filter, config.filter channel = some filter ∧
        (Topic.Due filter topic ∨ Topic.Captures filter topic) := by
  refine ⟨fun filter hchecked => ?_, fun acts handler => ?_, fun config hvalid channel => ?_⟩
  · exact ⟨Topic.accepts_iff_due_or_captures hchecked, Topic.startsWild_iff_captures hchecked⟩
  · intro watch pairs hchecked
    obtain ⟨hrep, -⟩ : watch.Sound := Router.Watch.sound_start.run acts
    exact hrep.count_recipients_eq_add hchecked topic
  · exact Config.mem_classify_iff_due_or_captures hvalid

/-- One handler asks for a topic of the server, another for all gates and all doors. -/
theorem handed_iff_due_or_captured_gate :
    let topic := "$SYS/gate"
    let acts : List Router.Act := [.register topic 1, .register "+/gate" 2, .register "+/door" 2]
    let watch := acts.foldl Router.Watch.step .start
    let config := { Config.named "gate" with stateTopic := some "+/gate", positionTopic := some "+/door" }
    Topic.checkFilter "+/gate" = .ok () ∧ Topic.accepts "+/gate" topic = true ∧
    (∀ filter, (filter, 2) ∈ watch.listening.pairs → Topic.checkFilter filter = .ok ()) ∧
    (watch.router.recipients topic).count 2 = 1 ∧
    config.validate = .ok () ∧ .state ∈ config.classify topic ∧ .position ∉ config.classify topic := by
  intro topic acts watch config
  obtain ⟨hmatched, hrouted, hclassified⟩ := handed_iff_due_or_captured topic
  have hgate : Topic.checkFilter "+/gate" = .ok () := by decide
  have hdoor : Topic.checkFilter "+/door" = .ok () := by decide
  have hcaptures : Topic.Captures "+/gate" topic :=
    ⟨by decide, by decide, .inr ⟨[["gate".toList]], .cons (.same _) .nil, by decide⟩⟩
  have hspares : ¬Topic.Captures "+/door" topic := fun h =>
    absurd ((Topic.captures_iff hdoor (by decide) "SYS/gate").1 h) (by decide)
  have hpairs : ∀ filter, (filter, 2) ∈ watch.listening.pairs ↔ filter = "+/door" ∨ filter = "+/gate" := by
    intro filter
    simp [watch, acts, Router.Watch.step, Router.Watch.start, Listening.after, Listening.empty]
  have hchecked : ∀ filter, (filter, 2) ∈ watch.listening.pairs → Topic.checkFilter filter = .ok () := by
    intro filter hpair
    rcases (hpairs filter).1 hpair with rfl | rfl
    · exact hdoor
    · exact hgate
  have hdue : {filter | (filter, 2) ∈ watch.listening.pairs ∧ Topic.Due filter topic} = ∅ := by
    refine Set.eq_empty_of_forall_notMem fun filter hmem => hmem.2.2 ⟨?_, by decide⟩
    rcases (hpairs filter).1 hmem.1 with rfl | rfl <;> decide
  have hcaptured :
      {filter | (filter, 2) ∈ watch.listening.pairs ∧ Topic.Captures filter topic} = {"+/gate"} := by
    ext filter
    rw [Set.mem_singleton_iff]
    constructor
    · rintro ⟨hpair, hfilter⟩
      rcases (hpairs filter).1 hpair with rfl | rfl
      · exact absurd hfilter hspares
      · rfl
    · rintro rfl
      exact ⟨(hpairs _).2 (.inr rfl), hcaptures⟩
  have hvalid : config.validate = .ok () := eq_ok_of_isOk (by decide +kernel)
  refine ⟨hgate, (hmatched _ hgate).1.2 (.inr hcaptures), hchecked, ?_, hvalid, ?_, ?_⟩
  · rw [hrouted acts 2 hchecked, hdue, hcaptured, Set.ncard_empty, Set.ncard_singleton]
  · exact (hclassified config hvalid .state).2 ⟨"+/gate", rfl, .inr hcaptures⟩
  · intro hmem
    obtain ⟨filter, hfilter, hfeeds⟩ := (hclassified config hvalid .position).1 hmem
    obtain rfl : "+/door" = filter := Option.some.inj hfilter
    rcases hfeeds with hdoorDue | hdoorCaptures
    · exact hdoorDue.2 ⟨by decide, by decide⟩
    · exact hspares hdoorCaptures

/-- A cover that listens to all gates takes a message on a topic of the server, which came because another
one asked for it, as what its gate says. -/
theorem server_topic_captured :
    let topic := "$SYS/gate"
    let acts : List Router.Act := [.register topic 1, .register "+/gate" 2]
    let watch := acts.foldl Router.Watch.step .start
    let config := { Config.named "gate" with stateTopic := some "+/gate" }
    (¬∀ filter topic, Topic.checkFilter filter = .ok () → Topic.StartsWild filter →
      Topic.OfServer topic → Topic.accepts filter topic = false) ∧
    watch.router.recipients topic = [1, 2] ∧
    config.validate = .ok () ∧ config.inboundTopics = ["+/gate"] ∧ config.classify topic = [.state] ∧
    ∃ cover, Cover.create "cover.gate" config = .ok cover ∧ cover.state.status = .unknown ∧
      (cover.handleMessage topic "OPEN").cover.state.status = .opened := by
  intro topic acts watch config
  have hmatched : ¬∀ filter topic, Topic.checkFilter filter = .ok () → Topic.StartsWild filter →
      Topic.OfServer topic → Topic.accepts filter topic = false := fun hnone =>
    absurd (hnone "+/gate" topic (by decide) (by decide) (by decide)) (by decide)
  have hvalid : config.validate = .ok () := eq_ok_of_isOk (by decide +kernel)
  obtain ⟨cover, hcreate, -⟩ := Cover.create_of_valid "cover.gate" hvalid
  have hheard : (Cover.create "cover.gate" config).map (fun (cover : Cover) =>
      decide (cover.state.status = .unknown ∧
        (cover.handleMessage topic "OPEN").cover.state.status = .opened)) = .ok true := by
    decide +kernel
  rw [hcreate] at hheard
  exact ⟨hmatched, by decide +kernel, hvalid, by decide +kernel, by decide +kernel, cover, hcreate,
    of_decide_eq_true (Except.ok.inj hheard)⟩

end CoverControl
