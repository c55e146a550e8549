import CoverControl.Proofs.Cover.Subscriptions
import CoverControl.Proofs.Filters

/-!
# Renewed subscriptions

To rename or to reconfigure a cover renews its subscriptions: the active filters are given up, the
first one first, and then those of the configuration are subscribed to. Both loops make one request
after the other up to the first that is refused (`Asked`), so a renewal that fails leaves the end of
the old filters or the beginning of the new ones. What is active then makes no difference to the next
renewal, and the entity id and the configuration were replaced before, so making up for a failure
leads to where the renewal would have led.
-/

namespace CoverControl

/-- Requests about filters that were all accepted. -/
def accepted (ask : String → Request) (topics : List String) : List Exchange :=
  topics.map fun topic => ⟨ask topic, .ok ()⟩

/-- What comes of asking for one filter after the other: `done` are the filters for which the request
was accepted, and `left` those from the first refused one on. -/
inductive Asked (ask : String → Request) : List String → List String → Except Failure Unit →
    List Exchange → Prop where
  | all (done : List String) : Asked ask done [] (.ok ()) (accepted ask done)
  | refused (done : List String) (topic : String) (rest : List String) (fault : TransportFault) :
      Asked ask done (topic :: rest) (.error (.transport fault))
        (accepted ask done ++ [⟨ask topic, .error fault⟩])

section
variable {ask : String → Request} {topic : String} {done left : List String}
  {result : Except Failure Unit} {requests : List Exchange}

theorem Asked.cons (h : Asked ask done left result requests) :
    Asked ask (topic :: done) left result (⟨ask topic, .ok ()⟩ :: requests) := by
  cases h with
  | all => exact .all (topic :: done)
  | refused other rest fault => exact .refused (topic :: done) other rest fault

theorem Asked.of_ok (h : Asked ask done left (.ok ()) requests) :
    left = [] ∧ requests = accepted ask done := by
  cases h
  exact ⟨rfl, rfl⟩

theorem Asked.of_error {failure : Failure} (h : Asked ask done left (.error failure) requests) :
    ∃ topic rest fault, failure = .transport fault ∧ left = topic :: rest ∧
      requests = accepted ask done ++ [⟨ask topic, .error fault⟩] := by
  cases h with
  | refused topic rest fault => exact ⟨topic, rest, fault, rfl, rfl, rfl⟩

end

/-- In the states `fine`, a transport accepts every subscription and every end of one, and stays in
them. -/
structure Transport.Accepts {σ : Type} (transport : Transport σ) (fine : σ → Prop) : Prop where
  subscribe : ∀ machine, fine machine → ∀ topic qos,
    (transport.subscribe topic qos machine).result = .ok () ∧
    fine (transport.subscribe topic qos machine).state
  unsubscribe : ∀ machine, fine machine → ∀ topic,
    (transport.unsubscribe topic machine).result = .ok () ∧
    fine (transport.unsubscribe topic machine).state

namespace Cover
open Running

/-! ### What is requested -/

section
variable {σ : Type} (transport : Transport σ)

theorem unsubscribeAll_asked (topics : List String) (run : Running (σ × List Exchange))
    (hactive : run.cover.activeTopics = topics) :
    let outcome := unsubscribeAll transport.recorded topics run
    ∃ done left requests, topics = done ++ left ∧ Asked .unsubscribe done left outcome.1 requests ∧
      outcome.2.cover.activeTopics = left ∧ outcome.2.record = run.record ++ requests := by
  induction topics generalizing run with
  | nil => exact ⟨[], [], [], rfl, .all [], rfl, (List.append_nil _).symm⟩
  | cons topic topics ih =>
    have hrecord := record_unsubscribe transport run topic
    simp only [unsubscribeAll]
    split
    · rename_i fault hrefused
      rw [hrefused] at hrecord
      exact ⟨[], topic :: topics, _, rfl, .refused [] topic topics fault, hactive, hrecord⟩
    · rename_i haccepted
      rw [haccepted] at hrecord
      obtain ⟨done, left, requests, hsplit, hasked, hleft, hlater⟩ :=
        ih (((run.receive (transport.recorded.unsubscribe topic run.transport)).report
          [.unsubscribed run.cover.entityId topic]).setActive topics) rfl
      refine ⟨topic :: done, left, _, congrArg (topic :: ·) hsplit, hasked.cons, hleft,
        hlater.trans ?_⟩
      show record (run.receive _) ++ requests = _
      rw [hrecord, List.append_assoc]; rfl

/-- Filters of which none is active and none is listed twice are all asked for. -/
theorem subscribeAll_asked (qos : Qos) (topics : List String)
    (run : Running (σ × List Exchange)) (hnodup : topics.Nodup)
    (hnew : ∀ topic ∈ topics, topic ∉ run.cover.activeTopics) :
    let outcome := subscribeAll transport.recorded qos topics run
    ∃ done left requests, topics = done ++ left ∧
      Asked (.subscribe · qos) done left outcome.1 requests ∧
      outcome.2.cover.activeTopics = run.cover.activeTopics ++ done ∧
      outcome.2.record = run.record ++ requests := by
  induction topics generalizing run with
  | nil => exact ⟨[], [], [], rfl, .all [], (List.append_nil _).symm, (List.append_nil _).symm⟩
  | cons topic topics ih =>
    obtain ⟨hfirst, hnodup⟩ := List.nodup_cons.1 hnodup
    have hinactive : run.cover.activeTopics.contains topic = false := by
      simpa using hnew topic List.mem_cons_self
    have hrecord := record_subscribe transport run topic qos
    simp only [subscribeAll, hinactive, Bool.false_eq_true, ↓reduceIte]
    split
    · rename_i fault hrefused
      rw [hrefused] at hrecord
      exact ⟨[], topic :: topics, _, rfl, .refused [] topic topics fault, (List.append_nil _).symm,
        hrecord⟩
    · rename_i haccepted
      rw [haccepted] at hrecord
      -- the filter that was just subscribed to is not listed again
      obtain ⟨done, left, requests, hsplit, hasked, hactive, hlater⟩ :=
        ih (((run.receive (transport.recorded.subscribe topic qos run.transport)).report
          [.subscribed run.cover.entityId topic]).setActive (run.cover.activeTopics ++ [topic]))
          hnodup (by
            intro other hother hmem
            rcases List.mem_append.1 hmem with hmem | hmem
            · exact hnew other (List.mem_cons_of_mem _ hother) hmem
            · exact hfirst (List.mem_singleton.1 hmem ▸ hother))
      refine ⟨topic :: done, left, _, congrArg (topic :: ·) hsplit, hasked.cons, hactive.trans ?_,
        hlater.trans ?_⟩
      · show run.cover.activeTopics ++ [topic] ++ done = _
        simp
      · show record (run.receive _) ++ requests = _
        rw [hrecord, List.append_assoc]; rfl

end

/-! ### What becomes of the cover -/

section
variable {σ : Type} (transport : Transport σ)

theorem unsubscribeAll_cover (topics : List String) (run : Running σ) :
    ∃ active, (unsubscribeAll transport topics run).2.cover =
      { run.cover with activeTopics := active } := by
  induction topics generalizing run with
  | nil => exact ⟨[], rfl⟩
  | cons topic topics ih =>
    simp only [unsubscribeAll]
    split
    · exact ⟨run.cover.activeTopics, rfl⟩
    · exact ih _

theorem subscribeAll_cover (qos : Qos) (topics : List String) (run : Running σ) :
    ∃ active, (subscribeAll transport qos topics run).2.cover =
      { run.cover with activeTopics := active } := by
  induction topics generalizing run with
  | nil => exact ⟨run.cover.activeTopics, rfl⟩
  | cons topic topics ih =>
    simp only [subscribeAll]
    split
    · exact ih _
    split
    · exact ⟨run.cover.activeTopics, rfl⟩
    · exact ih _

theorem active_of_unsubscribeAll_ok (topics : List String) (run : Running σ)
    (h : (unsubscribeAll transport topics run).1 = .ok ()) :
    (unsubscribeAll transport topics run).2.cover.activeTopics = [] := by
  induction topics generalizing run with
  | nil => rfl
  | cons topic topics ih =>
    simp only [unsubscribeAll] at h ⊢
    split at h
    · cases h
    · exact ih _ h

theorem active_subset_subscribeAll (qos : Qos) (topics : List String) (run : Running σ) :
    run.cover.activeTopics ⊆ (subscribeAll transport qos topics run).2.cover.activeTopics := by
  induction topics generalizing run with
  | nil => exact List.Subset.refl _
  | cons topic topics ih =>
    simp only [subscribeAll]
    split
    · exact ih _
    split
    · exact List.Subset.refl _
    · refine List.Subset.trans ?_ (ih _)
      exact List.subset_append_left _ _

theorem active_of_subscribeAll_ok (qos : Qos) (topics : List String) (run : Running σ)
    (h : (subscribeAll transport qos topics run).1 = .ok ()) :
    topics ⊆ (subscribeAll transport qos topics run).2.cover.activeTopics := by
  induction topics generalizing run with
  | nil => exact List.nil_subset _
  | cons topic topics ih =>
    refine List.cons_subset.2 ?_
    simp only [subscribeAll] at h ⊢
    split
    · rename_i hactive
      rw [if_pos hactive] at h
      exact ⟨active_subset_subscribeAll transport qos topics _ (List.contains_iff_mem.1 hactive),
        ih _ h⟩
    · rename_i hactive
      rw [if_neg hactive] at h
      split at h
      · cases h
      · refine ⟨active_subset_subscribeAll transport qos topics _ ?_, ih _ h⟩
        exact List.mem_append_right _ (List.mem_singleton.2 rfl)

variable {transport}

theorem unsubscribeAll_accepted {fine : σ → Prop} (htransport : transport.Accepts fine)
    (topics : List String) (run : Running σ) (h : fine run.transport) :
    (unsubscribeAll transport topics run).1 = .ok () ∧
    fine (unsubscribeAll transport topics run).2.transport := by
  induction topics generalizing run with
  | nil => exact ⟨rfl, h⟩
  | cons topic topics ih =>
    obtain ⟨hresult, hfine⟩ := htransport.unsubscribe run.transport h topic
    simp only [unsubscribeAll, hresult]
    exact ih _ hfine

theorem subscribeAll_accepted {fine : σ → Prop} (htransport : transport.Accepts fine) (qos : Qos)
    (topics : List String) (run : Running σ) (h : fine run.transport) :
    (subscribeAll transport qos topics run).1 = .ok () := by
  induction topics generalizing run with
  | nil => rfl
  | cons topic topics ih =>
    obtain ⟨hresult, hfine⟩ := htransport.subscribe run.transport h topic qos
    simp only [subscribeAll, hresult]
    split
    · exact ih _ h
    · exact ih _ hfine

theorem renewTopics_accepted {fine : σ → Prop} (htransport : transport.Accepts fine)
    (run : Running σ) (h : fine run.transport) : (renewTopics transport run).1 = .ok () := by
  obtain ⟨hresult, hfine⟩ := unsubscribeAll_accepted htransport run.cover.activeTopics run h
  rw [renewTopics]
  split <;> rename_i heq <;> rw [heq] at hresult hfine
  · cases hresult
  · exact subscribeAll_accepted htransport _ _ _ hfine

variable (transport)

theorem renewTopics_cover (run : Running σ) :
    ∃ active, (renewTopics transport run).2.cover = { run.cover with activeTopics := active } := by
  obtain ⟨kept, hgiven⟩ := unsubscribeAll_cover transport run.cover.activeTopics run
  rw [renewTopics]
  split <;> rename_i heq <;> rw [heq] at hgiven
  · exact ⟨kept, hgiven⟩
  · rename_i middle
    obtain ⟨active, hmade⟩ := subscribeAll_cover transport middle.cover.config.qos
      middle.cover.config.inboundTopics middle
    refine ⟨active, hmade.trans ?_⟩
    rw [hgiven]

end

/-! ### Renewals -/

/-- What a renewal comes to, from the filters that were active and those of the configuration: its
result, the filters that are active then, and what was requested. -/
inductive Renewal (old new : List String) (qos : Qos) :
    Except Failure Unit → List String → List Exchange → Prop where
  | complete : Renewal old new qos (.ok ()) new
      (accepted .unsubscribe old ++ accepted (.subscribe · qos) new)
  | kept (gone : List String) (topic : String) (rest : List String) (fault : TransportFault)
      (hold : old = gone ++ topic :: rest) :
      Renewal old new qos (.error (.transport fault)) (topic :: rest)
        (accepted .unsubscribe gone ++ [⟨.unsubscribe topic, .error fault⟩])
  | stopped (made : List String) (topic : String) (rest : List String) (fault : TransportFault)
      (hnew : new = made ++ topic :: rest) :
      Renewal old new qos (.error (.transport fault)) made
        (accepted .unsubscribe old ++ accepted (.subscribe · qos) made ++
          [⟨.subscribe topic qos, .error fault⟩])

section
variable {old new : List String} {qos : Qos} {active : List String} {requests : List Exchange}

theorem Renewal.of_ok (h : Renewal old new qos (.ok ()) active requests) :
    active = new ∧ requests = accepted .unsubscribe old ++ accepted (.subscribe · qos) new := by
  cases h
  exact ⟨rfl, rfl⟩

theorem Renewal.of_refused {fault : TransportFault}
    (h : Renewal old new qos (.error (.transport fault)) active requests) :
    (∃ gone topic rest, old = gone ++ topic :: rest ∧ active = topic :: rest ∧
      requests = accepted .unsubscribe gone ++ [⟨.unsubscribe topic, .error fault⟩]) ∨
    ∃ made topic rest, new = made ++ topic :: rest ∧ active = made ∧
      requests = accepted .unsubscribe old ++ accepted (.subscribe · qos) made ++
        [⟨.subscribe topic qos, .error fault⟩] := by
  cases h with
  | kept gone topic rest _ hold => exact .inl ⟨gone, topic, rest, hold, rfl, rfl⟩
  | stopped made topic rest _ hnew => exact .inr ⟨active, topic, rest, hnew, rfl, rfl⟩

/-- A renewal fails for the transport only. -/
theorem Renewal.ne_config {result : Except Failure Unit} {fault : ConfigFault}
    (h : Renewal old new qos result active requests) : result ≠ .error (.config fault) := by
  cases h <;> exact nofun

end

theorem renewTopics_renewal {σ : Type} (transport : Transport σ)
    (run : Running (σ × List Exchange)) :
    let outcome := renewTopics transport.recorded run
    ∃ requests, Renewal run.cover.activeTopics run.cover.config.inboundTopics run.cover.config.qos
        outcome.1 outcome.2.cover.activeTopics requests ∧
      outcome.2.record = run.record ++ requests := by
  obtain ⟨gone, kept, requests, hold, hgiven, hkept, hrecord⟩ :=
    unsubscribeAll_asked transport run.cover.activeTopics run rfl
  have hquiet : run.Quiet (unsubscribeAll transport.recorded run.cover.activeTopics run).2 :=
    unsubscribeAll_quiet _ _
  rw [renewTopics]
  split <;> rename_i heq <;> rw [heq] at hgiven hkept hrecord hquiet
  · rename_i failure middle
    obtain ⟨topic, rest, fault, rfl, rfl, rfl⟩ := hgiven.of_error
    refine ⟨_, ?_, hrecord⟩
    show Renewal _ _ _ _ middle.cover.activeTopics _
    rw [hkept]
    exact .kept gone topic rest fault hold
  · rename_i middle
    -- nothing is active any more, so every filter of the configuration is asked for
    obtain ⟨rfl, rfl⟩ := hgiven.of_ok
    rw [List.append_nil] at hold
    have hconfig : middle.cover.config = run.cover.config := hquiet.config
    have hnone : ∀ topic ∈ run.cover.config.inboundTopics, topic ∉ middle.cover.activeTopics := by
      intro topic _
      rw [hkept]
      exact List.not_mem_nil
    obtain ⟨made, left, asked, hnew, hmade, hactive, hlater⟩ :=
      subscribeAll_asked transport run.cover.config.qos run.cover.config.inboundTopics middle
        (Config.nodup_inboundTopics _) hnone
    rw [subscribeTopics, hconfig]
    refine ⟨accepted .unsubscribe gone ++ asked, ?_, ?_⟩
    · rw [hactive, hkept, List.nil_append, hold]
      revert hmade
      generalize (subscribeAll transport.recorded _ _ middle).1 = result
      intro hmade
      cases hmade with
      | all => rw [List.append_nil] at hnew; rw [hnew]; exact .complete
      | refused topic rest fault =>
        rw [← List.append_assoc]
        exact .stopped made topic rest fault hnew
    · rw [hlater, hrecord, List.append_assoc]

/-- What is requested is determined even where nobody writes it down. -/
theorem renewTopics_renewed {σ : Type} (transport : Transport σ) (run : Running σ) :
    let outcome := renewTopics transport run
    ∃ requests, Renewal run.cover.activeTopics run.cover.config.inboundTopics run.cover.config.qos
      outcome.1 outcome.2.cover.activeTopics requests := by
  let recorded : Running (σ × List Exchange) :=
    ⟨run.cover, (run.transport, []), run.notices, run.journal⟩
  have hforget : renewTopics transport run = unrecorded (renewTopics transport.recorded recorded) :=
    renewTopics_forget transport recorded
  obtain ⟨requests, hrenewal, -⟩ := renewTopics_renewal transport recorded
  rw [hforget]
  exact ⟨requests, hrenewal⟩

/-- An act that renews the subscriptions. -/
def Act.Renews (act : Act) : Prop :=
  (∃ entityId, act = .rename entityId) ∨ ∃ config, act = .updateConfig config

/-- What an act makes of a cover before it renews the subscriptions. -/
inductive Act.Prepares : Act → Cover → Cover → Prop where
  | rename (entityId : String) (cover : Cover) :
      Prepares (.rename entityId) cover { cover with entityId := entityId }
  | updateConfig {config : Config} {encoder : Encoder} {decoder : Decoder}
      (hvalid : config.validate = .ok ()) (hencoder : Encoder.ofConfig config = .ok encoder)
      (hdecoder : Decoder.ofConfig config = .ok decoder) (cover : Cover) :
      Prepares (.updateConfig config) cover
        { cover with encoder := encoder, tracker := { cover.tracker with decoder := decoder } }

/-- To do so once more makes no difference, whatever is active then. -/
theorem Act.Prepares.again {act : Act} {cover prepared : Cover} (h : act.Prepares cover prepared)
    (topics : List String) : act.Prepares { prepared with activeTopics := topics }
      { prepared with activeTopics := topics } := by
  cases h with
  | rename entityId => exact .rename entityId _
  | updateConfig hvalid hencoder hdecoder => exact .updateConfig hvalid hencoder hdecoder _

theorem Act.Prepares.activeTopics {act : Act} {cover prepared : Cover}
    (h : act.Prepares cover prepared) : prepared.activeTopics = cover.activeTopics := by
  cases h <;> rfl

section
variable {σ : Type} {transport : Transport σ} {run : Running σ} {act : Act} {prepared : Cover}

theorem perform_of_prepares (transport : Transport σ) (h : act.Prepares run.cover prepared) :
    ∃ journal, perform transport act run =
      renewTopics transport { run with cover := prepared, journal := journal } := by
  cases h with
  | rename entityId => exact ⟨_, rfl⟩
  | updateConfig hvalid hencoder hdecoder =>
    rw [perform, updateConfig_of_valid hvalid hencoder hdecoder]
    exact ⟨_, rfl⟩

theorem prepares_of_renews (hact : act.Renews)
    (hresult : ∀ fault, (perform transport act run).1 ≠ .error (.config fault)) :
    ∃ prepared, act.Prepares run.cover prepared := by
  rcases hact with ⟨entityId, rfl⟩ | ⟨config, rfl⟩
  · exact ⟨_, .rename entityId _⟩
  · cases hvalid : config.validate with
    | ok u =>
      obtain ⟨encoder, hencoder⟩ := Encoder.ofConfig_of_valid hvalid
      obtain ⟨decoder, hdecoder⟩ := Decoder.ofConfig_of_valid hvalid
      exact ⟨_, .updateConfig hvalid hencoder hdecoder _⟩
    | error fault =>
      refine absurd ?_ (hresult fault)
      rw [perform, updateConfig_of_invalid hvalid]

theorem renewTopics_ok (h : (renewTopics transport run).1 = .ok ()) :
    (renewTopics transport run).2.cover =
      { run.cover with activeTopics := run.cover.config.inboundTopics } := by
  obtain ⟨active, hcover⟩ := renewTopics_cover transport run
  obtain ⟨requests, hrenewal⟩ := renewTopics_renewed transport run
  rw [h, hcover] at hrenewal
  rw [hcover, ← hrenewal.of_ok.1]

/-- On a transport that accepts everything, a renewal ends with all filters of the configuration
active, whatever was active before. -/
theorem renewed_of_prepares {fine : σ → Prop} (htransport : transport.Accepts fine)
    (run : Running σ) (hprepares : act.Prepares run.cover prepared) (hfine : fine run.transport) :
    (perform transport act run).1 = .ok () ∧ (perform transport act run).2.cover =
      { prepared with activeTopics := prepared.config.inboundTopics } := by
  obtain ⟨journal, hperform⟩ := perform_of_prepares transport hprepares
  rw [hperform]
  have hok : (renewTopics transport { run with cover := prepared, journal := journal }).1 = .ok () :=
    renewTopics_accepted htransport _ hfine
  exact ⟨hok, renewTopics_ok hok⟩

/-- Renewing once more makes up for a renewal that was stopped, whatever that left active. -/
theorem recovered_of_prepares {fine : σ → Prop} (htransport : transport.Accepts fine) {cover : Cover}
    (hprepares : act.Prepares cover prepared) (active : List String) {healed healed' : σ}
    (hfine : fine healed) (hfine' : fine healed') :
    let again := perform transport act (.start { prepared with activeTopics := active } healed)
    let once := perform transport act (.start cover healed')
    again.1 = .ok () ∧ once.1 = .ok () ∧ again.2.cover = once.2.cover := by
  intro again once
  obtain ⟨hok, hcover⟩ := renewed_of_prepares htransport
    (.start { prepared with activeTopics := active } healed) (hprepares.again active) hfine
  obtain ⟨hok', hcover'⟩ :=
    renewed_of_prepares htransport (.start cover healed') hprepares hfine'
  exact ⟨hok, hok', hcover.trans hcover'.symm⟩

end

/-- What an act that renews the subscriptions comes to, unless its configuration is refused. -/
theorem renewal_of_renews {σ : Type} (transport : Transport σ) (run : Running (σ × List Exchange))
    {act : Act} (hact : act.Renews)
    (hresult : ∀ fault, (perform transport.recorded act run).1 ≠ .error (.config fault)) :
    let outcome := perform transport.recorded act run
    let later := outcome.2.cover
    ∃ prepared active requests, act.Prepares run.cover prepared ∧
      later = { prepared with activeTopics := active } ∧
      Renewal run.cover.activeTopics later.config.inboundTopics later.config.qos outcome.1
        later.activeTopics requests ∧
      outcome.2.record = run.record ++ requests := by
  intro outcome later
  obtain ⟨prepared, hprepares⟩ := prepares_of_renews hact hresult
  obtain ⟨journal, hperform⟩ := perform_of_prepares transport.recorded hprepares
  let renewing : Running (σ × List Exchange) := { run with cover := prepared, journal := journal }
  obtain ⟨active, hcover⟩ := renewTopics_cover transport.recorded renewing
  obtain ⟨requests, hrenewal, hrecord⟩ := renewTopics_renewal transport renewing
  have houtcome : outcome = renewTopics transport.recorded renewing := hperform
  rw [← houtcome] at hcover hrenewal hrecord
  have hlater : later = { prepared with activeTopics := active } := hcover
  have hconfig : later.config = prepared.config := by rw [hlater]; rfl
  refine ⟨prepared, active, requests, hprepares, hlater, ?_, hrecord⟩
  rw [hconfig, ← hprepares.activeTopics]
  exact hrenewal

/-- What a renaming or a reconfiguration comes to, from any state that a cover can get into. If it
succeeds, all active filters were given up, in their order, then those of the configuration were
subscribed to, in theirs, and these are active now. If a request is refused, the end of the old list
or a beginning of the new one is active; and done again when the transport accepts everything, it
leads to the cover that it would have led to at once. To subscribe makes all filters active, to
remove none. The requests are written down by a record that does not alter the run. -/
theorem renewal_completes_or_recovers {config : Config} (hvalid : config.validate = .ok ())
    (entityId : String) :
    ∃ cover, create entityId config = .ok cover ∧
      ∀ {σ : Type} (transport : Transport σ) (machine : σ) (acts : List Act),
        let run := performAll transport.recorded acts (.start cover (machine, []))
        performAll transport acts (.start cover machine) = run.forget ∧
        run.cover.activeTopics.Nodup ∧
        (∀ act : Act, act.Renews →
          let outcome := perform transport.recorded act run
          let later := outcome.2.cover
          let old := run.cover.activeTopics
          let new := later.config.inboundTopics
          let ask := fun topic => Request.subscribe topic later.config.qos
          perform transport act run.forget = unrecorded outcome ∧ new.Nodup ∧
          (outcome.1 = .ok () → later.activeTopics = new ∧
            outcome.2.record = run.record ++ (accepted .unsubscribe old ++ accepted ask new)) ∧
          ∀ fault, outcome.1 = .error (.transport fault) →
            ((∃ gone topic rest, old = gone ++ topic :: rest ∧ later.activeTopics = topic :: rest ∧
                outcome.2.record = run.record ++
                  (accepted .unsubscribe gone ++ [⟨.unsubscribe topic, .error fault⟩])) ∨
              ∃ made topic rest, new = made ++ topic :: rest ∧ later.activeTopics = made ∧
                outcome.2.record = run.record ++
                  (accepted .unsubscribe old ++ accepted ask made ++ [⟨ask topic, .error fault⟩])) ∧
            ∀ fine, transport.Accepts fine → ∀ healed healed', fine healed → fine healed' →
              let again := perform transport act (.start later healed)
              let once := perform transport act (.start run.cover healed')
              again.1 = .ok () ∧ once.1 = .ok () ∧ again.2.cover = once.2.cover) ∧
        (let outcome := perform transport .subscribe run.forget
         outcome.1 = .ok () →
           outcome.2.cover.config.inboundTopics ⊆ outcome.2.cover.activeTopics) ∧
        (let outcome := perform transport .remove run.forget
         outcome.1 = .ok () → outcome.2.cover.activeTopics = []) := by
  obtain ⟨cover, hcreate, hnew⟩ := create_of_valid entityId hvalid
  refine ⟨cover, hcreate, fun transport machine acts => ?_⟩
  intro run
  have hstart : (start cover (machine, ([] : List Exchange))).Mirrors := by
    show Mirrored cover.activeTopics []
    rw [hnew.activeTopics]; exact mirrored_nil
  have hmirrors : run.Mirrors := mirrors_performAll acts hstart
  refine ⟨performAll_forget transport (start cover (machine, [])) acts, hmirrors.nodup, ?_, ?_, ?_⟩
  · intro act hact outcome later old new ask
    refine ⟨perform_forget transport run act, Config.nodup_inboundTopics _, fun hok => ?_,
      fun fault hfault => ?_⟩
    · obtain ⟨-, -, requests, -, -, hrenewal, hrecord⟩ :=
        renewal_of_renews transport run hact fun fault h => by rw [hok] at h; cases h
      rw [hok] at hrenewal
      obtain ⟨hactive, rfl⟩ := hrenewal.of_ok
      exact ⟨hactive, hrecord⟩
    · obtain ⟨prepared, active, requests, hprepares, hlater, hrenewal, hrecord⟩ :=
        renewal_of_renews transport run hact fun fault' h => by rw [hfault] at h; cases h
      rw [hfault] at hrenewal
      refine ⟨?_, fun fine htransport healed healed' hfine hfine' => ?_⟩
      · rcases hrenewal.of_refused with ⟨gone, topic, rest, hold, hactive, rfl⟩ |
          ⟨made, topic, rest, hsplit, hactive, rfl⟩
        · exact .inl ⟨gone, topic, rest, hold, hactive, hrecord⟩
        · exact .inr ⟨made, topic, rest, hsplit, hactive, hrecord⟩
      · rw [show later = _ from hlater]
        exact recovered_of_prepares htransport hprepares active hfine hfine'
  · intro outcome hok
    have hquiet : run.forget.Quiet outcome.2 := subscribeAll_quiet _ _ _
    rw [hquiet.config]
    exact active_of_subscribeAll_ok transport _ _ _ hok
  · intro outcome hok
    exact active_of_unsubscribeAll_ok transport _ _ hok

/-- A transport that refuses its sixth request stops a renaming just before its end; without a
subscription before, the same renaming succeeds. -/
theorem renewal_completes_or_recovers_brittle :
    let config := { Config.named "blind" with stateTopic := some "s", positionTopic := some "p" }
    let answer : Nat → Reply Nat := fun asked =>
      ⟨if asked = 5 then .error .requestRefused else .ok (), asked + 1, []⟩
    let brittle : Transport Nat := ⟨fun _ => answer, fun _ _ => answer, fun _ => answer⟩
    let act : Act := .rename "cover.shade"
    config.validate = .ok () ∧ ∃ cover, create "cover.blind" config = .ok cover ∧
      (let run := performAll brittle.recorded [.subscribe] (.start cover (0, []))
       let outcome := perform brittle.recorded act run
       let again := perform brittle act (.start outcome.2.cover 6)
       let once := perform brittle act (.start run.cover 7)
       act.Renews ∧ outcome.1 = .error (.transport .requestRefused) ∧
       brittle.Accepts (5 < ·) ∧
       again.1 = .ok () ∧ once.1 = .ok () ∧ again.2.cover = once.2.cover) ∧
      let outcome := perform brittle.recorded act (.start cover (0, []))
      outcome.1 = .ok () ∧
      outcome.2.cover.activeTopics = outcome.2.cover.config.inboundTopics := by
  intro config answer brittle act
  have hvalid : config.validate = .ok () := eq_ok_of_isOk (by decide +kernel)
  have hrefused : (create "cover.blind" config).map (fun cover => (perform brittle.recorded act
      (performAll brittle.recorded [.subscribe] (.start cover (0, [])))).1) =
      .ok (.error (.transport .requestRefused)) := by decide +kernel
  have haccepted : (create "cover.blind" config).map (fun cover =>
      (perform brittle.recorded act (.start cover (0, []))).1) = .ok (.ok ()) := by decide +kernel
  have hlater : brittle.Accepts (5 < ·) := by
    have hanswer : ∀ asked, 5 < asked →
        (answer asked).result = .ok () ∧ 5 < (answer asked).state := by
      intro asked h
      have hne : asked ≠ 5 := by omega
      exact ⟨if_neg hne, Nat.lt_succ_of_lt h⟩
    exact ⟨fun asked h _ _ => hanswer asked h, fun asked h _ => hanswer asked h⟩
  have hrenews : act.Renews := .inl ⟨_, rfl⟩
  obtain ⟨cover, hcreate, h⟩ := renewal_completes_or_recovers hvalid "cover.blind"
  rw [hcreate] at hrefused haccepted
  obtain ⟨-, -, hact, -⟩ := h brittle 0 [.subscribe]
  obtain ⟨-, -, -, hfailed⟩ := hact act hrenews
  obtain ⟨-, -, hact', -⟩ := h brittle 0 []
  obtain ⟨-, -, hdone, -⟩ := hact' act hrenews
  have hresult := Except.ok.inj hrefused
  have hresult' := Except.ok.inj haccepted
  exact ⟨hvalid, cover, hcreate,
    ⟨hrenews, hresult, hlater, (hfailed _ hresult).2 _ hlater 6 7 (by decide) (by decide)⟩,
    hresult', (hdone hresult').1⟩

end Cover

end CoverControl
