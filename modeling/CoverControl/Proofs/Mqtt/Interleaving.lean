import CoverControl.Proofs.Mqtt.Crowd

/-!
# How a subscription is lost

A call that ends a subscription gives up the filters it found without handlers one by one, waiting
after each. If a handler subscribes to one of them meanwhile, its subscription is given up with the
rest. That is the only way to lose one: when no call waits any more, a filter of the router is to be
restored, and was asked for last, exactly if the last subscription to it was made while no call was
about to give it up.

While nobody subscribes to a filter, each move leaves it alone or settles that it is given up
(`Passes`). So what becomes of a filter is decided when it is subscribed to for the last time: it is
`Safe` from then on, or `Doomed`.
-/

namespace CoverControl.Mqtt

/-- Whether a packet asks for a filter or gives it up. -/
def Packet.concerns (filter : String) : Packet → Bool
  | subscribe f _ => f == filter
  | unsubscribe f => f == filter
  | _ => false

/-- The last packet that asks for a filter or gives it up. -/
def lastRequest (filter : String) (packets : List Packet) : Option Packet :=
  (packets.filter (Packet.concerns filter)).getLast?

theorem lastRequest_concat {filter : String} {packets : List Packet} {packet : Packet} :
    lastRequest filter (packets ++ [packet]) =
      if packet.concerns filter then some packet else lastRequest filter packets := by
  unfold lastRequest
  rw [List.filter_append]
  by_cases h : packet.concerns filter <;> simp [h]

/-- The filters that a call which waits is going to give up. -/
def Chore.filters : Chore → List String
  | giveUp filters => filters
  | _ => []

namespace Crowd
variable {crowd later latest : Crowd} {filter : String}

/-- A call that waits is going to give the filter up. -/
def Sweeps (crowd : Crowd) (filter : String) : Prop := ∃ chore ∈ crowd.chores, filter ∈ chore.filters

def last (crowd : Crowd) (filter : String) : Option Packet := lastRequest filter crowd.session.waiting

/-- The filter is to be restored, or will be once a call that waits has gone on. -/
def Noted (crowd : Crowd) (filter : String) : Prop :=
  filter ∈ crowd.session.subscriptions.map (·.1) ∨ ∃ qos, .note filter qos ∈ crowd.chores

/-- The filter is to be restored, and was asked for last. -/
def Keeps (crowd : Crowd) (filter : String) : Prop :=
  filter ∈ crowd.session.subscriptions.map (·.1) ∧
    ∃ qos, crowd.last filter = some (.subscribe filter qos)

/-- The filter will be kept, if nobody gives it up. -/
structure Safe (crowd : Crowd) (filter : String) : Prop where
  calm : ¬crowd.Sweeps filter
  asked : ∃ qos, crowd.last filter = some (.subscribe filter qos)
  noted : crowd.Noted filter

/-- The filter was given up last, or will be. -/
def Doomed (crowd : Crowd) (filter : String) : Prop :=
  crowd.Sweeps filter ∨ crowd.last filter = some (.unsubscribe filter)

/-- Nothing happened to the filter, except that a call may have noted it. -/
structure Untouched (filter : String) (crowd later : Crowd) : Prop where
  filters : filter ∈ later.session.router.filters → filter ∈ crowd.session.router.filters
  sweeps : later.Sweeps filter ↔ crowd.Sweeps filter
  last : later.last filter = crowd.last filter
  noted : crowd.Noted filter → later.Noted filter

/-- What may become of a filter while nobody subscribes to it: nothing; or it lost its handlers and
is given up for that; or a call that was going to give it up did so. -/
inductive Passes (filter : String) (crowd later : Crowd) : Prop where
  | untouched (h : Untouched filter crowd later)
  | left (hout : filter ∉ later.session.router.filters) (hdoomed : later.Doomed filter)
  | swept (hsweeps : crowd.Sweeps filter) (hdoomed : later.Doomed filter)
      (hin : filter ∈ later.session.router.filters → filter ∈ crowd.session.router.filters)

theorem Untouched.trans (h₁ : Untouched filter crowd later) (h₂ : Untouched filter later latest) :
    Untouched filter crowd latest :=
  ⟨fun h => h₁.filters (h₂.filters h), h₂.sweeps.trans h₁.sweeps, h₂.last.trans h₁.last,
    fun h => h₂.noted (h₁.noted h)⟩

theorem sweeps_cons {session session' : Session} {chores : List Chore} {chore : Chore}
    (h : filter ∉ chore.filters) :
    Sweeps ⟨session', chore :: chores⟩ filter ↔ Sweeps ⟨session, chores⟩ filter := by
  simp [Sweeps, h]

theorem sweeps_concat {session session' : Session} {chores : List Chore} {chore : Chore}
    (h : filter ∉ chore.filters) :
    Sweeps ⟨session', chores ++ [chore]⟩ filter ↔ Sweeps ⟨session, chores⟩ filter := by
  simp [Sweeps, h, or_and_right, exists_or]

/-- The order in which calls wait does not matter. -/
theorem untouched_of_perm {chores : List Chore} (h : chores.Perm crowd.chores) :
    Untouched filter crowd ⟨crowd.session, chores⟩ := by
  refine ⟨id, exists_congr fun chore => and_congr_left fun _ => h.mem_iff, rfl, ?_⟩
  exact Or.imp_right fun ⟨qos, hnote⟩ => ⟨qos, h.mem_iff.2 hnote⟩

theorem Passes.mem_filters (h : Passes filter crowd later)
    (hin : filter ∈ later.session.router.filters) : filter ∈ crowd.session.router.filters := by
  cases h with
  | untouched h => exact h.filters hin
  | left hout => exact absurd hin hout
  | swept _ _ hback => exact hback hin

theorem Safe.passes (h : crowd.Safe filter) (hpasses : Passes filter crowd later)
    (hin : filter ∈ later.session.router.filters) : later.Safe filter := by
  cases hpasses with
  | untouched hsame =>
    refine ⟨fun hsweeps => h.calm (hsame.sweeps.1 hsweeps), ?_, hsame.noted h.noted⟩
    rw [hsame.last]; exact h.asked
  | left hout => exact absurd hin hout
  | swept hsweeps => exact absurd hsweeps h.calm

theorem Doomed.passes (h : crowd.Doomed filter) (hpasses : Passes filter crowd later) :
    later.Doomed filter := by
  cases hpasses with
  | untouched hsame =>
    rcases h with hsweeps | hlast
    · exact .inl (hsame.sweeps.2 hsweeps)
    · exact .inr (hsame.last.trans hlast)
  | left _ hdoomed => exact hdoomed
  | swept _ hdoomed => exact hdoomed

theorem Untouched.passes (h₁ : Untouched filter crowd later) (h₂ : Passes filter later latest) :
    Passes filter crowd latest := by
  cases h₂ with
  | untouched h₂ => exact .untouched (h₁.trans h₂)
  | left hout hdoomed => exact .left hout hdoomed
  | swept hsweeps hdoomed hin =>
    exact .swept (h₁.sweeps.1 hsweeps) hdoomed fun h => h₁.filters (hin h)

section
variable {session session' : Session} {handler : Handler} {qos : Qos} {chores : List Chore}
  {filters : List String} {other : String}

theorem last_released :
    last ⟨session.released [filter], chores⟩ filter = some (.unsubscribe filter) := by
  show lastRequest filter (session.waiting ++ [.unsubscribe filter]) = _
  rw [lastRequest_concat]; simp [Packet.concerns]

/-- Giving up another filter, and waiting, leaves a filter alone. -/
theorem untouched_released {chore : Chore} (hother : filter ≠ other) (hchore : filter ∉ chore.filters) :
    Untouched filter ⟨session, chores⟩ ⟨session.released [other], chores ++ [chore]⟩ := by
  refine ⟨id, sweeps_concat hchore, ?_, ?_⟩
  · show lastRequest filter (session.waiting ++ [.unsubscribe other]) = _
    rw [lastRequest_concat, if_neg (by simpa [Packet.concerns] using Ne.symm hother)]; rfl
  · rintro (hkey | ⟨qos, hnote⟩)
    · left
      show filter ∈ (session.subscriptions.filter _).map (·.1)
      rw [Table.keys_filter fun f => !([other].contains f)]
      exact List.mem_filter.2 ⟨hkey, by simpa using hother⟩
    · exact .inr ⟨qos, List.mem_append_left _ hnote⟩

theorem untouched_giveUpNext (h : giveUpNext chores filters session = some later)
    (hother : filter ∉ filters) : Untouched filter ⟨session, chores⟩ later := by
  rcases giveUpNext_cases h with ⟨-, rfl⟩ | ⟨first, rest, rfl, rfl⟩
  · exact ⟨id, Iff.rfl, rfl, id⟩
  · obtain ⟨hfirst, hrest⟩ := not_or.1 (List.mem_cons.not.1 hother)
    exact untouched_released hfirst hrest

theorem doomed_giveUpNext (h : giveUpNext chores filters session = some later)
    (hmem : filter ∈ filters) : later.Doomed filter ∧ later.session.router = session.router := by
  rcases giveUpNext_cases h with ⟨rfl, -⟩ | ⟨first, rest, rfl, rfl⟩
  · cases hmem
  · refine ⟨?_, rfl⟩
    rcases List.mem_cons.1 hmem with rfl | hrest
    · exact .inr last_released
    · exact .inl ⟨.giveUp rest, by simp, hrest⟩

theorem untouched_waits {chore : Chore} (hfilters : filter ∉ chore.filters) :
    Untouched filter ⟨session, chores⟩ ⟨session, chore :: chores⟩ := by
  refine ⟨id, sweeps_cons hfilters, rfl, ?_⟩
  rintro (hkey | ⟨qos, hnote⟩)
  · exact .inl hkey
  · exact .inr ⟨qos, List.mem_cons_of_mem _ hnote⟩

/-- A call that goes on without concern for a filter, when the router alone changed. -/
theorem untouched_done {chore : Chore} {router : Router} (hfilters : filter ∉ chore.filters)
    (hnote : ∀ qos, chore ≠ .note filter qos)
    (hrouter : filter ∈ router.filters → filter ∈ session.router.filters) :
    Untouched filter ⟨session, chore :: chores⟩ ⟨{ session with router := router }, chores⟩ := by
  refine ⟨hrouter, (sweeps_cons hfilters).symm, rfl, ?_⟩
  rintro (hkey | ⟨qos, hmem⟩)
  · exact .inl hkey
  · rcases List.mem_cons.1 hmem with heq | hmem
    · exact absurd heq.symm (hnote qos)
    · exact .inr ⟨qos, hmem⟩

theorem passes_goOn {chore : Chore} (hunique : session.router.filters.Nodup)
    (h : goOn chores session chore = some later) : Passes filter ⟨session, chore :: chores⟩ later := by
  cases chore with
  | note other qos =>
    cases h
    refine .untouched ⟨id, (sweeps_cons (by rintro ⟨⟩)).symm, rfl, ?_⟩
    have hkeys : ∀ f, f ∈ (session.note other qos).subscriptions.map (·.1) ↔
        f = other ∨ f ∈ session.subscriptions.map (·.1) := by
      intro f
      rw [Session.note, Session.putQos_eq]; exact Table.mem_keys_put
    rintro (hkey | ⟨qos', hnote⟩)
    · exact .inl ((hkeys filter).2 (.inr hkey))
    · rcases List.mem_cons.1 hnote with heq | hnote
      · cases heq; exact .inl ((hkeys filter).2 (.inl rfl))
      · exact .inr ⟨qos', hnote⟩
  | sweep =>
    have hfilters : filter ∈ session.router.cleanup.1.filters ↔
        filter ∈ session.router.filters ∧ filter ∉ session.router.cleanup.2 :=
      Router.mem_filters_cleanup hunique
    by_cases hstale : filter ∈ session.router.cleanup.2
    · -- the router loses the filter in the move in which the call takes it on
      obtain ⟨hdoomed, hrouter⟩ := doomed_giveUpNext h hstale
      refine .left ?_ hdoomed
      rw [hrouter]
      exact fun hin => (hfilters.1 hin).2 hstale
    · refine .untouched (.trans ?_ (untouched_giveUpNext h hstale))
      exact untouched_done (by rintro ⟨⟩) (by rintro _ ⟨⟩) fun hin => (hfilters.1 hin).1
  | giveUp filters =>
    by_cases hmem : filter ∈ filters
    · obtain ⟨hdoomed, hrouter⟩ := doomed_giveUpNext h hmem
      exact .swept ⟨.giveUp filters, List.mem_cons_self, hmem⟩ hdoomed (by rw [hrouter]; exact id)
    · refine .untouched (.trans ?_ (untouched_giveUpNext h hmem))
      exact untouched_done hmem (by rintro _ ⟨⟩) id

theorem passes_unsubscribe (hunique : crowd.session.router.filters.Nodup)
    (h : crowd.step (.unsubscribe handler other) = some later) : Passes filter crowd later := by
  have hfilters : ∀ f, f ∈ (crowd.session.router.unregister other handler).1.filters ↔
      f ∈ crowd.session.router.filters ∧
        ¬((crowd.session.router.unregister other handler).2 = true ∧ f = other) :=
    fun _ => Router.mem_filters_unregister
  have hrouter : Untouched filter crowd ⟨{ crowd.session with
      router := (crowd.session.router.unregister other handler).1 }, crowd.chores⟩ :=
    ⟨fun hin => ((hfilters filter).1 hin).1, Iff.rfl, rfl, id⟩
  rcases unsubscribe_cases h with ⟨hlast, rfl⟩ | h
  · by_cases heq : filter = other
    · subst heq
      exact .left (fun hin => ((hfilters filter).1 hin).2 ⟨hlast, rfl⟩) (.inr last_released)
    · exact .untouched (hrouter.trans (untouched_released heq (by rintro ⟨⟩)))
  · refine (hrouter.trans ?_).passes (passes_goOn (Router.nodup_unregister hunique) h)
    exact untouched_waits (by rintro ⟨⟩)

theorem passes_step {move : Move} (hunique : crowd.session.router.filters.Nodup)
    (hmove : ∀ handler qos, move ≠ .subscribe handler filter qos)
    (h : crowd.step move = some later) : Passes filter crowd later := by
  cases move with
  | subscribe handler other qos =>
    have hne : other ≠ filter := fun heq => hmove handler qos (heq ▸ rfl)
    rw [subscribe_eq h]
    refine .untouched ⟨fun hin => ?_, sweeps_concat (by rintro ⟨⟩), ?_, ?_⟩
    · exact (Router.mem_filters_register.1 hin).resolve_left (Ne.symm hne)
    · show lastRequest filter (_ ++ [.subscribe other qos]) = _
      rw [lastRequest_concat, if_neg (by simpa [Packet.concerns] using hne)]; rfl
    · rintro (hkey | ⟨qos', hnote⟩)
      · exact .inl hkey
      · exact .inr ⟨qos', List.mem_append_left _ hnote⟩
  | unsubscribe handler other => exact passes_unsubscribe hunique h
  | forget handler => cases h; exact .untouched ⟨id, Iff.rfl, rfl, id⟩
  | resume place =>
    obtain ⟨chore, rest, hperm, hgo⟩ := resume_cases h
    exact (untouched_of_perm hperm).passes (passes_goOn hunique hgo)

theorem sweeps_subscribe (h : crowd.step (.subscribe handler filter qos) = some later) :
    later.Sweeps filter ↔ crowd.Sweeps filter := by
  rw [subscribe_eq h]; exact sweeps_concat (by rintro ⟨⟩)

/-- A new subscription is safe, if no call is about to give its filter up. -/
theorem safe_subscribe (h : crowd.step (.subscribe handler filter qos) = some later)
    (hcalm : ¬crowd.Sweeps filter) : later.Safe filter := by
  refine ⟨fun hsweeps => hcalm ((sweeps_subscribe h).1 hsweeps), ⟨qos, ?_⟩, .inr ⟨qos, ?_⟩⟩
  · rw [subscribe_eq h]
    show lastRequest filter (_ ++ [.subscribe filter qos]) = _
    rw [lastRequest_concat]; simp [Packet.concerns]
  · rw [subscribe_eq h]; simp

/-- Each filter of the router was subscribed to, and what becomes of it was decided the last time
that happened. -/
theorem last_subscription {moves : List Move} (hempty : crowd.session.router.filters = [])
    (hrun : run moves crowd = some later) (hin : filter ∈ later.session.router.filters) :
    ∃ before handler qos after mid, moves = before ++ .subscribe handler filter qos :: after ∧
      run before crowd = some mid ∧
      (∀ handler' qos', .subscribe handler' filter qos' ∉ after) ∧
      (¬mid.Sweeps filter → later.Safe filter) ∧ (mid.Sweeps filter → later.Doomed filter) := by
  induction moves using List.reverseRecOn generalizing later with
  | nil =>
    cases hrun
    rw [hempty] at hin; cases hin
  | append_singleton moves move ih =>
    -- the last move is the subscription in question, or hands on what was decided before
    obtain ⟨last, hlast, hstep⟩ := run_concat.1 hrun
    by_cases hmove : ∃ handler qos, move = .subscribe handler filter qos
    · obtain ⟨handler, qos, rfl⟩ := hmove
      refine ⟨moves, handler, qos, [], last, rfl, hlast, by simp, safe_subscribe hstep, ?_⟩
      exact fun hsweeps => .inl ((sweeps_subscribe hstep).2 hsweeps)
    · have hother : ∀ handler qos, move ≠ .subscribe handler filter qos :=
        fun handler qos heq => hmove ⟨handler, qos, heq⟩
      have hunique := nodup_run (by rw [hempty]; exact List.nodup_nil) hlast
      have hpasses : Passes filter last later := passes_step hunique hother hstep
      obtain ⟨before, handler, qos, after, mid, rfl, hmid, hafter, hsafe, hdoomed⟩ :=
        ih hlast (hpasses.mem_filters hin)
      refine ⟨before, handler, qos, after ++ [move], mid, by simp, hmid, fun handler' qos' hmem => ?_,
        fun hcalm => (hsafe hcalm).passes hpasses hin, fun hsweeps => (hdoomed hsweeps).passes hpasses⟩
      rcases List.mem_append.1 hmem with hmem | hmem
      · exact hafter handler' qos' hmem
      · exact hother handler' qos' (List.mem_singleton.1 hmem).symm

theorem not_sweeps_of_idle (h : crowd.chores = []) : ¬crowd.Sweeps filter := by
  rintro ⟨chore, hchore, -⟩
  rw [h] at hchore; cases hchore

/-- When no call waits, a filter whose fate is decided is kept or was given up last. -/
theorem Safe.keeps (h : crowd.Safe filter) (hidle : crowd.chores = []) : crowd.Keeps filter := by
  refine ⟨h.noted.resolve_right ?_, h.asked⟩
  rintro ⟨qos, hnote⟩
  rw [hidle] at hnote; cases hnote

theorem Doomed.not_keeps (h : crowd.Doomed filter) (hidle : crowd.chores = []) :
    ¬crowd.Keeps filter := by
  rintro ⟨-, qos, hasked⟩
  rw [h.resolve_left (not_sweeps_of_idle hidle)] at hasked
  cases hasked

/-! ### Without losses -/

/-- No handler is gone, and no call is about to give anything up. -/
structure Peaceful (crowd : Crowd) : Prop where
  manned : crowd.session.router.Manned
  calm : ∀ filter, ¬crowd.Sweeps filter

theorem Peaceful.goOn {chore : Chore} (h : Peaceful ⟨session, chore :: chores⟩)
    (hgo : goOn chores session chore = some later) : later.Peaceful := by
  have hcalm : ∀ filter, ¬Sweeps ⟨session, chores⟩ filter := by
    rintro filter ⟨other, hother, hmem⟩
    exact h.calm filter ⟨other, List.mem_cons_of_mem _ hother, hmem⟩
  cases chore with
  | note other qos => cases hgo; exact ⟨h.manned, hcalm⟩
  | sweep =>
    have hsweep : session.sweep = (session, []) := by
      rw [Session.sweep, h.manned.cleanup]
    rw [Crowd.goOn, hsweep] at hgo
    cases hgo; exact ⟨h.manned, hcalm⟩
  | giveUp filters =>
    have hnil : filters = [] := List.eq_nil_iff_forall_not_mem.2 fun filter hmem =>
      h.calm filter ⟨.giveUp filters, List.mem_cons_self, hmem⟩
    subst hnil
    cases hgo; exact ⟨h.manned, hcalm⟩

theorem Peaceful.step {move : Move} (h : crowd.Peaceful) (hmove : ∀ handler, move ≠ .forget handler)
    (hstep : crowd.step move = some later) : later.Peaceful := by
  cases move with
  | subscribe handler other qos =>
    rw [subscribe_eq hstep]
    exact ⟨h.manned.register, fun filter => (sweeps_concat (by rintro ⟨⟩)).not.2 (h.calm filter)⟩
  | unsubscribe handler other =>
    rcases unsubscribe_cases hstep with ⟨-, rfl⟩ | hgo
    · exact ⟨h.manned.unregister, fun filter => (sweeps_concat (by rintro ⟨⟩)).not.2 (h.calm filter)⟩
    · refine Peaceful.goOn ⟨h.manned.unregister, fun filter => ?_⟩ hgo
      exact (sweeps_cons (by rintro ⟨⟩)).not.2 (h.calm filter)
  | forget handler => exact absurd rfl (hmove handler)
  | resume place =>
    obtain ⟨chore, rest, hperm, hgo⟩ := resume_cases hstep
    refine Peaceful.goOn ⟨h.manned, fun filter => ?_⟩ hgo
    exact (untouched_of_perm hperm).sweeps.not.2 (h.calm filter)

theorem Peaceful.run {moves : List Move} (h : crowd.Peaceful)
    (hmoves : ∀ handler, .forget handler ∉ moves) (hrun : run moves crowd = some later) :
    later.Peaceful := by
  induction moves using List.reverseRecOn generalizing later with
  | nil => cases hrun; exact h
  | append_singleton moves move ih =>
    obtain ⟨mid, hmid, hstep⟩ := run_concat.1 hrun
    have hbefore := ih (fun handler hmem => hmoves handler (List.mem_append_left _ hmem)) hmid
    exact hbefore.step (fun handler heq => hmoves handler (by simp [heq])) hstep

end

/-! ### From the first connection on -/

/-- What decides whether a subscription is kept: when no call waits any more, a filter of the router is
to be restored and was asked for last exactly if no call was about to give it up when it was last
subscribed to. -/
theorem keeps_iff_not_sweeps {settings : Settings} {greeting : Greeting} {session : Session}
    (hconnect : Session.connect settings greeting = (.ok (), session)) {moves : List Move}
    {last : Crowd} (hrun : run moves ⟨session, []⟩ = some last) (hidle : last.chores = [])
    {filter : String} (hin : filter ∈ last.session.router.filters) :
    ∃ before handler qos after mid, moves = before ++ .subscribe handler filter qos :: after ∧
      run before ⟨session, []⟩ = some mid ∧
      (∀ handler' qos', .subscribe handler' filter qos' ∉ after) ∧
      (last.Keeps filter ↔ ¬mid.Sweeps filter) := by
  have hempty : session.router.filters = [] := by rw [empty_of_connect hconnect]; rfl
  obtain ⟨before, handler, qos, after, mid, hmoves, hmid, hafter, hsafe, hdoomed⟩ :=
    last_subscription hempty hrun hin
  refine ⟨before, handler, qos, after, mid, hmoves, hmid, hafter, fun hkeeps hsweeps => ?_, ?_⟩
  · exact (hdoomed hsweeps).not_keeps hidle hkeeps
  · exact fun hcalm => (hsafe hcalm).keeps hidle

/-- A handler subscribes to a filter while another one is giving up something else. -/
theorem keeps_iff_not_sweeps_beside :
    let settings : Settings := { Settings.default with host := "hub" }
    let session := (Session.connect settings .accept).2
    let moves : List Move := [.subscribe 1 "a" .atMostOnce, .resume 0, .forget 1,
      .unsubscribe 2 "c", .subscribe 3 "b" .atLeastOnce, .resume 0, .resume 0]
    Session.connect settings .accept = (.ok (), session) ∧
    ∃ last, run moves ⟨session, []⟩ = some last ∧ last.chores = [] ∧
      "b" ∈ last.session.router.filters ∧
      ∃ before handler qos after mid, moves = before ++ .subscribe handler "b" qos :: after ∧
        run before ⟨session, []⟩ = some mid ∧
        (∀ handler' qos', .subscribe handler' "b" qos' ∉ after) ∧
        (last.Keeps "b" ↔ ¬mid.Sweeps "b") := by
  have hconnect : Session.connect { Settings.default with host := "hub" } .accept =
      (.ok (), (Session.connect { Settings.default with host := "hub" } .accept).2) := rfl
  intro settings session moves
  have hany : (run moves ⟨session, []⟩).any (fun last =>
      decide (last.chores = [] ∧ "b" ∈ last.session.router.filters)) = true := by decide +kernel
  obtain ⟨last, hrun, hlast⟩ := (Option.any_eq_true _ _).1 hany
  obtain ⟨hidle, hin⟩ := of_decide_eq_true hlast
  exact ⟨hconnect, last, hrun, hidle, hin, keeps_iff_not_sweeps hconnect hrun hidle hin⟩

/-- Handler 2 finds two filters without handlers. While it gives up the first one, handler 3
subscribes to the second one, and loses it again. -/
theorem subscription_lost :
    let session := (Session.connect { Settings.default with host := "hub" } .accept).2
    let moves : List Move := [.subscribe 1 "a" .atMostOnce, .resume 0, .subscribe 1 "b" .atMostOnce,
      .resume 0, .forget 1, .unsubscribe 2 "c", .subscribe 3 "b" .atLeastOnce, .resume 1, .resume 0,
      .resume 0]
    ∃ last, run moves ⟨session, []⟩ = some last ∧ last.chores = [] ∧
      last.session.router.handlersOf "b" = some [3] ∧ last.session.router.isLive 3 = true ∧
      "b" ∉ last.session.subscriptions.map (·.1) ∧ last.last "b" = some (.unsubscribe "b") := by
  intro session moves
  have hany : (run moves ⟨session, []⟩).any (fun last => decide (last.chores = [] ∧
      last.session.router.handlersOf "b" = some [3] ∧ last.session.router.isLive 3 = true ∧
      "b" ∉ last.session.subscriptions.map (·.1) ∧
      last.last "b" = some (.unsubscribe "b"))) = true := by decide +kernel
  obtain ⟨last, hrun, hlast⟩ := (Option.any_eq_true _ _).1 hany
  exact ⟨last, hrun, of_decide_eq_true hlast⟩

/-- Nothing is lost while no handler goes. -/
theorem keeps_of_no_forget {settings : Settings} {greeting : Greeting} {session : Session}
    (hconnect : Session.connect settings greeting = (.ok (), session)) {moves : List Move}
    (hmoves : ∀ handler, .forget handler ∉ moves) {last : Crowd}
    (hrun : run moves ⟨session, []⟩ = some last) (hidle : last.chores = []) {filter : String}
    (hin : filter ∈ last.session.router.filters) : last.Keeps filter := by
  have hrouter := empty_of_connect hconnect
  have hempty : session.router.filters = [] := by rw [hrouter]; rfl
  obtain ⟨before, handler, qos, after, mid, rfl, hmid, -, hsafe, -⟩ := last_subscription hempty hrun hin
  have hstart : Peaceful ⟨session, []⟩ := by
    refine ⟨⟨by rw [hrouter]; rfl, ?_⟩, fun _ => not_sweeps_of_idle rfl⟩
    rw [hrouter]; rintro _ ⟨⟩
  have hpeace := hstart.run (fun handler hmem => hmoves handler (List.mem_append_left _ hmem)) hmid
  exact (hsafe (hpeace.calm filter)).keeps hidle

end Crowd

end CoverControl.Mqtt
