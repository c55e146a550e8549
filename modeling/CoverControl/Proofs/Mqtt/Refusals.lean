import CoverControl.Proofs.Listening
import CoverControl.Proofs.Mqtt.Bookkeeping
import CoverControl.Proofs.Mqtt.Closing

/-!
# Refused calls

A session that has ended refuses every request. A call finds that out after it has edited the router:
a subscription takes its handler off again, even one that was there before, and the end of a
subscription leaves the handler off, and forgets the filters that it gave up and the one that it could
not give up. So a refused call takes off the pair that it is about, and harms nothing only if there was
no such pair (`refused_harmless_iff`).

A call may have to wait before its requests, and the session may end while it waits: the end of a
subscription, which can make several requests, may fail halfway (`Unsubscribes`).
-/

namespace CoverControl.Mqtt

/-- The move is not a step of a subscription, or of the end of one. -/
def Parting.Move.Apart : Parting.Move → Prop
  | .call (.enroll ..) | .call (.note ..) | .call (.leave ..) | .call .sweep | .call (.giveUp _) => False
  | _ => True

namespace Session
variable {session later : Session} {handler : Handler} {filter : String} {filters : List String}
  {qos : Qos} {result : Except TransportFault Unit} {kind : Parting.Move → Prop}
  {move : Parting.Move} {parting after : Parting}

/-! ### Tables without some filters -/

/-- A table of subscriptions without those to the given filters. -/
def without (filters : List String) (table : List (String × Qos)) : List (String × Qos) :=
  table.filter fun entry => !filters.contains entry.1

section
variable {table : List (String × Qos)} {other : String}

@[simp] theorem without_nil : without [] table = table := List.filter_eq_self.2 fun _ _ => rfl

theorem without_without (more : List String) :
    without more (without filters table) = without (filters ++ more) table := by
  simp [without, List.filter_filter, Bool.and_comm]

theorem mem_keys_without :
    other ∈ (without filters table).map (·.1) ↔ other ∈ table.map (·.1) ∧ other ∉ filters := by
  rw [without, Table.keys_filter fun f => !filters.contains f, List.mem_filter]
  simp

theorem without_eq_iff : without filters table = table ↔ ∀ f ∈ filters, f ∉ table.map (·.1) := by
  constructor
  · intro heq f hf hkey
    rw [← heq, mem_keys_without] at hkey
    exact hkey.2 hf
  · intro hkeys
    refine List.filter_eq_self.2 fun entry hentry => ?_
    have hnot : entry.1 ∉ filters := fun hf => hkeys _ hf (List.mem_map.2 ⟨entry, hentry, rfl⟩)
    simpa using hnot

end

/-! ### Calls that wait

The wait for a request comes after the edit that belongs to it. As nothing alters the tables in the
meantime, it may as well come before the edit. -/

/-- What happened from `session` to `later` left both tables alone. -/
structure Undisturbed (session later : Session) : Prop where
  router : later.router = session.router
  subscriptions : later.subscriptions = session.subscriptions

/-- A subscription, which waits before its request. -/
def Subscribes (session : Session) (handler : Handler) (filter : String) (qos : Qos)
    (result : Except TransportFault Unit) (later : Session) : Prop :=
  ∃ waited, session.Undisturbed waited ∧ (waited.subscribe handler filter qos).1 = result ∧
    (waited.subscribe handler filter qos).2 = later

/-- Filters are given up one after another, up to the first one that is refused, with a wait before
each request. -/
inductive GivesUp : List String → Session → Except TransportFault Unit → Session → Prop where
  | done (session : Session) : GivesUp [] session (.ok ()) session
  | refused {session waited later : Session} {filter : String} {filters : List String}
      {fault : TransportFault} (hwait : session.Undisturbed waited)
      (h : waited.giveUp filter = (.error fault, later)) :
      GivesUp (filter :: filters) session (.error fault) later
  | next {session waited given later : Session} {filter : String} {filters : List String}
      {result : Except TransportFault Unit} (hwait : session.Undisturbed waited)
      (h : waited.giveUp filter = (.ok (), given)) (hrest : GivesUp filters given result later) :
      GivesUp (filter :: filters) session result later

/-- The end of a subscription, which waits before each of its requests. -/
inductive Unsubscribes (session : Session) (handler : Handler) (filter : String) :
    Except TransportFault Unit → Session → Prop where
  | refused {waited later : Session} {fault : TransportFault} (hwait : session.Undisturbed waited)
      (h : waited.leave handler filter = (.error fault, later)) :
      Unsubscribes session handler filter (.error fault) later
  | swept {waited left later : Session} {result : Except TransportFault Unit}
      (hwait : session.Undisturbed waited) (h : waited.leave handler filter = (.ok (), left))
      (hrest : GivesUp left.sweep.2 left.sweep.1 result later) :
      Unsubscribes session handler filter result later

theorem Undisturbed.refl (session : Session) : session.Undisturbed session := ⟨rfl, rfl⟩

/-- A call that does not have to wait is a case of one that does. -/
theorem subscribes_alone (session : Session) (handler : Handler) (filter : String) (qos : Qos) :
    session.Subscribes handler filter qos (session.subscribe handler filter qos).1
      (session.subscribe handler filter qos).2 := ⟨session, .refl session, rfl, rfl⟩

theorem givesUp_alone (filters : List String) (session : Session) :
    GivesUp filters session (giveUpAll filters session).1 (giveUpAll filters session).2 := by
  induction filters generalizing session with
  | nil => exact .done session
  | cons filter filters ih =>
    rw [giveUpAll]
    split <;> rename_i hgiveUp
    · exact .refused (.refl session) hgiveUp
    · exact .next (.refl session) hgiveUp (ih _)

theorem unsubscribes_alone (session : Session) (handler : Handler) (filter : String) :
    session.Unsubscribes handler filter (session.unsubscribe handler filter).1
      (session.unsubscribe handler filter).2 := by
  rw [unsubscribe]
  split <;> rename_i hleave
  · exact .refused (.refl session) hleave
  · exact .swept (.refl session) hleave (givesUp_alone _ _)

/-! ### What a refused call does -/

theorem request_of_ended {packet : Packet} (h : session.phase = .ended) :
    session.request packet = none := by
  rw [request, if_pos (.inl h)]

theorem subscribe_fails_iff : (session.subscribe handler filter qos).1 ≠ .ok () ↔
    session.phase = .ended ∨ (Packet.subscribe filter qos).isSendable = false := by
  simp only [subscribe, enroll, request]
  by_cases h : session.phase = .ended ∨ (Packet.subscribe filter qos).isSendable = false
  · simp [h]
  · simp [h]

/-- A subscription that is refused is undone, and nothing else is. -/
theorem subscribe_of_fails (h : (session.subscribe handler filter qos).1 ≠ .ok ()) :
    (session.subscribe handler filter qos).2 = { session with
      router := ((session.router.register filter handler).1.unregister filter handler).1 } := by
  have hfails := subscribe_fails_iff.1 h
  simp only [subscribe, enroll, request]
  rw [if_pos hfails]

theorem giveUp_of_ended (h : session.phase = .ended) : session.giveUp filter =
    (.error .requestRefused,
      { session with subscriptions := session.subscriptions.filter fun (f, _) => f != filter }) := by
  simp only [giveUp]
  rw [request_of_ended (by exact h)]

theorem router_giveUp : (session.giveUp filter).2.router = session.router := by
  by_cases h : session.phase = .ended
  · rw [giveUp_of_ended h]
  · rw [giveUp_eq h]; rfl

/-- A filter is forgotten even if it could not be given up. -/
theorem subscriptions_giveUp :
    (session.giveUp filter).2.subscriptions = without [filter] session.subscriptions := by
  by_cases h : session.phase = .ended
  · rw [giveUp_of_ended h]
    refine List.filter_congr fun entry _ => ?_
    rw [Bool.eq_iff_iff]; simp
  · rw [giveUp_eq h]; rfl

theorem router_leave :
    (session.leave handler filter).2.router = (session.router.unregister filter handler).1 := by
  simp only [leave]
  split
  · rw [router_giveUp]
  · rfl

theorem subscriptions_leave : (session.leave handler filter).2.subscriptions =
    without (if (session.router.unregister filter handler).2 then [filter] else [])
      session.subscriptions := by
  simp only [leave]
  split
  · rw [subscriptions_giveUp]
  · rw [without_nil]

theorem leave_of_kept (h : (session.router.unregister filter handler).2 = false) :
    session.leave handler filter =
      (.ok (), { session with router := (session.router.unregister filter handler).1 }) := by
  simp only [leave, h]
  rfl

/-- Filters are given up in their order, and the one that is refused is forgotten all the same. -/
theorem GivesUp.outcome (h : GivesUp filters session result later) :
    later.router = session.router ∧ ∃ given rest, filters = given ++ rest ∧
      later.subscriptions = without given session.subscriptions ∧
      (result = .ok () ∧ rest = [] ∨ result ≠ .ok () ∧ given ≠ []) := by
  induction h with
  | done session => exact ⟨rfl, [], [], rfl, without_nil.symm, .inl ⟨rfl, rfl⟩⟩
  | @refused session waited later filter filters fault hwait h =>
    obtain rfl : (waited.giveUp filter).2 = later := congrArg Prod.snd h
    refine ⟨?_, [filter], filters, rfl, ?_, .inr ⟨by simp, List.cons_ne_nil _ _⟩⟩
    · rw [router_giveUp, hwait.router]
    · rw [subscriptions_giveUp, hwait.subscriptions]
  | @next session waited given later filter filters result hwait h _ ih =>
    obtain rfl : (waited.giveUp filter).2 = given := congrArg Prod.snd h
    obtain ⟨hrouter, given, rest, hsplit, hsubscriptions, hresult⟩ := ih
    refine ⟨?_, filter :: given, rest, congrArg (filter :: ·) hsplit, ?_, ?_⟩
    · rw [hrouter, router_giveUp, hwait.router]
    · rw [hsubscriptions, subscriptions_giveUp, without_without, hwait.subscriptions]; rfl
    · exact hresult.imp_right (And.imp_right fun _ => List.cons_ne_nil _ _)

/-- The end of a subscription forgets the first ones of the filters that it has to give up, at least
one of them if it is refused. If its own filter is refused, then nothing is swept out. -/
theorem Unsubscribes.outcome (h : session.Unsubscribes handler filter result later) :
    let left := session.router.unregister filter handler
    ∃ given rest, session.abandoned handler filter = given ++ rest ∧
      (later.router = left.1.cleanup.1 ∨ left.2 = true ∧ later.router = left.1 ∧ given = [filter]) ∧
      later.subscriptions = without given session.subscriptions ∧
      (result = .ok () ∧ rest = [] ∨ result ≠ .ok () ∧ given ≠ []) := by
  intro left
  cases h with
  | @refused waited later fault hwait h =>
    obtain rfl : (waited.leave handler filter).2 = later := congrArg Prod.snd h
    have hlast : left.2 = true := by
      by_contra hkept
      rw [leave_of_kept (by rw [hwait.router]; exact Bool.eq_false_of_not_eq_true hkept)] at h
      cases h
    refine ⟨[filter], left.1.cleanup.2, ?_, .inr ⟨hlast, ?_, rfl⟩, ?_,
      .inr ⟨by simp, List.cons_ne_nil _ _⟩⟩
    · rw [abandoned, if_pos hlast]
    · rw [router_leave, hwait.router]
    · rw [subscriptions_leave, hwait.router, if_pos hlast, hwait.subscriptions]
  | @swept waited mid later result hwait h hrest =>
    obtain rfl : (waited.leave handler filter).2 = mid := congrArg Prod.snd h
    have hmid : (waited.leave handler filter).2.router = left.1 := by rw [router_leave, hwait.router]
    obtain ⟨hrouter, given, rest, hsplit, hsubscriptions, hresult⟩ := hrest.outcome
    refine ⟨(if left.2 then [filter] else []) ++ given, rest, ?_, .inl ?_, ?_, ?_⟩
    · rw [abandoned, List.append_assoc, ← hsplit, sweep, hmid]
    · rw [hrouter, sweep, hmid]
    · rw [hsubscriptions]
      show without given (waited.leave handler filter).2.subscriptions = _
      rw [subscriptions_leave, without_without, hwait.router, hwait.subscriptions]
    · exact hresult.imp_right (And.imp_right fun hne => List.append_ne_nil_of_right_ne_nil _ hne)

theorem unsubscribe_fails_iff : (session.unsubscribe handler filter).1 ≠ .ok () ↔
    session.phase = .ended ∧ session.abandoned handler filter ≠ [] := by
  by_cases h : session.phase = .ended
  · simp only [unsubscribe, abandoned, h, true_and]
    cases hlast : (session.router.unregister filter handler).2 with
    | true => simp [leave, giveUp, request, hlast, h]
    | false =>
      simp only [leave_of_kept hlast, sweep]
      cases (session.router.unregister filter handler).1.cleanup.2 with
      | nil => simp [giveUpAll]
      | cons lost stale => simp [giveUpAll, giveUp, request, h]
  · rw [unsubscribe_eq h]
    simp [h]

/-! ### What it harms -/

/-- The handlers listen to what they listened to, and the same filters are to be restored. -/
structure Unharmed (session later : Session) : Prop where
  pairs : ∀ pair, pair ∈ later.router.livePairs ↔ pair ∈ session.router.livePairs
  subscriptions : later.subscriptions = session.subscriptions

/-- Only the given pair is missing. -/
def Misses (session later : Session) (pair : String × Handler) : Prop :=
  ∀ other, other ∈ later.router.livePairs ↔ other ∈ session.router.livePairs ∧ other ≠ pair

theorem unharmed_iff {pair : String × Handler} (h : session.Misses later pair) :
    session.Unharmed later ↔
      pair ∉ session.router.livePairs ∧ later.subscriptions = session.subscriptions := by
  constructor
  · rintro ⟨hpairs, hsubscriptions⟩
    exact ⟨fun hpair => ((h pair).1 ((hpairs pair).2 hpair)).2 rfl, hsubscriptions⟩
  · rintro ⟨hpair, hsubscriptions⟩
    refine ⟨fun other => (h other).trans (and_iff_left_of_imp ?_), hsubscriptions⟩
    rintro hother rfl
    exact hpair hother

theorem Subscribes.misses (hunique : session.router.filters.Nodup)
    (h : session.Subscribes handler filter qos result later) (hfails : result ≠ .ok ()) :
    session.Misses later (filter, handler) := by
  obtain ⟨waited, hwait, rfl, rfl⟩ := h
  rintro ⟨f, h⟩
  rw [subscribe_of_fails hfails]
  dsimp only
  rw [hwait.router, Router.mem_livePairs (Router.nodup_unregister (Router.nodup_register hunique)),
    Router.mem_livePairs hunique, Router.mem_listeners_unregister, Router.mem_listeners_register]
  grind

theorem Subscribes.forgets_nothing (h : session.Subscribes handler filter qos result later)
    (hfails : result ≠ .ok ()) : later.subscriptions = session.subscriptions := by
  obtain ⟨waited, hwait, rfl, rfl⟩ := h
  rw [subscribe_of_fails hfails]
  exact hwait.subscriptions

theorem Unsubscribes.misses (hunique : session.router.filters.Nodup)
    (h : session.Unsubscribes handler filter result later) :
    session.Misses later (filter, handler) := by
  obtain ⟨given, rest, -, hrouter, -⟩ := h.outcome
  have hleft : (session.router.unregister filter handler).1.filters.Nodup :=
    Router.nodup_unregister hunique
  rintro ⟨f, h'⟩
  have hpair : (f, h') ∈ later.router.livePairs ↔
      h' ∈ (session.router.unregister filter handler).1.listeners f := by
    -- what a cleanup takes out has no live handlers
    rcases hrouter with heq | ⟨-, heq, -⟩ <;> rw [heq]
    · rw [Router.mem_livePairs (Router.nodup_cleanup hleft), Router.listeners_cleanup hleft]
    · exact Router.mem_livePairs hleft
  rw [hpair, Router.mem_listeners_unregister, Router.mem_livePairs hunique, ne_eq, Prod.mk.injEq]

/-! ### Sessions that can be reached -/

/-- The sessions that come of a first connection by whole calls and by moves of a kind. -/
inductive Reachable (kind : Parting.Move → Prop) : Session → Prop where
  | opened {settings : Settings} {greeting : Greeting} {session : Session}
      (h : connect settings greeting = (.ok (), session)) : Reachable kind session
  | subscribed {session later : Session} {handler : Handler} {filter : String} {qos : Qos}
      {result : Except TransportFault Unit} (h : Reachable kind session)
      (hcall : session.Subscribes handler filter qos result later) : Reachable kind later
  | unsubscribed {session later : Session} {handler : Handler} {filter : String}
      {result : Except TransportFault Unit} (h : Reachable kind session)
      (hcall : session.Unsubscribes handler filter result later) : Reachable kind later
  | moved {parting after : Parting} {move : Parting.Move} (h : Reachable kind parting.session)
      (hkind : kind move) (hstep : parting.step move = some after) : Reachable kind after.session

theorem Reachable.run {moves : List Parting.Move} (h : Reachable kind parting.session)
    (hkind : ∀ move ∈ moves, kind move) (hrun : parting.run moves = some after) :
    Reachable kind after.session := by
  induction moves generalizing parting with
  | nil => cases hrun; exact h
  | cons move moves ih =>
    rw [List.forall_mem_cons] at hkind
    obtain ⟨mid, hstep, hrest⟩ := Parting.run_cons.1 hrun
    exact ih (h.moved hkind.1 hstep) hkind.2 hrest

/-- From `session` to `later` the filters of both tables stayed as they were. -/
structure Calm (session later : Session) : Prop where
  filters : later.router.filters = session.router.filters
  subscriptions : later.subscriptions = session.subscriptions

theorem request_calm {packet : Packet} (h : session.request packet = some later) :
    session.Calm later := by
  unfold request at h
  split at h
  · cases h
  · cases h; exact ⟨rfl, rfl⟩

theorem handle_calm (event : Event) (session : Session) : session.Calm (session.handle event) := by
  cases event with
  | accepted => simp only [handle]; split <;> exact ⟨rfl, rfl⟩
  | acknowledged | received => exact ⟨rfl, rfl⟩
  | dismissed => simp only [handle, endIfClosing]; split <;> exact ⟨rfl, rfl⟩
  | failed =>
    simp only [handle, endIfClosing]
    split
    · exact ⟨rfl, rfl⟩
    · split <;> exact ⟨rfl, rfl⟩

theorem perform_calm (call : Parting.Call) (h : Parting.Move.Apart (.call call)) (session : Session) :
    session.Calm (call.perform session) := by
  cases call with
  | publish message =>
    simp only [Parting.Call.perform, publish]
    split
    · exact ⟨rfl, rfl⟩
    · rename_i hrequest
      exact request_calm hrequest
  | forget => exact ⟨rfl, rfl⟩
  | restore filter qos =>
    simp only [Parting.Call.perform]
    cases hrequest : session.request (.subscribe filter qos) with
    | none => exact ⟨rfl, rfl⟩
    | some later => exact request_calm hrequest
  | enroll | note | leave | sweep | giveUp => exact h.elim

/-- Only calls change the tables. -/
theorem step_calm (h : parting.step move = some after) :
    (∃ call, move = .call call ∧ after.session = call.perform parting.session) ∨
      parting.session.Calm after.session := by
  cases move with
  | call call => cases h; exact .inl ⟨call, rfl, rfl⟩
  | ask => cases h; exact .inr ⟨rfl, rfl⟩
  | queue =>
    simp only [Parting.step] at h
    split at h
    · cases h
    split at h
    · cases h; exact .inr ⟨rfl, rfl⟩
    · rename_i hrequest
      cases h; exact .inr (request_calm hrequest)
  | finish =>
    simp only [Parting.step] at h
    split at h
    · cases h
    · cases h; exact .inr ⟨rfl, rfl⟩
  | send =>
    simp only [Parting.step] at h
    split at h
    · cases h; exact .inr ⟨rfl, rfl⟩
    · cases h
  | event event =>
    right
    simp only [Parting.step] at h
    split at h
    · cases h
    split at h
    · split at h
      · cases h
      · cases h
        exact ⟨(handle_calm .accepted _).filters, (handle_calm .accepted _).subscriptions⟩
    · cases h; exact handle_calm event _

theorem calm_of_apart (hmove : move.Apart) (h : parting.step move = some after) :
    parting.session.Calm after.session := by
  rcases step_calm h with ⟨call, rfl, hafter⟩ | hcalm
  · rw [hafter]; exact perform_calm call hmove _
  · exact hcalm

theorem router_enroll (session : Session) (handler : Handler) (filter : String) (qos : Qos) :
    (session.enroll handler filter qos).2.router =
    (session.router.register filter handler).1 ∨
    (session.enroll handler filter qos).2.router =
      ((session.router.register filter handler).1.unregister filter handler).1 := by
  simp only [enroll, request]
  by_cases h : session.phase = .ended ∨ (Packet.subscribe filter qos).isSendable = false
  · rw [if_pos h]; exact .inr rfl
  · rw [if_neg h]; exact .inl rfl

theorem unique_perform (call : Parting.Call) (h : session.router.filters.Nodup) :
    (call.perform session).router.filters.Nodup := by
  have hkeep : Parting.Move.Apart (.call call) → (call.perform session).router.filters.Nodup :=
    fun hapart => (perform_calm call hapart session).filters ▸ h
  cases call with
  | publish | forget | restore => exact hkeep trivial
  | enroll handler filter qos =>
    rcases router_enroll session handler filter qos with heq | heq <;>
      simp only [Parting.Call.perform, heq]
    · exact Router.nodup_register h
    · exact Router.nodup_unregister (Router.nodup_register h)
  | note => exact h
  | leave => simp only [Parting.Call.perform, router_leave]; exact Router.nodup_unregister h
  | sweep => exact Router.nodup_cleanup h
  | giveUp => simp only [Parting.Call.perform, router_giveUp]; exact h

theorem router_subscribe : (session.subscribe handler filter qos).2.router =
    (session.enroll handler filter qos).2.router := by
  simp only [subscribe]
  split <;> rename_i heq <;> rw [heq]; rfl

theorem Subscribes.unique (hunique : session.router.filters.Nodup)
    (h : session.Subscribes handler filter qos result later) : later.router.filters.Nodup := by
  obtain ⟨waited, hwait, -, rfl⟩ := h
  rw [router_subscribe]
  exact unique_perform (.enroll handler filter qos) (hwait.router ▸ hunique)

theorem Unsubscribes.unique (hunique : session.router.filters.Nodup)
    (h : session.Unsubscribes handler filter result later) : later.router.filters.Nodup := by
  obtain ⟨given, rest, -, hrouter, -⟩ := h.outcome
  rcases hrouter with heq | ⟨-, heq, -⟩ <;> rw [heq]
  · exact Router.nodup_cleanup (Router.nodup_unregister hunique)
  · exact Router.nodup_unregister hunique

theorem Reachable.unique (h : session.Reachable kind) : session.router.filters.Nodup := by
  induction h with
  | opened h => exact (inStep_of_connect h).unique
  | subscribed _ hcall ih => exact hcall.unique ih
  | unsubscribed _ hcall ih => exact hcall.unique ih
  | moved _ _ hstep ih =>
    rcases step_calm hstep with ⟨call, -, hafter⟩ | hcalm
    · rw [hafter]; exact unique_perform call ih
    · rw [hcalm.filters]; exact ih

/-- The filters of the router are to be restored. -/
def Noted (session : Session) : Prop :=
  ∀ filter ∈ session.router.filters, filter ∈ session.subscriptions.map (·.1)

theorem Noted.subscribe (h : session.Noted) : (session.subscribe handler filter qos).2.Noted := by
  by_cases hfails : (session.subscribe handler filter qos).1 ≠ .ok ()
  · rw [subscribe_of_fails hfails]
    intro f hf
    by_cases hnew : filter ∈ session.router.filters
    · have hmem := Router.mem_filters_register.1 (Router.mem_filters_unregister.1 hf).1
      exact h f (hmem.elim (fun heq => heq ▸ hnew) id)
    · exact h f (by rwa [Router.unregister_register hnew] at hf)
  · rw [subscribe_fails_iff, not_or] at hfails
    simp only [Session.subscribe, enroll_of_sendable hfails.1 (Bool.eq_true_of_not_eq_false hfails.2),
      note, putQos_eq]
    intro f hf
    rw [Table.mem_keys_put]
    exact (Router.mem_filters_register.1 hf).imp_right (h f)

theorem Noted.subscribes (h : session.Noted)
    (hcall : session.Subscribes handler filter qos result later) : later.Noted := by
  obtain ⟨waited, hwait, -, rfl⟩ := hcall
  have hwaited : waited.Noted := by
    intro f hf
    rw [hwait.router] at hf
    rw [hwait.subscriptions]
    exact h f hf
  exact hwaited.subscribe

theorem Noted.unsubscribes (h : session.Noted) (hunique : session.router.filters.Nodup)
    (hcall : session.Unsubscribes handler filter result later) : later.Noted := by
  obtain ⟨given, rest, hsplit, hrouter, hsubscriptions, -⟩ := hcall.outcome
  intro f hf
  have hkept : f ∈ session.router.filters ∧ f ∉ given := by
    rcases hrouter with heq | ⟨hlast, heq, hgiven⟩ <;> rw [heq] at hf
    · refine ((mem_filters_after_unsubscribe hunique).1 hf).imp_right fun hnot hmem => hnot ?_
      exact hsplit ▸ List.mem_append_left rest hmem
    · refine (Router.mem_filters_unregister.1 hf).imp_right fun hnot hmem => hnot ⟨hlast, ?_⟩
      exact List.mem_singleton.1 (hgiven ▸ hmem)
  rw [hsubscriptions, mem_keys_without]
  exact hkept.imp_left (h f)

theorem Reachable.noted (h : session.Reachable Parting.Move.Apart) : session.Noted := by
  induction h with
  | opened h => exact fun filter hfilter => ((inStep_of_connect h).keys filter).2 hfilter
  | subscribed _ hcall ih => exact ih.subscribes hcall
  | unsubscribed h hcall ih => exact ih.unsubscribes h.unique hcall
  | moved _ hmove hstep ih =>
    have hcalm := calm_of_apart hmove hstep
    intro filter hfilter
    rw [hcalm.subscriptions]
    exact ih filter (hcalm.filters ▸ hfilter)

/-- A subscription is refused if the session has ended, or if its filter is none that the server may
be asked for, and the end of one if the session has ended and there is a filter to give up; if the
session ends while it waits, it may be refused halfway. A refused call takes off the pair that it is
about, if there is one. That is all that a subscription does. The end of one also forgets the filters
that it gave up and the one that it could not give up, if they were to be restored, and these always
were if all calls before were made as a whole: so no refused end of a subscription is harmless then. -/
theorem refused_harmless_iff (h : session.Reachable kind) (handler : Handler) (filter : String)
    (qos : Qos) :
    ((session.subscribe handler filter qos).1 ≠ .ok () ↔
      session.phase = .ended ∨ (Packet.subscribe filter qos).isSendable = false) ∧
    ((session.unsubscribe handler filter).1 ≠ .ok () ↔
      session.phase = .ended ∧ session.abandoned handler filter ≠ []) ∧
    (∀ result later, session.Subscribes handler filter qos result later → result ≠ .ok () →
      session.Misses later (filter, handler) ∧
      (session.Unharmed later ↔ (filter, handler) ∉ session.router.livePairs)) ∧
    (∀ result later, session.Unsubscribes handler filter result later → result ≠ .ok () →
      ∃ given, given ≠ [] ∧ given <+: session.abandoned handler filter ∧
        session.Misses later (filter, handler) ∧
        later.subscriptions = without given session.subscriptions ∧
        (session.Unharmed later ↔ (filter, handler) ∉ session.router.livePairs ∧
          ∀ f ∈ given, f ∉ session.subscriptions.map (·.1)) ∧
        (session.Reachable Parting.Move.Apart → ¬session.Unharmed later)) := by
  refine ⟨subscribe_fails_iff, unsubscribe_fails_iff, fun result later hcall hfails => ?_,
    fun result later hcall hfails => ?_⟩
  · have hmisses := hcall.misses h.unique hfails
    exact ⟨hmisses, (unharmed_iff hmisses).trans (and_iff_left (hcall.forgets_nothing hfails))⟩
  · have hmisses := hcall.misses h.unique
    obtain ⟨given, rest, hsplit, -, hsubscriptions, ⟨hok, -⟩ | ⟨-, hne⟩⟩ := hcall.outcome
    · exact absurd hok hfails
    have hiff : later.subscriptions = session.subscriptions ↔
        ∀ f ∈ given, f ∉ session.subscriptions.map (·.1) := by rw [hsubscriptions, without_eq_iff]
    refine ⟨given, hne, ⟨rest, hsplit.symm⟩, hmisses, hsubscriptions,
      (unharmed_iff hmisses).trans (and_congr_right fun _ => hiff), fun hwhole hunharmed => ?_⟩
    obtain ⟨lost, hlost⟩ := List.exists_mem_of_ne_nil given hne
    have hlisted : lost ∈ session.router.filters :=
      mem_filters_of_abandoned (hsplit ▸ List.mem_append_left rest hlost)
    exact hiff.1 hunharmed.subscriptions lost hlost (hwhole.noted lost hlisted)

/-- A session ends while a handler listens to a filter: to subscribe the handler again takes it off, to
subscribe another one is harmless, and to end the subscription is not. If there is also a filter whose
handler is gone, the session may end between the two requests that it takes to end the subscription. -/
theorem refused_harmless_iff_ended :
    let opened := (connect { Settings.default with host := "hub" } .accept).2
    let served := ((opened.subscribe 1 "a" .atMostOnce).2.subscribe 2 "b" .atMostOnce).2.forget 2
    let swept := (served.leave 1 "a").2.sweep.1
    ∃ parting halfway, Parting.run [.ask, .event .failed] (.start served) = some parting ∧
      Parting.run [.ask, .event .failed] (.start swept) = some halfway ∧
      let ended := parting.session
      let lost := (halfway.session.giveUp "b").2
      ended.Reachable Parting.Move.Apart ∧
      ¬ended.Unharmed (ended.subscribe 1 "a" .atMostOnce).2 ∧
      ended.Unharmed (ended.subscribe 3 "a" .atMostOnce).2 ∧
      ¬ended.Unharmed (ended.unsubscribe 1 "a").2 ∧
      served.Unsubscribes 1 "a" (.error .requestRefused) lost ∧ ¬served.Unharmed lost := by
  intro opened served swept
  have hopened : connect { Settings.default with host := "hub" } .accept = (.ok (), opened) := rfl
  let first := (opened.subscribe 1 "a" .atMostOnce).2
  let second := (first.subscribe 2 "b" .atMostOnce).2
  have hfirst : first.Reachable Parting.Move.Apart :=
    .subscribed (.opened hopened) (subscribes_alone opened 1 "a" .atMostOnce)
  have hsecond : second.Reachable Parting.Move.Apart :=
    .subscribed hfirst (subscribes_alone first 2 "b" .atMostOnce)
  have hforget : Parting.run [.call (.forget 2)] (.start second) = some (.start served) := rfl
  have hserved : served.Reachable Parting.Move.Apart :=
    Reachable.run hsecond (by simp [Parting.Move.Apart]) hforget
  have hparts : (Parting.run [.ask, .event .failed] (.start served)).map (fun parting =>
      (parting.session.phase, parting.session.router.livePairs, parting.session.abandoned 1 "a")) =
      some (.ended, [("a", 1)], ["a", "b"]) := by decide +kernel
  obtain ⟨parting, hrun, hparts⟩ := Option.map_eq_some_iff.1 hparts
  obtain ⟨hended, hpairs, hlost⟩ := by simpa only [Prod.mk.injEq] using hparts
  have hparts : (Parting.run [.ask, .event .failed] (.start swept)).map (fun parting =>
      (parting.session.phase, parting.session.router, parting.session.subscriptions)) =
      some (.ended, swept.router, swept.subscriptions) := by decide +kernel
  obtain ⟨halfway, hrun', hparts⟩ := Option.map_eq_some_iff.1 hparts
  obtain ⟨hended', hrouter, hsubscriptions⟩ := by simpa only [Prod.mk.injEq] using hparts
  have hhalfway : served.Unsubscribes 1 "a" (.error .requestRefused) (halfway.session.giveUp "b").2 :=
    .swept (.refl served) rfl (.refused ⟨hrouter, hsubscriptions⟩ (by rw [giveUp_of_ended hended']))
  have hreach : parting.session.Reachable Parting.Move.Apart :=
    Reachable.run hserved (by simp [Parting.Move.Apart]) hrun
  obtain ⟨-, -, hagain, hleft⟩ := refused_harmless_iff hreach 1 "a" .atMostOnce
  obtain ⟨-, -, hother, -⟩ := refused_harmless_iff hreach 3 "a" .atMostOnce
  obtain ⟨-, -, -, hmidway⟩ := refused_harmless_iff hserved 1 "a" .atMostOnce
  have hrefused : ∀ handler, (parting.session.subscribe handler "a" .atMostOnce).1 ≠ .ok () :=
    fun _ => subscribe_fails_iff.2 (.inl hended)
  refine ⟨parting, halfway, hrun, hrun', hreach, fun h => ?_, ?_, ?_, hhalfway, ?_⟩
  · exact (hagain _ _ (subscribes_alone ..) (hrefused 1)).2.1 h (by rw [hpairs]; decide)
  · exact (hother _ _ (subscribes_alone ..) (hrefused 3)).2.2 (by rw [hpairs]; decide)
  · obtain ⟨given, -, -, -, -, -, hharmful⟩ := hleft _ _ (unsubscribes_alone ..)
      (unsubscribe_fails_iff.2 ⟨hended, by rw [hlost]; decide⟩)
    exact hharmful hreach
  · obtain ⟨given, -, -, -, -, -, hharmful⟩ := hmidway _ _ hhalfway nofun
    exact hharmful hserved

/-- After its end a session refuses both to subscribe a handler again and to end its subscription, and
each time the handler is taken off. -/
theorem refusal_harmful :
    let opened := (connect { Settings.default with host := "hub" } .accept).2
    let ended := (opened.subscribe 1 "a" .atMostOnce).2.flush.close.2
    let again := ended.subscribe 1 "a" .atMostOnce
    let left := ended.unsubscribe 1 "a"
    ended.router.livePairs = [("a", 1)] ∧ ended.subscriptions = [("a", .atMostOnce)] ∧
    again.1 = .error .requestRefused ∧ again.2.router.livePairs = [] ∧
    left.1 = .error .requestRefused ∧ left.2.router.livePairs = [] ∧ left.2.subscriptions = [] := by
  decide +kernel

end Session

end CoverControl.Mqtt
