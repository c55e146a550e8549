import CoverControl.Proofs.Mqtt.Requests

/-!
# The books of a session

A session keeps three tables of filters: those its router has handlers for, those it restores on a
new connection, and, far away, those the server knows. `InStep` says that the three agree while
nothing is under way. Every act keeps it so: what a subscription adds and what the end of one takes
out goes through all three, stale filters of other handlers included, and a new connection, on which
the server knows nothing, is told the whole table. `Kept` is what remains of it without a
connection.
-/

namespace CoverControl.Mqtt.Session

/-- What can happen to a connected session, each act over before the next one starts. -/
inductive Act where
  | subscribe (handler : Handler) (filter : String) (qos : Qos)
  | unsubscribe (handler : Handler) (filter : String)
  | forget (handler : Handler)
  /-- The connection is lost, after a goodbye or without one. Whatever comes of the attempts to
  connect again, a last one succeeds. -/
  | relink (goodbye : Bool) (attempts : List Greeting)

/-- The session after an act, all requests of which are sent. -/
def perform (session : Session) : Act → Session
  | .subscribe handler filter qos => (session.subscribe handler filter qos).2.flush
  | .unsubscribe handler filter => (session.unsubscribe handler filter).2.flush
  | .forget handler => (session.forget handler).flush
  | .relink goodbye attempts =>
    let lost := if goodbye then session.kick else session.lose
    ((attempts.foldl (fun session greeting => session.reconnect greeting) lost).reconnect
      .accept).flush

def performAll (session : Session) (acts : List Act) : Session := acts.foldl perform session

/-- Whether the server gets what an act requests: no filter is too large for a packet. -/
def Act.fits : Act → Bool
  | .subscribe _ filter qos => (Packet.subscribe filter qos).fits
  | _ => true

/-- The books of a session that runs and has no request waiting. -/
structure Kept (session : Session) : Prop where
  phase : session.phase = .running
  closing : session.closing = false
  opening : session.settings.opening.fits = true
  waiting : session.waiting = []
  unique : session.router.filters.Nodup
  once : (session.subscriptions.map (·.1)).Nodup
  keys : ∀ filter, filter ∈ session.subscriptions.map (·.1) ↔ filter ∈ session.router.filters
  /-- The server can be asked for every filter. -/
  sound : ∀ filter ∈ session.router.filters, ∀ qos,
    (Packet.subscribe filter qos).isSendable = true ∧ (Packet.subscribe filter qos).fits = true

/-- The books agree with those of the server. -/
structure InStep (session : Session) : Prop extends Kept session where
  linked : session.linked = true
  served : ∀ filter, session.subscriptions.lookup filter = serverTable session.sent filter

variable {session : Session} {handler : Handler} {filter : String} {qos : Qos}

theorem Kept.running (h : session.Kept) : session.phase ≠ .ended := by
  rw [h.phase]; decide

theorem flush_of_idle (hlinked : session.linked = true) (hidle : session.waiting = []) :
    session.flush = session := by
  rw [flush_eq hlinked (by simp [hidle]), hidle, List.append_nil, ← hidle]

/-! ### Subscriptions -/

theorem InStep.subscribe (h : session.InStep) (hfits : (Packet.subscribe filter qos).fits = true) :
    (session.subscribe handler filter qos).2.flush.InStep := by
  by_cases hsend : (Packet.subscribe filter qos).isSendable = true
  · simp only [Session.subscribe, enroll_of_sendable h.running hsend, note, putQos_eq]
    rw [flush_eq (by exact h.linked) (by simp [h.waiting, hfits])]
    refine ⟨⟨h.phase, h.closing, h.opening, rfl, Router.nodup_register h.unique,
      Table.nodup_put h.once, fun f => ?_, fun f hf q => ?_⟩, h.linked, fun f => ?_⟩
    · rw [Table.mem_keys_put, Router.mem_filters_register, h.keys]
    · rcases Router.mem_filters_register.1 hf with rfl | hf
      · exact ⟨hsend, hfits⟩
      · exact h.sound f hf q
    · simp only [h.waiting, List.nil_append]
      rw [Table.lookup_put, serverTable_subscribe, h.served]
  · -- a refused filter is none of the filters kept, so nothing has to be undone
    have hrefused := Bool.eq_false_iff.2 hsend
    have hnew : filter ∉ session.router.filters := fun hf => hsend (h.sound filter hf qos).1
    simp only [Session.subscribe, enroll_of_not_sendable hrefused hnew]
    rw [flush_of_idle h.linked h.waiting]; exact h

theorem InStep.unsubscribe (h : session.InStep) :
    (session.unsubscribe handler filter).2.flush.InStep := by
  have hfits : ∀ f ∈ session.abandoned handler filter, (Packet.unsubscribe f).fits = true :=
    fun f hf => Packet.fits_unsubscribe (h.sound f (mem_filters_of_abandoned hf) .atMostOnce).2
  have hkeys : ∀ f, f ∈ (session.router.unregister filter handler).1.cleanup.1.filters ↔
      f ∈ session.router.filters ∧ f ∉ session.abandoned handler filter :=
    fun f => mem_filters_after_unsubscribe h.unique
  simp only [unsubscribe_eq h.running, released]
  rw [flush_eq (by exact h.linked) (by simpa [h.waiting] using hfits)]
  refine ⟨⟨h.phase, h.closing, h.opening, rfl, Router.nodup_cleanup (Router.nodup_unregister h.unique),
    Table.nodup_filter _ h.once, fun f => ?_, fun f hf => ?_⟩, h.linked, fun f => ?_⟩
  · show f ∈ (session.subscriptions.filter _).map (·.1) ↔ _
    rw [Table.keys_filter fun f => !(session.abandoned handler filter).contains f, List.mem_filter,
      h.keys, hkeys]
    simp
  · exact h.sound f ((hkeys f).1 hf).1
  · simp only [h.waiting, List.nil_append]
    rw [Table.lookup_filter fun f => !(session.abandoned handler filter).contains f,
      serverTable_unsubscribe, h.served]
    by_cases hf : f ∈ session.abandoned handler filter <;> simp [hf]

/-- The books are kept whatever becomes of the connection. -/
theorem Kept.of_eq {session' : Session} (h : session.Kept) (hsettings : session'.settings = session.settings)
    (hrouter : session'.router.filters = session.router.filters)
    (htable : session'.subscriptions = session.subscriptions) (hphase : session'.phase = session.phase)
    (hclosing : session'.closing = session.closing) (hwaiting : session'.waiting = session.waiting) :
    session'.Kept := by
  refine ⟨?_, ?_, ?_, ?_, ?_, ?_, ?_, ?_⟩ <;>
    simp only [hsettings, hrouter, htable, hphase, hclosing, hwaiting]
  exacts [h.phase, h.closing, h.opening, h.waiting, h.unique, h.once, h.keys, h.sound]

theorem InStep.forget (h : session.InStep) : (session.forget handler).flush.InStep := by
  rw [flush_of_idle (by exact h.linked) (by exact h.waiting)]
  exact ⟨h.toKept.of_eq rfl rfl rfl rfl rfl rfl, h.linked, h.served⟩

/-! ### Connections -/

theorem Kept.endIfClosing_eq (h : session.Kept) : session.endIfClosing = session := by
  simp [endIfClosing, h.closing]

theorem Kept.failed (h : session.Kept) : (session.handle .failed).Kept := by
  have hopening : session.phase ≠ .opening := by rw [h.phase]; decide
  have hwaiting : (if session.linked then [] else session.waiting) = session.waiting := by
    rw [h.waiting]; split <;> rfl
  have hlost : Kept { session with
      connected := false, linked := false
      waiting := if session.linked then [] else session.waiting } :=
    h.of_eq rfl rfl rfl rfl rfl hwaiting
  simp only [handle, hopening, ↓reduceIte]
  rwa [hlost.endIfClosing_eq]

theorem Kept.unlinked_failed (h : session.Kept) : (session.handle .failed).linked = false := by
  have hopening : session.phase ≠ .opening := by rw [h.phase]; decide
  simp only [handle, hopening, ↓reduceIte, endIfClosing, h.closing, Bool.false_eq_true]

/-- A server that knows nothing is told all filters of the table. -/
theorem Kept.restored (h : session.Kept) (hlinked : session.linked = true)
    (hsent : serverTable session.sent = fun _ => none) : session.flush.restore.flush.InStep := by
  have hsound : ∀ entry ∈ session.subscriptions,
      (Packet.subscribe entry.1 entry.2).isSendable = true ∧
        (Packet.subscribe entry.1 entry.2).fits = true := fun entry hentry =>
    h.sound _ ((h.keys _).1 (List.mem_map.2 ⟨entry, hentry, rfl⟩)) _
  have hfits : ∀ packet ∈ session.waiting ++
      session.subscriptions.map (fun entry => Packet.subscribe entry.1 entry.2),
      packet.fits = true := by
    simp only [h.waiting, List.nil_append, List.mem_map]
    rintro _ ⟨entry, hentry, rfl⟩
    exact (hsound entry hentry).2
  rw [flush_of_idle hlinked h.waiting, restore_eq h.running fun entry he => (hsound entry he).1,
    flush_eq (by exact hlinked) hfits]
  refine ⟨h.of_eq rfl rfl rfl rfl rfl h.waiting.symm, hlinked, fun filter => ?_⟩
  simp only [h.waiting, List.nil_append]
  rw [serverTable_restore _ h.once, hsent, Option.or_none]

theorem Kept.welcome (h : session.Kept) (hsent : serverTable session.sent = fun _ => none) :
    session.welcome.InStep := by
  have hopening : session.phase ≠ .opening := by rw [h.phase]; decide
  have hgreeted : session.handle .accepted = { session with connected := true } := by
    simp only [handle, hopening, ↓reduceIte]
  simp only [Session.welcome, hgreeted]
  split
  · -- a goodbye from the last connection changes only how the session shows itself
    have hkept : Kept { session with connected := false, goodbye := false } :=
      h.of_eq rfl rfl rfl rfl rfl rfl
    have hdismissed : handle .dismissed { session with connected := true, goodbye := false } =
        { session with connected := false, goodbye := false } := hkept.endIfClosing_eq
    simp only [hdismissed]
    rw [if_neg (by exact h.running)]
    exact Kept.restored (h.of_eq rfl rfl rfl rfl rfl rfl) rfl hsent
  · rw [if_neg (by exact h.running)]
    exact Kept.restored (h.of_eq rfl rfl rfl rfl rfl rfl) rfl hsent

/-- A lost connection: the books are kept, whatever the server knows. -/
structure Lost (session : Session) : Prop extends Kept session where
  unlinked : session.linked = false

theorem Kept.lost (h : session.Kept) : (session.handle .failed).Lost := ⟨h.failed, h.unlinked_failed⟩

theorem InStep.lose (h : session.InStep) : session.lose.Lost := by
  have hkept : Kept { session with served := false } := h.toKept.of_eq rfl rfl rfl rfl rfl rfl
  rw [Session.lose, if_pos h.linked]; exact hkept.lost

theorem InStep.kick (h : session.InStep) : session.kick.Lost :=
  InStep.lose ⟨h.toKept.of_eq rfl rfl rfl rfl rfl rfl, h.linked, h.served⟩

theorem Lost.reconnect_eq (h : session.Lost) (greeting : Greeting) :
    session.reconnect greeting = attempt greeting { session with served := false } := by
  rw [Session.reconnect, if_neg (by simp [h.unlinked])]
  exact if_neg h.running

theorem Lost.accepted (h : session.Lost) : (session.reconnect .accept).InStep := by
  have hkept : Kept { session with
      served := false, sent := session.sent ++ [session.settings.opening] } :=
    h.toKept.of_eq rfl rfl rfl rfl rfl rfl
  have hin := hkept.welcome (serverTable_connect _ _)
  rw [h.reconnect_eq, attempt, if_neg (by simp [h.opening]), if_pos rfl]
  exact ⟨hin.toKept.of_eq rfl rfl rfl rfl rfl rfl, hin.linked, hin.served⟩

theorem Lost.reconnect (h : session.Lost) (greeting : Greeting) :
    (session.reconnect greeting).Lost ∨ (session.reconnect greeting).InStep := by
  by_cases haccept : greeting = .accept
  · rw [haccept]; exact .inr h.accepted
  · left
    rw [h.reconnect_eq, attempt]
    split
    · exact Kept.lost (h.toKept.of_eq rfl rfl rfl rfl rfl rfl)
    · exact Kept.lost (h.toKept.of_eq rfl rfl rfl rfl rfl rfl)

theorem InStep.reconnect (h : session.InStep) (greeting : Greeting) :
    session.reconnect greeting = session := if_pos h.linked

theorem Lost.retry (h : session.Lost ∨ session.InStep) (attempts : List Greeting) :
    ((attempts.foldl (fun session greeting => session.reconnect greeting) session).reconnect
      .accept).InStep := by
  induction attempts generalizing session with
  | nil =>
    rcases h with h | h
    · exact h.accepted
    · rw [List.foldl_nil, h.reconnect]; exact h
  | cons greeting attempts ih =>
    refine ih ?_
    rcases h with h | h
    · exact h.reconnect greeting
    · right
      show (session.reconnect greeting).InStep
      rw [h.reconnect]; exact h

/-! ### Runs -/

theorem InStep.perform (h : session.InStep) {act : Act} (hfits : act.fits = true) :
    (session.perform act).InStep := by
  cases act with
  | subscribe handler filter qos => exact h.subscribe hfits
  | unsubscribe handler filter => exact h.unsubscribe
  | forget handler => exact h.forget
  | relink goodbye attempts =>
    have hlost : (if goodbye then session.kick else session.lose).Lost := by
      split
      · exact h.kick
      · exact h.lose
    have hin := Lost.retry (.inl hlost) attempts
    rw [Session.perform, flush_of_idle hin.linked hin.waiting]; exact hin

theorem InStep.performAll (h : session.InStep) {acts : List Act}
    (hfits : ∀ act ∈ acts, act.fits = true) : (session.performAll acts).InStep := by
  induction acts generalizing session with
  | nil => exact h
  | cons act acts ih =>
    exact ih (h.perform (hfits act (by simp))) fun a ha => hfits a (by simp [ha])

/-- A session before its first connection, once this is accepted. -/
theorem kept_opened {settings : Settings} (hopening : settings.opening.fits = true) :
    Kept { fresh settings with
      connected := true, phase := .running, sent := [settings.opening] } where
  phase := rfl
  closing := rfl
  opening := hopening
  waiting := rfl
  unique := List.nodup_nil
  once := List.nodup_nil
  keys _ := Iff.rfl
  sound _ hfilter := by simp [fresh, Router.empty, Router.filters] at hfilter

theorem inStep_of_connect {settings : Settings} {greeting : Greeting}
    (h : connect settings greeting = (.ok (), session)) : session.InStep := by
  have hended : ∀ sent, (handle .failed { fresh settings with sent := sent }).phase = .ended :=
    fun _ => rfl
  simp only [connect] at h
  split at h
  · cases h
  split at h
  · cases h
  rename_i hphase
  obtain rfl : (fresh settings).attempt greeting = session := congrArg Prod.snd h
  rw [attempt] at hphase ⊢
  split at hphase
  · exact absurd (hended []) hphase
  · rename_i hopen
    rw [if_neg hopen]
    split at hphase
    · rename_i haccept
      rw [if_pos haccept]
      have hfits : settings.opening.fits = true := by
        rw [not_or] at hopen; exact Bool.not_eq_false _ ▸ hopen.2
      have hkept : Kept { fresh settings with
          connected := true, phase := .running, linked := true, sent := [settings.opening] } :=
        (kept_opened hfits).of_eq rfl rfl rfl rfl rfl rfl
      have hin := hkept.restored rfl rfl
      exact ⟨hin.toKept.of_eq rfl rfl rfl rfl rfl rfl, hin.linked, hin.served⟩
    · exact absurd (hended _) hphase

/-- The three tables of filters agree after every run of a session from its first connection: what
it restores is what the server knows, with the same quality of service, and its filters are those
of the router. -/
theorem subscriptions_agree {settings : Settings} {greeting : Greeting}
    (hconnect : connect settings greeting = (.ok (), session)) (acts : List Act)
    (hfits : ∀ act ∈ acts, act.fits = true) :
    let now := session.performAll acts
    (∀ filter, now.subscriptions.lookup filter = serverTable now.sent filter) ∧
    (now.subscriptions.map (·.1)).Perm now.router.filters ∧ now.router.filters.Nodup := by
  have h := (inStep_of_connect hconnect).performAll hfits
  exact ⟨h.served, (List.perm_ext_iff_of_nodup h.once h.unique).2 h.keys, h.unique⟩

/-- Two handlers share a filter, one of them goes and leaves another filter stale, which the other
gives up while it ends a subscription it never had; then the connection is lost. -/
theorem subscriptions_agree_shared :
    let settings : Settings := { Settings.default with host := "hub" }
    let session := (connect settings .accept).2
    let acts : List Act := [.subscribe 1 "a" .atMostOnce, .subscribe 2 "a" .exactlyOnce,
      .subscribe 1 "b/+" .atLeastOnce, .forget 1, .unsubscribe 2 "c", .relink true [.hangUp, .absent]]
    let now := session.performAll acts
    connect settings .accept = (.ok (), session) ∧ (∀ act ∈ acts, act.fits = true) ∧
    (∀ filter, now.subscriptions.lookup filter = serverTable now.sent filter) ∧
    (now.subscriptions.map (·.1)).Perm now.router.filters ∧ now.router.filters.Nodup := by
  have hconnect : connect { Settings.default with host := "hub" } .accept =
      (.ok (), (connect { Settings.default with host := "hub" } .accept).2) := rfl
  intro settings session acts now
  have hfits : ∀ act ∈ acts, act.fits = true := by decide
  exact ⟨hconnect, hfits, subscriptions_agree hconnect acts hfits⟩

end CoverControl.Mqtt.Session
