import CoverControl.Proofs.Mqtt.Server
import CoverControl.Proofs.Router
import CoverControl.Mqtt.Connection
import Mathlib.Data.List.TakeDrop
import Mathlib.Data.List.TakeWhile

/-!
# What the operations of a session request

Each operation on a session that has not ended comes down to a change of its router and its table
and to the packets it queues: `Session.released` is the part that all ways of giving filters up have
in common. A queue of packets that are small enough is sent as a whole.
-/

namespace CoverControl.Mqtt.Session
variable {session : Session} {handler : Handler} {filter : String} {qos : Qos}

/-- The session after filters were given up. -/
def released (session : Session) (filters : List String) : Session :=
  { session with
    subscriptions := session.subscriptions.filter fun entry => !filters.contains entry.1
    waiting := session.waiting ++ filters.map .unsubscribe }

theorem released_released (filters later : List String) :
    (session.released filters).released later = session.released (filters ++ later) := by
  simp [released, List.filter_filter, Bool.and_comm]

@[simp] theorem released_nil : session.released [] = session := by
  have hkeep : (session.subscriptions.filter fun entry => !([] : List String).contains entry.1) =
      session.subscriptions := List.filter_eq_self.2 fun _ _ => rfl
  simp only [released, hkeep, List.map_nil, List.append_nil]

theorem request_of_sendable {packet : Packet} (hphase : session.phase ≠ .ended)
    (hsend : packet.isSendable = true) :
    session.request packet = some { session with waiting := session.waiting ++ [packet] } := by
  simp [request, hphase, hsend]

theorem request_of_not_sendable {packet : Packet} (hsend : packet.isSendable = false) :
    session.request packet = none := by
  simp [request, hsend]

/-! ### Subscribing -/

theorem enroll_of_sendable (hphase : session.phase ≠ .ended)
    (hsend : (Packet.subscribe filter qos).isSendable = true) :
    session.enroll handler filter qos = (.ok (),
      { session with
        router := (session.router.register filter handler).1
        waiting := session.waiting ++ [.subscribe filter qos] }) := by
  simp only [enroll]
  rw [request_of_sendable (by exact hphase) hsend]

/-- A subscription to a new filter that is refused leaves no trace. -/
theorem enroll_of_not_sendable (hsend : (Packet.subscribe filter qos).isSendable = false)
    (hnew : filter ∉ session.router.filters) :
    session.enroll handler filter qos = (.error .requestRefused, session) := by
  simp only [enroll]
  rw [request_of_not_sendable hsend]
  simp only [Router.unregister_register hnew]

/-! ### Giving up -/

theorem giveUp_eq (hphase : session.phase ≠ .ended) :
    session.giveUp filter = (.ok (), session.released [filter]) := by
  simp only [giveUp]
  rw [request_of_sendable (by exact hphase) rfl]
  have hone : ∀ f : String, (!([filter].contains f)) = (f != filter) := fun f => by
    rw [Bool.eq_iff_iff]; simp
  simp only [released, hone, List.map_cons, List.map_nil]

theorem giveUpAll_eq (filters : List String) (hphase : session.phase ≠ .ended) :
    giveUpAll filters session = (.ok (), session.released filters) := by
  induction filters generalizing session with
  | nil => simp [giveUpAll]
  | cons f filters ih =>
    simp only [giveUpAll, giveUp_eq hphase]
    rw [ih (by exact hphase), released_released]; rfl

theorem leave_eq (hphase : session.phase ≠ .ended) :
    session.leave handler filter = (.ok (),
      { session with router := (session.router.unregister filter handler).1 }.released
        (if (session.router.unregister filter handler).2 then [filter] else [])) := by
  simp only [leave]
  split
  · rw [giveUp_eq (by exact hphase)]
  · rw [released_nil]

/-- The filters that ending a subscription gives up: its own if nobody else listens, and those whose
handlers are gone. -/
def abandoned (session : Session) (handler : Handler) (filter : String) : List String :=
  (if (session.router.unregister filter handler).2 then [filter] else []) ++
    (session.router.unregister filter handler).1.cleanup.2

theorem unsubscribe_eq (hphase : session.phase ≠ .ended) :
    session.unsubscribe handler filter = (.ok (),
      { session with
        router := (session.router.unregister filter handler).1.cleanup.1 }.released
        (session.abandoned handler filter)) := by
  simp only [unsubscribe, leave_eq hphase, sweep]
  rw [giveUpAll_eq _ (by exact hphase), abandoned, ← released_released]; rfl

theorem mem_filters_of_abandoned {other : String} (h : other ∈ session.abandoned handler filter) :
    other ∈ session.router.filters := by
  rcases List.mem_append.1 h with h | h
  · split at h
    · rw [List.mem_singleton.1 h]; exact Router.mem_filters_of_last ‹_›
    · simp at h
  · exact (Router.mem_filters_unregister.1 (Router.mem_filters_of_stale h)).1

/-- Ending a subscription keeps the filters that it does not give up. -/
theorem mem_filters_after_unsubscribe {other : String} (h : session.router.filters.Nodup) :
    other ∈ (session.router.unregister filter handler).1.cleanup.1.filters ↔
      other ∈ session.router.filters ∧ other ∉ session.abandoned handler filter := by
  rw [Router.mem_filters_cleanup (Router.nodup_unregister h), Router.mem_filters_unregister,
    abandoned, List.mem_append, not_or, and_assoc]
  refine and_congr_right fun _ => and_congr_left fun _ => ?_
  split <;> simp [*]

/-! ### Sending -/

theorem flush_eq (hlinked : session.linked = true)
    (hfits : ∀ packet ∈ session.waiting, packet.fits = true) :
    session.flush =
      { session with waiting := [], sent := session.sent ++ session.waiting } := by
  have htake : session.waiting.takeWhile Packet.fits = session.waiting :=
    List.takeWhile_eq_self_iff.2 hfits
  have hdrop : session.waiting.dropWhile Packet.fits = [] := List.dropWhile_eq_nil_iff.2 hfits
  simp [flush, hlinked, List.span_eq_takeWhile_dropWhile, htake, hdrop]

theorem restore_eq (hphase : session.phase ≠ .ended)
    (hsend : ∀ entry ∈ session.subscriptions,
      (Packet.subscribe entry.1 entry.2).isSendable = true) :
    session.restore =
      { session with
        waiting := session.waiting ++
          session.subscriptions.map fun entry => .subscribe entry.1 entry.2 } := by
  have hfold : ∀ (table : List (String × Qos)) (s : Session), s.phase ≠ .ended →
      (∀ entry ∈ table, (Packet.subscribe entry.1 entry.2).isSendable = true) →
      table.foldl (fun s entry => (s.request (.subscribe entry.1 entry.2)).getD s) s =
        { s with waiting := s.waiting ++ table.map fun entry => .subscribe entry.1 entry.2 } := by
    intro table
    induction table with
    | nil => intro s _ _; simp
    | cons entry table ih =>
      intro s hs hall
      rw [List.foldl_cons, request_of_sendable hs (hall entry (by simp)), Option.getD_some,
        ih _ (by exact hs) fun e he => hall e (by simp [he])]
      simp
  exact hfold session.subscriptions session hphase hsend

end CoverControl.Mqtt.Session
