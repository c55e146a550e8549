import CoverControl.Proofs.Mqtt.Requests
import Mathlib.Data.List.Induction
import Mathlib.Data.List.Perm.Basic

/-!
# Calls that overlap

Many handlers use one session at a time. A call runs on its own up to the point where its request is
queued; there it waits, and others may use the session before it goes on. `Crowd` is a session with
the calls that wait, and each move starts a call or lets one go on. The moves are made of the same
steps as the calls: one that nobody comes between does what the operation of the session does
(`subscribe_alone`, `unsubscribe_alone`).
-/

namespace CoverControl.Mqtt

/-- What a call that waits has still to do. -/
inductive Chore where
  /-- A subscription is noted. -/
  | note (filter : String) (qos : Qos)
  /-- Filters without handlers are looked for and given up. -/
  | sweep
  /-- The filters are given up, which were found without handlers. -/
  | giveUp (filters : List String)
deriving DecidableEq, Repr

/-- A session with the calls that wait. -/
structure Crowd where
  session : Session
  chores : List Chore

inductive Move where
  | subscribe (handler : Handler) (filter : String) (qos : Qos)
  | unsubscribe (handler : Handler) (filter : String)
  | forget (handler : Handler)
  /-- One of the calls that wait goes on. -/
  | resume (place : Nat)
deriving DecidableEq, Repr

namespace Crowd

/-- Gives up the first of some filters, and waits. -/
def giveUpNext (chores : List Chore) : List String → Session → Option Crowd
  | [], session => some ⟨session, chores⟩
  | filter :: filters, session =>
    match session.giveUp filter with
    | (.error _, _) => none
    | (.ok (), session) => some ⟨session, chores ++ [.giveUp filters]⟩

/-- Goes on with a call, up to the next point where it waits. -/
def goOn (chores : List Chore) (session : Session) : Chore → Option Crowd
  | .note filter qos => some ⟨session.note filter qos, chores⟩
  | .sweep =>
    let (session, stale) := session.sweep
    giveUpNext chores stale session
  | .giveUp filters => giveUpNext chores filters session

/-- Makes a move; none if a request is refused, or no call waits at the place. -/
def step (crowd : Crowd) : Move → Option Crowd
  | .subscribe handler filter qos =>
    match crowd.session.enroll handler filter qos with
    | (.error _, _) => none
    | (.ok (), session) => some ⟨session, crowd.chores ++ [.note filter qos]⟩
  | .unsubscribe handler filter =>
    match crowd.session.leave handler filter with
    | (.error _, _) => none
    | (.ok (), session) =>
      if (crowd.session.router.unregister filter handler).2 then
        some ⟨session, crowd.chores ++ [.sweep]⟩
      else goOn crowd.chores session .sweep
  | .forget handler => some { crowd with session := crowd.session.forget handler }
  | .resume place =>
    match crowd.chores[place]? with
    | none => none
    | some chore => goOn (crowd.chores.eraseIdx place) crowd.session chore

def run (moves : List Move) (crowd : Crowd) : Option Crowd := moves.foldlM step crowd

section
variable {crowd later : Crowd} {session session' : Session} {handler : Handler} {qos : Qos}
  {chores : List Chore} {filters : List String} {other : String}

/-! ### What a move does -/

theorem released_of_giveUp (h : session.giveUp other = (.ok (), session')) :
    session' = session.released [other] := by
  by_cases hphase : session.phase = .ended
  · simp [Session.giveUp, Session.request, hphase] at h
  · rw [Session.giveUp_eq hphase] at h
    exact (congrArg Prod.snd h).symm

theorem subscribe_eq (h : crowd.step (.subscribe handler other qos) = some later) :
    later = ⟨{ crowd.session with
        router := (crowd.session.router.register other handler).1
        waiting := crowd.session.waiting ++ [.subscribe other qos] },
      crowd.chores ++ [.note other qos]⟩ := by
  simp only [step] at h
  split at h
  · cases h
  rename_i session' henroll
  cases h
  by_cases hphase : crowd.session.phase = .ended
  · simp [Session.enroll, Session.request, hphase] at henroll
  by_cases hsend : (Packet.subscribe other qos).isSendable = true
  · rw [Session.enroll_of_sendable hphase hsend] at henroll
    cases henroll; rfl
  · simp [Session.enroll, Session.request, hsend] at henroll

theorem unsubscribe_cases (h : crowd.step (.unsubscribe handler other) = some later) :
    let left := crowd.session.router.unregister other handler
    let session : Session := { crowd.session with router := left.1 }
    (left.2 = true ∧ later = ⟨session.released [other], crowd.chores ++ [.sweep]⟩) ∨
    goOn crowd.chores session .sweep = some later := by
  intro left session
  simp only [step] at h
  split at h
  · cases h
  rename_i session' hleave
  simp only [Session.leave] at hleave
  by_cases hlast : left.2 = true
  · rw [if_pos hlast] at hleave h
    cases h
    rw [released_of_giveUp hleave]; exact .inl ⟨hlast, rfl⟩
  · rw [if_neg hlast] at hleave h
    cases hleave; exact .inr h

theorem resume_cases {place : Nat} (h : crowd.step (.resume place) = some later) :
    ∃ chore rest, (chore :: rest).Perm crowd.chores ∧ goOn rest crowd.session chore = some later := by
  simp only [step] at h
  split at h
  · cases h
  rename_i chore hplace
  obtain ⟨hlength, rfl⟩ := List.getElem?_eq_some_iff.1 hplace
  exact ⟨_, _, List.getElem_cons_eraseIdx_perm hlength, h⟩

theorem giveUpNext_cases (h : giveUpNext chores filters session = some later) :
    (filters = [] ∧ later = ⟨session, chores⟩) ∨
    ∃ first rest, filters = first :: rest ∧
      later = ⟨session.released [first], chores ++ [.giveUp rest]⟩ := by
  cases filters with
  | nil => cases h; exact .inl ⟨rfl, rfl⟩
  | cons first rest =>
    refine .inr ⟨first, rest, rfl, ?_⟩
    simp only [giveUpNext] at h
    split at h
    · cases h
    · rename_i session' hgive
      cases h
      rw [released_of_giveUp hgive]

/-! ### Runs -/

theorem run_concat {moves : List Move} {move : Move} :
    run (moves ++ [move]) crowd = some later ↔
      ∃ mid, run moves crowd = some mid ∧ mid.step move = some later := by
  simp [run, List.foldlM_append, Option.bind_eq_some_iff]

theorem nodup_giveUpNext (hunique : session.router.filters.Nodup)
    (h : giveUpNext chores filters session = some later) : later.session.router.filters.Nodup := by
  rcases giveUpNext_cases h with ⟨-, rfl⟩ | ⟨first, rest, -, rfl⟩
  · exact hunique
  · exact hunique

theorem nodup_goOn {chore : Chore} (hunique : session.router.filters.Nodup)
    (h : goOn chores session chore = some later) : later.session.router.filters.Nodup := by
  cases chore with
  | note other qos => cases h; exact hunique
  | sweep => exact nodup_giveUpNext (Router.nodup_cleanup hunique) h
  | giveUp filters => exact nodup_giveUpNext hunique h

theorem nodup_step {move : Move} (hunique : crowd.session.router.filters.Nodup)
    (h : crowd.step move = some later) : later.session.router.filters.Nodup := by
  cases move with
  | subscribe handler other qos => rw [subscribe_eq h]; exact Router.nodup_register hunique
  | unsubscribe handler other =>
    rcases unsubscribe_cases h with ⟨-, rfl⟩ | h
    · exact Router.nodup_unregister hunique
    · exact nodup_goOn (Router.nodup_unregister hunique) h
  | forget handler => cases h; exact hunique
  | resume place =>
    obtain ⟨chore, rest, -, hgo⟩ := resume_cases h
    exact nodup_goOn hunique hgo

theorem nodup_run {moves : List Move} (hunique : crowd.session.router.filters.Nodup)
    (h : run moves crowd = some later) : later.session.router.filters.Nodup := by
  induction moves using List.reverseRecOn generalizing later with
  | nil => cases h; exact hunique
  | append_singleton moves move ih =>
    obtain ⟨mid, hmid, hstep⟩ := run_concat.1 h
    exact nodup_step (ih hmid) hstep

end

theorem empty_of_connect {settings : Settings} {greeting : Greeting} {session : Session}
    (h : Session.connect settings greeting = (.ok (), session)) : session.router = .empty := by
  have hattempt : ((Session.fresh settings).attempt greeting).router = .empty := by
    simp only [Session.attempt]
    split
    · rfl
    split
    · rfl
    · rfl
  simp only [Session.connect] at h
  split at h
  · cases h
  split at h
  · cases h
  · cases h; exact hattempt

/-! ### Calls without interruption -/

section
variable {session session' : Session} {handler : Handler} {filter : String} {qos : Qos}

/-- A subscription that nobody comes between. -/
theorem subscribe_alone (h : session.subscribe handler filter qos = (.ok (), session')) :
    run [.subscribe handler filter qos, .resume 0] ⟨session, []⟩ = some ⟨session', []⟩ := by
  simp only [Session.subscribe] at h
  split at h
  · cases h
  rename_i enrolled henroll
  cases h
  simp only [run, List.foldlM_cons, step, henroll]
  rfl

theorem giveUpAll_alone {filters : List String}
    (h : Session.giveUpAll filters session = (.ok (), session')) :
    ∃ n crowd, giveUpNext [] filters session = some crowd ∧
      run (List.replicate n (.resume 0)) crowd = some ⟨session', []⟩ := by
  induction filters generalizing session with
  | nil => cases h; exact ⟨0, _, rfl, rfl⟩
  | cons first rest ih =>
    simp only [Session.giveUpAll] at h
    split at h
    · cases h
    rename_i given hgive
    obtain ⟨n, crowd, hnext, hrun⟩ := ih h
    refine ⟨n + 1, ⟨given, [.giveUp rest]⟩, ?_, ?_⟩
    · simp only [giveUpNext, hgive]; rfl
    · have hstep : step ⟨given, [.giveUp rest]⟩ (.resume 0) = some crowd := hnext
      rw [List.replicate_succ, run, List.foldlM_cons, hstep]; exact hrun

/-- The end of a subscription that nobody comes between. -/
theorem unsubscribe_alone (h : session.unsubscribe handler filter = (.ok (), session')) :
    ∃ n, run (.unsubscribe handler filter :: List.replicate n (.resume 0)) ⟨session, []⟩ =
      some ⟨session', []⟩ := by
  simp only [Session.unsubscribe] at h
  split at h
  · cases h
  rename_i left hleave
  obtain ⟨n, crowd, hnext, hrun⟩ := giveUpAll_alone h
  have hsweep : goOn [] left .sweep = some crowd := hnext
  by_cases hlast : (session.router.unregister filter handler).2 = true
  · refine ⟨n + 1, ?_⟩
    have hstep : step ⟨session, []⟩ (.unsubscribe handler filter) = some ⟨left, [.sweep]⟩ := by
      simp only [step, hleave, hlast]; rfl
    have hresume : step ⟨left, [.sweep]⟩ (.resume 0) = some crowd := hsweep
    rw [run, List.foldlM_cons, hstep, List.replicate_succ]
    show (step ⟨left, [.sweep]⟩ (.resume 0)).bind _ = _
    rw [hresume]; exact hrun
  · refine ⟨n, ?_⟩
    have hstep : step ⟨session, []⟩ (.unsubscribe handler filter) = some crowd := by
      simp only [step, hleave, if_neg hlast]; exact hsweep
    rw [run, List.foldlM_cons, hstep]; exact hrun

end

end Crowd

end CoverControl.Mqtt
