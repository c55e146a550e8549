import CoverControl.Mqtt.Connection
import Mathlib.Data.List.Induction

/-!
# Sessions that were asked to end

To disconnect takes three steps: it is announced that the session is to end, the request is queued,
and the session shows itself as not connected. Other calls and events may come in between. An event
that ends the connection ends the session once the end is announced, but an acceptance is taken up
all the same. So it depends on the client whether a session stays disconnected (`disconnect_undone_iff`):
with a connection no acceptance can come (`Sealed`), but without one the next attempt may succeed.
-/

namespace CoverControl.Mqtt

namespace Session
variable {session later latest : Session}

/-- From `session` to `later` nothing changed that tells how far the session is. -/
structure Alike (session later : Session) : Prop where
  connected : later.connected = session.connected
  closing : later.closing = session.closing
  phase : later.phase = session.phase
  linked : later.linked = session.linked

theorem Alike.refl (session : Session) : session.Alike session := ⟨rfl, rfl, rfl, rfl⟩

theorem Alike.trans (h₁ : session.Alike later) (h₂ : later.Alike latest) : session.Alike latest :=
  ⟨h₂.connected.trans h₁.connected, h₂.closing.trans h₁.closing, h₂.phase.trans h₁.phase,
    h₂.linked.trans h₁.linked⟩

theorem request_alike {packet : Packet} (h : session.request packet = some later) :
    session.Alike later := by
  unfold request at h
  split at h
  · cases h
  · cases h; exact ⟨rfl, rfl, rfl, rfl⟩

theorem giveUp_alike (filter : String) (session : Session) :
    session.Alike (session.giveUp filter).2 := by
  unfold giveUp
  dsimp only
  split
  · exact ⟨rfl, rfl, rfl, rfl⟩
  · rename_i hrequest
    refine Alike.trans ?_ (request_alike hrequest)
    exact ⟨rfl, rfl, rfl, rfl⟩

/-! ### Events -/

theorem closing_handle (event : Event) (session : Session) :
    (session.handle event).closing = session.closing := by
  cases event with
  | accepted =>
    simp only [handle]
    split <;> rfl
  | acknowledged => rfl
  | received topic payload => rfl
  | dismissed =>
    simp only [handle, endIfClosing]
    split <;> rfl
  | failed =>
    simp only [handle, endIfClosing]
    split
    · rfl
    · split <;> rfl

theorem connected_handle_accepted (session : Session) :
    (session.handle .accepted).connected = true := by
  simp only [handle]
  split <;> rfl

theorem connected_of_broken {event : Event} (hevent : event = .failed ∨ event = .dismissed)
    (session : Session) : (session.handle event).connected = false := by
  rcases hevent with rfl | rfl
  · simp only [handle, endIfClosing]
    split
    · rfl
    · split <;> rfl
  · simp only [handle, endIfClosing]
    split <;> rfl

/-- A session that is to end does so when its connection ends. -/
theorem ended_of_closing {event : Event} (hevent : event = .failed ∨ event = .dismissed)
    (h : session.closing = true) : (session.handle event).phase = .ended := by
  rcases hevent with rfl | rfl
  · by_cases hphase : session.phase = .opening
    · simp [handle, hphase]
    · simp [handle, hphase, endIfClosing, h]
  · simp [handle, endIfClosing, h]

end Session

/-- A session with the calls that are about to disconnect it. -/
structure Parting where
  session : Session
  /-- How many have announced the end and wait for their request to be queued. -/
  asked : Nat
  /-- How many have queued their request. -/
  queued : Nat

namespace Parting

def start (session : Session) : Parting := ⟨session, 0, 0⟩

/-- A step of another call, which waits after it. -/
inductive Call where
  | publish (message : Message)
  | enroll (handler : Handler) (filter : String) (qos : Qos)
  | note (filter : String) (qos : Qos)
  | leave (handler : Handler) (filter : String)
  | sweep
  | giveUp (filter : String)
  | forget (handler : Handler)
  /-- A subscription is restored on a new connection. -/
  | restore (filter : String) (qos : Qos)

/-- Takes a step, whether its request is refused or not. -/
def Call.perform (session : Session) : Call → Session
  | publish message => (session.publish message).2
  | enroll handler filter qos => (session.enroll handler filter qos).2
  | note filter qos => session.note filter qos
  | leave handler filter => (session.leave handler filter).2
  | sweep => session.sweep.1
  | giveUp filter => (session.giveUp filter).2
  | forget handler => session.forget handler
  | restore filter qos => (session.request (.subscribe filter qos)).getD session

inductive Move where
  | call (call : Call)
  /-- A call announces that the session is to end. -/
  | ask
  /-- Its request is queued, or refused and the call with it. -/
  | queue
  /-- Its request was queued, and the call succeeds. -/
  | finish
  /-- The first packet that waits is sent. -/
  | send
  | event (event : Event)

/-- Makes a move, if it is possible. After its end a session handles no events, and a connection is
not accepted while there is one. -/
def step (parting : Parting) : Move → Option Parting
  | .call call => some { parting with session := call.perform parting.session }
  | .ask => some { parting with
      session := { parting.session with closing := true }, asked := parting.asked + 1 }
  | .queue =>
    if parting.asked = 0 then none
    else match parting.session.request .disconnect with
      | none => some { parting with asked := parting.asked - 1 }
      | some session => some ⟨session, parting.asked - 1, parting.queued + 1⟩
  | .finish =>
    if parting.queued = 0 then none
    else some { parting with
      session := { parting.session with connected := false }, queued := parting.queued - 1 }
  | .send =>
    match parting.session.linked, parting.session.waiting with
    | true, packet :: waiting => some { parting with
        session := { parting.session with
          waiting := waiting, sent := parting.session.sent ++ [packet] } }
    | _, _ => none
  | .event event =>
    if parting.session.phase = .ended then none
    else match event with
      | .accepted =>
        if parting.session.linked then none
        else some { parting with session := { parting.session.handle .accepted with linked := true } }
      | event => some { parting with session := parting.session.handle event }

def run (moves : List Move) (parting : Parting) : Option Parting := moves.foldlM step parting

variable {parting later latest : Parting} {move : Move} {moves : List Move} {session : Session}

theorem run_cons : run (move :: moves) parting = some latest ↔
    ∃ later, parting.step move = some later ∧ run moves later = some latest := by
  simp [run, List.foldlM_cons, Option.bind_eq_some_iff]

theorem run_append {before : List Move} : run (before ++ moves) parting = some latest ↔
    ∃ later, run before parting = some later ∧ run moves later = some latest := by
  simp [run, List.foldlM_append, Option.bind_eq_some_iff]

/-- Disconnecting without anything in between. -/
theorem disconnect_alone {session' : Session} (h : session.disconnect = (.ok (), session')) :
    run [.ask, .queue, .finish] (.start session) = some (.start session') := by
  simp only [Session.disconnect] at h
  split at h
  · cases h
  · rename_i hrequest
    cases h
    simp [run, step, start, hrequest]

/-! ### What a move does -/

theorem Call.perform_alike (call : Call) (session : Session) :
    session.Alike (call.perform session) := by
  cases call with
  | publish message =>
    simp only [perform, Session.publish]
    split
    · exact .refl session
    · rename_i hrequest
      exact Session.request_alike hrequest
  | enroll handler filter qos =>
    simp only [perform, Session.enroll]
    split
    · exact ⟨rfl, rfl, rfl, rfl⟩
    · rename_i hrequest
      refine Session.Alike.trans ?_ (Session.request_alike hrequest)
      exact ⟨rfl, rfl, rfl, rfl⟩
  | note filter qos => exact ⟨rfl, rfl, rfl, rfl⟩
  | leave handler filter =>
    simp only [perform, Session.leave]
    split
    · refine Session.Alike.trans ?_ (Session.giveUp_alike filter _)
      exact ⟨rfl, rfl, rfl, rfl⟩
    · exact ⟨rfl, rfl, rfl, rfl⟩
  | sweep => exact ⟨rfl, rfl, rfl, rfl⟩
  | giveUp filter => exact Session.giveUp_alike filter session
  | forget handler => exact ⟨rfl, rfl, rfl, rfl⟩
  | restore filter qos =>
    simp only [perform]
    cases hrequest : session.request (.subscribe filter qos) with
    | none => exact .refl session
    | some later => exact Session.request_alike hrequest

/-- The moves that may change how far the session is. -/
def Move.Matters : Move → Prop
  | ask | finish | event .accepted | event .dismissed | event .failed => True
  | _ => False

/-- What a move comes to. -/
inductive Effect (parting later : Parting) : Move → Prop where
  | none {move : Move} (hmove : ¬move.Matters) (halike : parting.session.Alike later.session)
      (hpending : later.asked + later.queued ≤ parting.asked + parting.queued) :
      Effect parting later move
  | announced (h : later = { parting with
      session := { parting.session with closing := true }, asked := parting.asked + 1 }) :
      Effect parting later .ask
  | parted (hqueued : 0 < parting.queued) (h : later = { parting with
      session := { parting.session with connected := false }, queued := parting.queued - 1 }) :
      Effect parting later .finish
  | connected (hphase : parting.session.phase ≠ .ended) (hlinked : parting.session.linked = false)
      (h : later = { parting with
        session := { parting.session.handle .accepted with linked := true } }) :
      Effect parting later (.event .accepted)
  | broken {event : Event} (hevent : event = .failed ∨ event = .dismissed)
      (h : later = { parting with session := parting.session.handle event }) :
      Effect parting later (.event event)

theorem effect_of_step (h : parting.step move = some later) : Effect parting later move := by
  cases move with
  | call call =>
    cases h
    exact .none id (call.perform_alike _) (Nat.le_refl _)
  | ask => cases h; exact .announced rfl
  | queue =>
    simp only [step] at h
    split at h
    · cases h
    split at h
    · cases h
      refine .none id (.refl _) ?_
      dsimp only; omega
    · rename_i hrequest
      cases h
      refine .none id (Session.request_alike hrequest) ?_
      dsimp only; omega
  | finish =>
    simp only [step] at h
    split at h
    · cases h
    · cases h; exact .parted (by omega) rfl
  | send =>
    simp only [step] at h
    split at h
    · cases h
      exact .none id ⟨rfl, rfl, rfl, rfl⟩ (Nat.le_refl _)
    · cases h
  | event event =>
    simp only [step] at h
    split at h
    · cases h
    rename_i hphase
    cases event with
    | accepted =>
      dsimp only at h
      split at h
      · cases h
      · rename_i hlinked
        cases h; exact .connected hphase (by simpa using hlinked) rfl
    | acknowledged =>
      cases h
      exact .none id (.refl _) (Nat.le_refl _)
    | received topic payload =>
      cases h
      exact .none id (.refl _) (Nat.le_refl _)
    | dismissed => cases h; exact .broken (.inr rfl) rfl
    | failed => cases h; exact .broken (.inl rfl) rfl

theorem Effect.closing (heffect : Effect parting later move) (h : parting.session.closing = true) :
    later.session.closing = true := by
  cases heffect with
  | none _ halike _ => rw [halike.closing]; exact h
  | announced hlater => rw [hlater]
  | parted _ hlater => rw [hlater]; exact h
  | connected _ _ hlater => rw [hlater]; exact (Session.closing_handle _ _).trans h
  | broken _ hlater => rw [hlater]; exact (Session.closing_handle _ _).trans h

/-! ### Runs -/

/-- A call that is about to disconnect the session has announced the end. -/
def Announced (parting : Parting) : Prop :=
  0 < parting.asked + parting.queued → parting.session.closing = true

theorem announced_start (session : Session) : (start session).Announced := by
  intro h
  simp [start] at h

theorem Effect.announced_later (heffect : Effect parting later move) (h : parting.Announced) :
    later.Announced := by
  intro hpending
  by_cases hbefore : 0 < parting.asked + parting.queued
  · exact heffect.closing (h hbefore)
  · -- only the announcement makes a call pending
    cases heffect with
    | none _ _ hle => omega
    | announced hlater => rw [hlater]
    | parted hqueued _ => omega
    | connected _ _ hlater => rw [hlater] at hpending; exact absurd hpending hbefore
    | broken _ hlater => rw [hlater] at hpending; exact absurd hpending hbefore

theorem announced_run (hrun : run moves parting = some later) (h : parting.Announced) :
    later.Announced := by
  induction moves generalizing parting with
  | nil => cases hrun; exact h
  | cons move moves ih =>
    obtain ⟨mid, hstep, hrest⟩ := run_cons.1 hrun
    exact ih hrest ((effect_of_step hstep).announced_later h)

/-- The session is to end, and cannot get another connection before that. -/
structure Sealed (parting : Parting) : Prop where
  closing : parting.session.closing = true
  shut : parting.session.phase = .ended ∨ parting.session.linked = true

theorem Effect.sealed (heffect : Effect parting later move) (h : parting.Sealed) :
    move ≠ .event .accepted ∧ later.Sealed := by
  have hclosing : later.session.closing = true := heffect.closing h.closing
  cases heffect with
  | none hmove halike _ =>
    refine ⟨?_, hclosing, ?_⟩
    · rintro rfl; exact hmove trivial
    · rw [halike.phase, halike.linked]; exact h.shut
  | announced hlater => refine ⟨nofun, hclosing, ?_⟩; rw [hlater]; exact h.shut
  | parted _ hlater => refine ⟨nofun, hclosing, ?_⟩; rw [hlater]; exact h.shut
  | connected hphase hlinked _ =>
    rcases h.shut with hended | hlink
    · exact absurd hended hphase
    · rw [hlinked] at hlink; cases hlink
  | broken hevent hlater =>
    refine ⟨?_, hclosing, ?_⟩
    · rintro ⟨⟩; rcases hevent with h | h <;> cases h
    · rw [hlater]; exact .inl (Session.ended_of_closing hevent h.closing)

theorem sealed_run (hrun : run moves parting = some later) (h : parting.Sealed) : later.Sealed := by
  induction moves generalizing parting with
  | nil => cases hrun; exact h
  | cons move moves ih =>
    obtain ⟨mid, hstep, hrest⟩ := run_cons.1 hrun
    exact ih hrest ((effect_of_step hstep).sealed h).2

theorem Effect.not_connected (heffect : Effect parting later move) (hmove : move ≠ .event .accepted)
    (h : parting.session.connected = false) : later.session.connected = false := by
  cases heffect with
  | none _ halike _ => rw [halike.connected]; exact h
  | announced hlater => rw [hlater]; exact h
  | parted _ hlater => rw [hlater]
  | connected => exact absurd rfl hmove
  | broken hevent hlater => rw [hlater]; exact Session.connected_of_broken hevent _

/-- A sealed session stays disconnected. -/
theorem not_connected_of_sealed (hrun : run moves parting = some later) (hsealed : parting.Sealed)
    (h : parting.session.connected = false) : later.session.connected = false := by
  induction moves generalizing parting with
  | nil => cases hrun; exact h
  | cons move moves ih =>
    obtain ⟨mid, hstep, hrest⟩ := run_cons.1 hrun
    have heffect := effect_of_step hstep
    obtain ⟨hmove, hlater⟩ := heffect.sealed hsealed
    exact ih hrest hlater (heffect.not_connected hmove h)

/-- While no call disconnects it, a session that is to end is connected if it was or was accepted,
and if nothing broke its connection: that would have ended it for good. -/
theorem connected_run (hrun : run moves parting = some later)
    (hclosing : parting.session.closing = true) (hfinish : .finish ∉ moves) :
    later.session.connected = true ↔
      (parting.session.connected = true ∨ .event .accepted ∈ moves) ∧
        .event .failed ∉ moves ∧ .event .dismissed ∉ moves := by
  induction moves generalizing parting with
  | nil => cases hrun; simp
  | cons move moves ih =>
    obtain ⟨mid, hstep, hrest⟩ := run_cons.1 hrun
    have heffect := effect_of_step hstep
    have hrun' := ih hrest (heffect.closing hclosing) fun h => hfinish (List.mem_cons_of_mem _ h)
    simp only [List.mem_cons, not_or] at hfinish ⊢
    cases heffect with
    | none hmove halike _ =>
      have hne : ∀ matters : Move, matters.Matters → matters ≠ move := by
        rintro matters h rfl; exact hmove h
      rw [hrun', halike.connected]
      simp [hne (.event .accepted) trivial, hne (.event .failed) trivial,
        hne (.event .dismissed) trivial]
    | announced hmid => rw [hrun', hmid]; simp
    | parted => exact absurd rfl hfinish.1
    | connected _ _ hmid => rw [hrun', hmid]; simp [Session.connected_handle_accepted]
    | @broken event hevent hmid =>
      have hsealed : mid.Sealed := by
        refine ⟨?_, ?_⟩ <;> rw [hmid]
        · exact (Session.closing_handle _ _).trans hclosing
        · exact .inl (Session.ended_of_closing hevent hclosing)
      have hoff : mid.session.connected = false := by
        rw [hmid]; exact Session.connected_of_broken hevent _
      rw [not_connected_of_sealed hrest hsealed hoff]
      rcases hevent with rfl | rfl <;> simp

/-- How a session is when a call that disconnects it succeeds. -/
theorem parted_of_run {parted : Parting}
    (hrun : run (moves ++ [.finish]) (.start session) = some parted) :
    ∃ asked, run moves (.start session) = some asked ∧ asked.Effect parted .finish ∧
      parted.session.closing = true ∧ parted.session.connected = false := by
  obtain ⟨asked, hmoves, hfinish⟩ := run_append.1 hrun
  obtain ⟨_, hstep, ⟨⟩⟩ := run_cons.1 hfinish
  have heffect := effect_of_step hstep
  refine ⟨asked, hmoves, heffect, ?_⟩
  have hannounced : asked.Announced := announced_run hmoves (announced_start session)
  cases heffect with
  | none hmove => exact absurd trivial hmove
  | parted hqueued hparted =>
    have hclosing : asked.session.closing = true := hannounced (by omega)
    rw [hparted]; exact ⟨hclosing, rfl⟩

/-- A session that has a connection when its end is announced is sealed. -/
theorem sealed_of_linked {before between : List Move} {asking : Parting}
    (hrun : run (before ++ .ask :: between) parting = some later)
    (hbefore : run before parting = some asking) (hlinked : asking.session.linked = true) :
    later.Sealed := by
  obtain ⟨asking', hbefore', hbetween⟩ := run_append.1 hrun
  rw [hbefore] at hbefore'
  cases hbefore'
  obtain ⟨asked, hask, hbetween⟩ := run_cons.1 hbetween
  cases hask
  exact sealed_run hbetween ⟨rfl, .inr hlinked⟩

/-- A session is not connected when a call that disconnects it succeeds. Afterwards, up to the next
such call, it is connected exactly if it was accepted again and nothing broke its connection since.
That can happen exactly if it has not ended and the client has no connection when the call succeeds;
so it cannot if the client has one when the call begins. -/
theorem disconnect_undone_iff {moves : List Move} {parted : Parting}
    (hrun : run (moves ++ [.finish]) (.start session) = some parted) :
    parted.session.connected = false ∧
    (∀ after later, run after parted = some later → .finish ∉ after →
      (later.session.connected = true ↔ .event .accepted ∈ after ∧
        .event .failed ∉ after ∧ .event .dismissed ∉ after)) ∧
    ((∃ after later, run after parted = some later ∧ later.session.connected = true) ↔
      parted.session.phase ≠ .ended ∧ parted.session.linked = false) ∧
    ∀ before between asking, moves = before ++ .ask :: between →
      run before (.start session) = some asking → asking.session.linked = true →
      ∀ after later, run after parted = some later → later.session.connected = false := by
  obtain ⟨asked, hmoves, heffect, hclosing, hoff⟩ := parted_of_run hrun
  refine ⟨hoff, fun after later hafter hlast => ?_, ⟨?_, ?_⟩, ?_⟩
  · rw [connected_run hafter hclosing hlast, hoff]
    simp
  · rintro ⟨after, later, hafter, hon⟩
    have hopen : ¬parted.Sealed := by
      intro hsealed
      rw [not_connected_of_sealed hafter hsealed hoff] at hon
      cases hon
    refine ⟨fun hended => hopen ⟨hclosing, .inl hended⟩, ?_⟩
    cases hlinked : parted.session.linked with
    | false => rfl
    | true => exact absurd ⟨hclosing, .inr hlinked⟩ hopen
  · rintro ⟨hphase, hlinked⟩
    have haccepted : parted.step (.event .accepted) = some { parted with
        session := { parted.session.handle .accepted with linked := true } } := by
      simp [step, hphase, hlinked]
    refine ⟨[.event .accepted], _, run_cons.2 ⟨_, haccepted, rfl⟩, ?_⟩
    exact Session.connected_handle_accepted _
  · rintro before between asking rfl hbefore hlinked after later hafter
    have hsealed : asked.Sealed := sealed_of_linked hmoves hbefore hlinked
    exact not_connected_of_sealed hafter (heffect.sealed hsealed).2 hoff

/-- A session that is asked to end while its connection is lost may be accepted again; one that has a
connection then may not. -/
theorem disconnect_undone_iff_offline :
    let opened := (Session.connect { Settings.default with host := "hub" } .accept).2
    (∃ parted, run ([.event .failed, .ask, .queue] ++ [.finish]) (.start opened) = some parted ∧
      parted.session.connected = false ∧
      ∃ after later, run after parted = some later ∧ later.session.connected = true) ∧
    ∃ parted, run ([.ask, .queue] ++ [.finish]) (.start opened) = some parted ∧
      ∀ after later, run after parted = some later → later.session.connected = false := by
  intro opened
  have hlinked : opened.linked = true := by decide +kernel
  refine ⟨?_, ?_⟩
  · have hoffline : (run ([.event .failed, .ask, .queue] ++ [.finish]) (.start opened)).map
        (fun parted => (parted.session.phase, parted.session.linked)) = some (.running, false) := by
      decide +kernel
    obtain ⟨parted, hrun, hstage⟩ := Option.map_eq_some_iff.1 hoffline
    obtain ⟨hphase, hlinked⟩ := Prod.mk.inj hstage
    obtain ⟨hoff, -, hopen, -⟩ := disconnect_undone_iff hrun
    refine ⟨parted, hrun, hoff, hopen.2 ⟨?_, hlinked⟩⟩
    rw [hphase]; exact nofun
  · have honline : (run ([.ask, .queue] ++ [.finish]) (.start opened)).isSome = true := by
      decide +kernel
    obtain ⟨parted, hrun⟩ := Option.isSome_iff_exists.1 honline
    obtain ⟨-, -, -, hkept⟩ := disconnect_undone_iff hrun
    exact ⟨parted, hrun, hkept [] [.queue] (.start opened) rfl rfl hlinked⟩

/-- A connection is lost, the session is asked to end, and the next attempt to connect succeeds. -/
theorem disconnect_undone :
    let opened := Session.connect { Settings.default with host := "hub" } .accept
    let asked := opened.2.lose.disconnect
    let again := asked.2.reconnect .accept
    opened.1 = .ok () ∧ opened.2.connected = true ∧ asked.1 = .ok () ∧ asked.2.closing = true ∧
    asked.2.connected = false ∧ again.closing = true ∧ again.connected = true := by
  intro opened asked again
  decide +kernel

end Parting

end CoverControl.Mqtt
