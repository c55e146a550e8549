import CoverControl.Proofs.Changes
import CoverControl.Proofs.Cover.Outcome
import Mathlib.Data.List.Perm.Basic

/-!
# Commands that overlap

A command has two steps: the transport takes its message, and what its order assumes is made true.
While a command waits for the transport others may go on, so of several commands under way the one
whose message was taken last need not be the last to assume its status. `Busy` is a cover with the
commands that are between their two steps, and each turn starts a command or finishes one; one that
nobody comes between is carried out as by `execute` (`execute_alone`). What the orders assume does
not depend on the state, so the status after a run of turns is that of the command that was finished
last (`Sound`).
-/

namespace CoverControl

/-- The status that a cover has at the end to which a command moves it. -/
inductive Command.LeadsTo : Command → Status → Prop where
  | opened : LeadsTo .openCover .opened
  | closed : LeadsTo .closeCover .closed

theorem Command.LeadsTo.unique {command command' : Command} {status : Status}
    (h : command.LeadsTo status) (h' : command'.LeadsTo status) : command = command' := by
  cases h <;> cases h' <;> rfl

/-- The order assumes a status, whatever the state. -/
def Order.Assumes (order : Order) (status : Status) : Prop :=
  ∃ change, order.assumed = some change ∧ ∀ state : State, (state.apply change).1.status = status

theorem Encoder.status_endChange (encoder : Encoder) (status : Status) (raw : Int64) (state : State) :
    (state.apply (encoder.endChange status raw)).1.status = status := by
  unfold endChange
  split <;> rfl

theorem Order.assumes_of_leadsTo {encoder : Encoder} {command : Command} {order : Order}
    {status : Status} (hoptimistic : encoder.isOptimistic = true) (hstatus : command.LeadsTo status)
    (h : encoder.encode command = .ok order) : order.Assumes status := by
  have htrusted : order.assumed.isSome = true := by
    rw [Encoder.isSome_assumed h]
    cases hstatus <;> exact hoptimistic
  obtain ⟨change, hassumed⟩ := Option.isSome_iff_exists.1 htrusted
  refine ⟨change, hassumed, fun state => ?_⟩
  cases hstatus <;> rw [Encoder.eq_of_moveToEnd h hassumed, Encoder.status_endChange]

namespace Cover
variable {σ : Type}

/-- A cover at work on several commands. -/
structure Busy (σ : Type) where
  run : Running σ
  /-- The commands between their two steps. -/
  waiting : List (Command × Order)
  /-- The commands whose messages the transport took, the first one first. -/
  sent : List Command
  /-- The commands that are over, in the order in which they ended. -/
  finished : List Command

inductive Turn where
  /-- A command is given, and the transport is asked to take its message. -/
  | start (command : Command)
  /-- One of the commands that wait goes on. -/
  | finish (place : Nat)

namespace Busy

def idle (run : Running σ) : Busy σ := ⟨run, [], [], []⟩

/-- Takes a turn. A command whose message is not taken is over; where no command waits nothing
happens. -/
def take (transport : Transport σ) (busy : Busy σ) : Turn → Busy σ
  | .start command =>
    match send transport command busy.run with
    | (.error _, run) => { busy with run := run }
    | (.ok order, run) => { busy with
        run := run
        waiting := busy.waiting ++ [(command, order)]
        sent := busy.sent ++ [command] }
  | .finish place =>
    match busy.waiting[place]? with
    | none => busy
    | some (command, order) => { busy with
        run := assume order busy.run
        waiting := busy.waiting.eraseIdx place
        finished := busy.finished ++ [command] }

def takeAll (transport : Transport σ) (turns : List Turn) (busy : Busy σ) : Busy σ :=
  turns.foldl (take transport) busy

section
variable {transport : Transport σ} {run : Running σ} {busy : Busy σ} {command : Command}

/-- A command that nobody comes between is carried out as by `execute`. -/
theorem execute_alone (transport : Transport σ) (command : Command) (run : Running σ) :
    ((idle run).takeAll transport [.start command, .finish 0]).run =
      (execute transport command run).2 := by
  unfold execute takeAll idle
  simp only [List.foldl, take]
  cases hsend : send transport command run with
  | mk answer later => cases answer <;> rfl

/-! ### What a turn does -/

theorem start_cases (transport : Transport σ) (busy : Busy σ) (command : Command) :
    (∃ later, busy.run.Still later ∧ busy.take transport (.start command) = { busy with run := later }) ∨
    ∃ order later, busy.run.Still later ∧ busy.run.cover.encoder.encode command = .ok order ∧
      busy.take transport (.start command) = { busy with
        run := later
        waiting := busy.waiting ++ [(command, order)]
        sent := busy.sent ++ [command] } := by
  have hstill : busy.run.Still (send transport command busy.run).2 := send_still _ _
  simp only [take]
  split <;> rename_i hsend <;> rw [hsend] at hstill
  · exact .inl ⟨_, hstill, rfl⟩
  · exact .inr ⟨_, _, hstill, encode_of_send hsend, rfl⟩

theorem finish_cases (transport : Transport σ) (busy : Busy σ) (place : Nat) :
    busy.take transport (.finish place) = busy ∨
    ∃ command order rest, ((command, order) :: rest).Perm busy.waiting ∧
      (place = 0 → (command, order) :: rest = busy.waiting) ∧
      busy.take transport (.finish place) = { busy with
        run := assume order busy.run
        waiting := rest
        finished := busy.finished ++ [command] } := by
  simp only [take]
  split
  · exact .inl rfl
  · rename_i command order hplace
    obtain ⟨hlength, hcall⟩ := List.getElem?_eq_some_iff.1 hplace
    refine .inr ⟨command, order, busy.waiting.eraseIdx place, ?_, ?_, rfl⟩
    · rw [← hcall]; exact List.getElem_cons_eraseIdx_perm hlength
    · rintro rfl
      rw [← hcall, List.getElem_zero, List.eraseIdx_zero, List.cons_head_tail]

theorem status_assume {order : Order} {status : Status} (h : order.Assumes status) :
    (assume order run).cover.state.status = status := by
  obtain ⟨change, hassumed, hstatus⟩ := h
  rw [assume_eq, hassumed]
  exact hstatus run.cover.state

theorem encoder_assume (order : Order) : (assume order run).cover.encoder = run.cover.encoder := by
  rw [assume_eq, Running.encoder_makeAll]

/-! ### What a run of turns keeps -/

/-- Every order that waits assumes the status that its command leads to, and the status is that of
the command that was finished last, or the one at the start. -/
structure Sound (start : Cover) (busy : Busy σ) : Prop where
  encoder : busy.run.cover.encoder = start.encoder
  waiting : ∀ call ∈ busy.waiting, ∃ status, call.1.LeadsTo status ∧ call.2.Assumes status
  sent : busy.sent.Perm (busy.finished ++ busy.waiting.map Prod.fst)
  unchanged : busy.finished = [] → busy.run.cover.state.status = start.state.status
  status : ∀ command, busy.finished.getLast? = some command →
    command.LeadsTo busy.run.cover.state.status

theorem sound_idle (run : Running σ) : (idle run).Sound run.cover :=
  ⟨rfl, nofun, .nil, fun _ => rfl, nofun⟩

theorem Sound.still {start : Cover} (h : busy.Sound start) {later : Running σ}
    (hstill : busy.run.Still later) : { busy with run := later }.Sound start := by
  refine ⟨?_, h.waiting, h.sent, ?_, ?_⟩
  · rw [hstill.cover]; exact h.encoder
  · rw [hstill.cover]; exact h.unchanged
  · rw [hstill.cover]; exact h.status

theorem Sound.start {start : Cover} (h : busy.Sound start)
    (hoptimistic : start.encoder.isOptimistic = true) {status : Status}
    (hstatus : command.LeadsTo status) : (busy.take transport (.start command)).Sound start := by
  obtain ⟨later, hstill, heq⟩ | ⟨order, later, hstill, hencode, heq⟩ :=
    start_cases transport busy command
  · rw [heq]; exact h.still hstill
  · have hassumes : order.Assumes status := by
      rw [h.encoder] at hencode
      exact Order.assumes_of_leadsTo hoptimistic hstatus hencode
    obtain ⟨hencoder, hwaiting, hsent, hunchanged, hlast⟩ := h.still hstill
    rw [heq]
    refine ⟨hencoder, ?_, ?_, hunchanged, hlast⟩
    · refine List.forall_mem_append.2 ⟨hwaiting, ?_⟩
      exact List.forall_mem_singleton.2 ⟨status, hstatus, hassumes⟩
    · rw [List.map_append, ← List.append_assoc]
      exact hsent.append_right [command]

theorem Sound.finish {start : Cover} (h : busy.Sound start) (place : Nat) :
    (busy.take transport (.finish place)).Sound start := by
  obtain heq | ⟨command, order, rest, hperm, -, heq⟩ := finish_cases transport busy place
  · rw [heq]; exact h
  · have hwaiting := fun call hcall => h.waiting call (hperm.subset hcall)
    obtain ⟨⟨status, hstatus, hassumes⟩, hrest⟩ := List.forall_mem_cons.1 hwaiting
    rw [heq]
    refine ⟨?_, hrest, ?_, fun hnone => ?_, fun last hlast => ?_⟩
    · rw [encoder_assume]; exact h.encoder
    · rw [List.append_assoc]
      exact h.sent.trans ((hperm.map Prod.fst).symm.append_left busy.finished)
    · exact absurd hnone (List.append_ne_nil_of_right_ne_nil _ (List.cons_ne_nil _ _))
    · -- Whatever the status was, the order that ends now overwrites it.
      rw [List.getLast?_concat] at hlast
      cases hlast
      rw [status_assume hassumes]; exact hstatus

theorem Sound.takeAll {start : Cover} (h : busy.Sound start)
    (hoptimistic : start.encoder.isOptimistic = true) {turns : List Turn}
    (hends : ∀ command, .start command ∈ turns → ∃ status, command.LeadsTo status) :
    (busy.takeAll transport turns).Sound start := by
  induction turns generalizing busy with
  | nil => exact h
  | cons turn turns ih =>
    refine ih ?_ fun command hmem => hends command (List.mem_cons_of_mem _ hmem)
    cases turn with
    | start command =>
      obtain ⟨status, hstatus⟩ := hends command List.mem_cons_self
      exact h.start hoptimistic hstatus
    | finish place => exact h.finish place

/-- If the first that waits always goes on first, the commands end in the order of their messages. -/
theorem sent_takeAll {turns : List Turn} (hfirst : ∀ place, .finish place ∈ turns → place = 0)
    (h : busy.sent = busy.finished ++ busy.waiting.map Prod.fst) :
    (busy.takeAll transport turns).sent = (busy.takeAll transport turns).finished ++
      (busy.takeAll transport turns).waiting.map Prod.fst := by
  induction turns generalizing busy with
  | nil => exact h
  | cons turn turns ih =>
    refine ih (fun place hmem => hfirst place (List.mem_cons_of_mem _ hmem)) ?_
    cases turn with
    | start command =>
      obtain ⟨later, -, heq⟩ | ⟨order, later, -, -, heq⟩ := start_cases transport busy command
      · rw [heq]; exact h
      · rw [heq, List.map_append, ← List.append_assoc, ← h]; rfl
    | finish place =>
      obtain heq | ⟨command, order, rest, -, hnext, heq⟩ := finish_cases transport busy place
      · rw [heq]; exact h
      · have hwaiting := hnext (hfirst place List.mem_cons_self)
        rw [heq, List.append_assoc, h, ← hwaiting]; rfl

/-- An optimistic cover is told to open and to close, by any number of commands that overlap in any
way, the transport taking the messages of some. When none of them is under way any more, all whose
messages were taken have ended, and the status is the one to which the command leads that ended last.
So it is that of the command whose message was taken last exactly if the command that ended last is
the same, as it is if they end in the order of their messages. -/
theorem status_of_last_finished (transport : Transport σ) (run : Running σ)
    (hoptimistic : run.cover.encoder.isOptimistic = true) (turns : List Turn)
    (hends : ∀ command, .start command ∈ turns → command = .openCover ∨ command = .closeCover) :
    let busy := (idle run).takeAll transport turns
    let status := busy.run.cover.state.status
    busy.waiting = [] →
      busy.sent.Perm busy.finished ∧
      (busy.finished = [] → status = run.cover.state.status) ∧
      (∀ command, busy.finished.getLast? = some command → command.LeadsTo status) ∧
      (∀ command, busy.sent.getLast? = some command →
        (command.LeadsTo status ↔ busy.finished.getLast? = some command)) ∧
      ((∀ place, .finish place ∈ turns → place = 0) → busy.finished = busy.sent) := by
  intro busy status hwaiting
  have hleads : ∀ command, .start command ∈ turns → ∃ status, command.LeadsTo status := by
    intro command hmem
    obtain rfl | rfl := hends command hmem
    · exact ⟨_, .opened⟩
    · exact ⟨_, .closed⟩
  have hsound : busy.Sound run.cover := (sound_idle run).takeAll hoptimistic hleads
  have hperm : busy.sent.Perm busy.finished := by
    have hsent := hsound.sent
    rwa [hwaiting, List.map_nil, List.append_nil] at hsent
  refine ⟨hperm, hsound.unchanged, hsound.status, fun command hlast => ⟨fun hstatus => ?_, ?_⟩,
    fun hfirst => ?_⟩
  · have hne : busy.finished ≠ [] := by
      rintro hnone
      rw [hnone, List.perm_nil] at hperm
      rw [hperm] at hlast; cases hlast
    have hfinished := List.getLast?_eq_some_getLast hne
    rw [hfinished, (hsound.status _ hfinished).unique hstatus]
  · exact hsound.status command
  · have hsent : busy.sent = busy.finished ++ busy.waiting.map Prod.fst := sent_takeAll hfirst rfl
    rw [hsent, hwaiting, List.map_nil, List.append_nil]

/-- A garage door is closed and opened by commands that end in their order: it is open. -/
theorem status_of_last_finished_garage :
    let config := { Config.named "garage" with commandTopic := some "set" }
    let turns : List Turn := [.start .closeCover, .start .openCover, .finish 0, .finish 0]
    ∃ cover, create "cover.garage" config = .ok cover ∧ cover.encoder.isOptimistic = true ∧
      (∀ command, .start command ∈ turns → command = .openCover ∨ command = .closeCover) ∧
      (∀ place, .finish place ∈ turns → place = 0) ∧
      let busy := (idle (.start cover ())).takeAll willing turns
      busy.waiting = [] ∧ busy.sent = [.closeCover, .openCover] ∧ busy.finished = busy.sent ∧
      Command.LeadsTo .openCover busy.run.cover.state.status := by
  intro config turns
  have hvalid : config.validate = .ok () := eq_ok_of_isOk (by decide +kernel)
  obtain ⟨cover, hcreate, -⟩ := create_of_valid "cover.garage" hvalid
  have hresult : (create "cover.garage" config).map (fun cover =>
      let busy := (idle (.start cover ())).takeAll willing turns
      (cover.encoder.isOptimistic, busy.waiting.length, busy.sent)) =
      .ok (true, 0, [.closeCover, .openCover]) := by decide +kernel
  rw [hcreate] at hresult
  simp only [Except.map, Except.ok.injEq, Prod.mk.injEq] at hresult
  obtain ⟨hoptimistic, hlength, hsent⟩ := hresult
  have hends : ∀ command, .start command ∈ turns → command = .openCover ∨ command = .closeCover := by
    simp [turns]
  have hfirst : ∀ place, .finish place ∈ turns → place = 0 := by simp [turns]
  have hwaiting := List.eq_nil_of_length_eq_zero hlength
  obtain ⟨-, -, -, hlast, hinorder⟩ :=
    status_of_last_finished willing (.start cover ()) hoptimistic turns hends hwaiting
  have hfinished := hinorder hfirst
  refine ⟨cover, hcreate, hoptimistic, hends, hfirst, hwaiting, hsent, hfinished, ?_⟩
  rw [hlast .openCover (by rw [hsent]; rfl), hfinished, hsent]; rfl

/-- A garage door is opened and closed, and the command to close, whose message was taken last, ends
first: the status is open all the same. -/
theorem status_not_of_last_sent :
    let config := { Config.named "garage" with commandTopic := some "set" }
    ∃ cover, create "cover.garage" config = .ok cover ∧ cover.encoder.isOptimistic = true ∧
      let busy := (idle (.start cover ())).takeAll willing
        [.start .openCover, .start .closeCover, .finish 1, .finish 0]
      busy.waiting = [] ∧ busy.sent = [.openCover, .closeCover] ∧
      busy.finished = [.closeCover, .openCover] ∧ busy.run.cover.state.status = .opened ∧
      ¬Command.LeadsTo .closeCover busy.run.cover.state.status := by
  intro config
  have hvalid : config.validate = .ok () := eq_ok_of_isOk (by decide +kernel)
  obtain ⟨cover, hcreate, -⟩ := create_of_valid "cover.garage" hvalid
  have hresult : (create "cover.garage" config).map (fun cover =>
      let busy := (idle (.start cover ())).takeAll willing
        [.start .openCover, .start .closeCover, .finish 1, .finish 0]
      (cover.encoder.isOptimistic, busy.waiting.length, busy.sent, busy.finished,
        busy.run.cover.state.status)) =
      .ok (true, 0, [.openCover, .closeCover], [.closeCover, .openCover], .opened) := by decide +kernel
  rw [hcreate] at hresult
  simp only [Except.map, Except.ok.injEq, Prod.mk.injEq] at hresult
  obtain ⟨hoptimistic, hlength, hsent, hfinished, hstatus⟩ := hresult
  refine ⟨cover, hcreate, hoptimistic, List.eq_nil_of_length_eq_zero hlength, hsent, hfinished,
    hstatus, ?_⟩
  rw [hstatus]
  exact nofun

end

end Busy

end Cover

end CoverControl
