import CoverControl.Proofs.Changes
import CoverControl.Proofs.Cover.Outcome
import CoverControl.Proofs.Cover.Recording
import Mathlib.Data.List.Induction

/-!
# Commands do all or nothing

A command is first encoded, then published, and only then is what its order assumes made true. So it
ends in one of three ways (`Executed`): it cannot be encoded, and nothing was asked of the transport;
its message is refused, and the cover is as it was; or its message is published, once, and the
assumed change is made and announced like any other change. A cover that assumes nothing is altered
by no command.
-/

namespace CoverControl

namespace Cover
open Running
variable {σ : Type}

/-- What comes of a command. -/
inductive Executed (transport : Transport σ) (command : Command) (run : Running (σ × List Exchange)) :
    Except Failure Unit × Running (σ × List Exchange) → Prop where
  | unencoded {failure : Failure} (hencode : run.cover.encoder.encode command = .error failure) :
      Executed transport command run (.error failure, run)
  | refused {order : Order} {fault : TransportFault} {later : Running (σ × List Exchange)}
      (hencode : run.cover.encoder.encode command = .ok order)
      (hanswer : (transport.publish order.message run.transport.1).result = .error fault)
      (hstill : run.Still later)
      (hrecord : later.record = run.record ++ [⟨.publish order.message, .error fault⟩]) :
      Executed transport command run (.error (.transport fault), later)
  | done {order : Order} {later : Running (σ × List Exchange)}
      (hencode : run.cover.encoder.encode command = .ok order)
      (hanswer : (transport.publish order.message run.transport.1).result = .ok ())
      (hstill : (run.makeAll order.assumed.toList).Still later)
      (hrecord : later.record = run.record ++ [⟨.publish order.message, .ok ()⟩]) :
      Executed transport command run (.ok (), later)

theorem record_assume (order : Order) (run : Running (σ × List Exchange)) :
    (assume order run).record = run.record := by
  unfold assume
  split <;> rfl

theorem execute_executed (transport : Transport σ) (command : Command)
    (run : Running (σ × List Exchange)) :
    Executed transport command run (execute transport.recorded command run) := by
  cases hencode : run.cover.encoder.encode command with
  | error failure =>
    have hnothing : execute transport.recorded command run = (.error failure, run) := by
      simp only [execute, send, hencode]
    rw [hnothing]
    exact .unencoded hencode
  | ok order =>
    have hsent : run.Still (send transport.recorded command run).2 := send_still _ _
    have hrecorded : ∀ message, (transport.recorded.publish message run.transport).result =
        (transport.publish message run.transport.1).result := fun _ => rfl
    unfold send at hsent
    simp only [execute, send, hencode, report, hrecorded] at hsent ⊢
    cases hanswer : (transport.publish order.message run.transport.1).result with
    | error fault =>
      simp only [hanswer] at hsent ⊢
      exact .refused hencode hanswer hsent (by rw [← hanswer]; rfl)
    | ok u =>
      simp only [hanswer] at hsent ⊢
      refine .done hencode hanswer ?_ ?_
      · rw [assume_eq]; exact hsent.makeAll
      · rw [record_assume, ← hanswer]; rfl

section
variable {transport : Transport σ} {command : Command} {run later : Running (σ × List Exchange)}

theorem Executed.of_error {failure : Failure}
    (h : Executed transport command run (.error failure, later)) :
    run.Still later ∧ (later.record = run.record ∨ ∃ fault, failure = .transport fault) := by
  cases h with
  | unencoded => exact ⟨.refl run, .inl rfl⟩
  | refused _ _ hstill => exact ⟨hstill, .inr ⟨_, rfl⟩⟩

theorem Executed.of_ok (h : Executed transport command run (.ok (), later)) :
    ∃ order, run.cover.encoder.encode command = .ok order ∧
      (run.makeAll order.assumed.toList).Still later ∧
      later.record = run.record ++ [⟨.publish order.message, .ok ()⟩] := by
  cases h with
  | done hencode _ hstill hrecord => exact ⟨_, hencode, hstill, hrecord⟩

theorem Executed.ok_of_published {result : Except Failure Unit} {order : Order}
    (h : Executed transport command run (result, later))
    (hencode : run.cover.encoder.encode command = .ok order)
    (hanswer : (transport.publish order.message run.transport.1).result = .ok ()) :
    result = .ok () := by
  cases h with
  | unencoded hencode' => rw [hencode] at hencode'; cases hencode'
  | refused hencode' hanswer' =>
    rw [hencode] at hencode'
    cases hencode'
    rw [hanswer] at hanswer'; cases hanswer'
  | done => rfl

end

theorem execute_of_not_trusts {transport : Transport σ} {command : Command} {run : Running σ}
    (h : run.cover.encoder.trusts command = false) :
    (execute transport command run).2.cover = run.cover := by
  have hsent : run.Still (send transport command run).2 := send_still _ _
  unfold execute
  split <;> rename_i heq <;> rw [heq] at hsent
  · exact hsent.cover
  · rename_i order later
    have hnone : order.assumed = none := by
      have hsome := Encoder.isSome_assumed (encode_of_send heq)
      rw [h] at hsome
      simpa using hsome
    rw [assume, hnone]
    exact hsent.cover

theorem performAll_of_not_trusts {transport : Transport σ} {run : Running σ}
    (commands : List Command) (h : ∀ command, run.cover.encoder.trusts command = false) :
    (performAll transport (commands.map .execute) run).cover = run.cover := by
  induction commands generalizing run with
  | nil => rfl
  | cons command commands ih =>
    have hfirst : (perform transport (.execute command) run).2.cover = run.cover :=
      execute_of_not_trusts (h command)
    rw [List.map_cons, performAll, ih (by rw [hfirst]; exact h), hfirst]

/-- A command that fails leaves the cover as it was and announces nothing, and if it cannot be encoded
it asks nothing of the transport. One that succeeds has published the message of its order, once; if
the order assumes a change, this was made, and announced exactly if it altered the state. It succeeds
whenever it can be encoded and its message is accepted. No commands alter a cover that assumes
nothing. The requests are written down by a record that does not alter the run. -/
theorem execute_all_or_nothing (transport : Transport σ) :
    (∀ (command : Command) (run : Running (σ × List Exchange)),
      let outcome := execute transport.recorded command run
      let later := outcome.2
      execute transport command run.forget = unrecorded outcome ∧
      (∀ failure, outcome.1 = .error failure →
        later.cover = run.cover ∧ later.notices = run.notices ∧
        ((∃ name, failure = .unsupported name) ∨ (∃ fault, failure = .template fault) →
          later.record = run.record)) ∧
      (outcome.1 = .ok () → ∃ order, run.cover.encoder.encode command = .ok order ∧
        later.record = run.record ++ [⟨.publish order.message, .ok ()⟩] ∧
        match order.assumed with
        | none => later.cover = run.cover ∧ later.notices = run.notices
        | some change =>
          let (state, altered) := run.cover.state.apply change
          later.cover = { run.cover with tracker := { run.cover.tracker with state := state } } ∧
          later.notices =
            run.notices ++ if altered then [later.cover.announce change] else []) ∧
      ∀ order, run.cover.encoder.encode command = .ok order →
        (transport.publish order.message run.transport.1).result = .ok () → outcome.1 = .ok ()) ∧
    ∀ (commands : List Command) (run : Running σ),
      run.cover.encoder.isOptimistic = false → run.cover.encoder.isTiltOptimistic = false →
      (performAll transport (commands.map .execute) run).cover = run.cover := by
  refine ⟨fun command run => ?_, fun commands run hcover htilt => ?_⟩
  · intro outcome later
    have hexecuted : Executed transport command run outcome := execute_executed _ _ _
    refine ⟨perform_forget transport run (.execute command), ?_, ?_, ?_⟩
    · intro failure hfailure
      have hfailed : Executed transport command run (.error failure, later) := by
        rw [← hfailure]; exact hexecuted
      obtain ⟨hstill, hasked⟩ := hfailed.of_error
      refine ⟨hstill.cover, hstill.notices, fun hkind => ?_⟩
      rcases hasked with hrecord | ⟨fault, rfl⟩
      · exact hrecord
      · rcases hkind with ⟨name, h⟩ | ⟨fault', h⟩ <;> cases h
    · intro hok
      have hdone : Executed transport command run (.ok (), later) := by
        rw [← hok]; exact hexecuted
      obtain ⟨order, hencode, hstill, hrecord⟩ := hdone.of_ok
      refine ⟨order, hencode, hrecord, ?_⟩
      cases hassumed : order.assumed with
      | none =>
        rw [hassumed] at hstill
        exact ⟨hstill.cover, hstill.notices⟩
      | some change =>
        rw [hassumed] at hstill
        refine ⟨hstill.cover, hstill.notices.trans ?_⟩
        rw [hstill.cover]; rfl
    · intro order hencode hanswer
      exact hexecuted.ok_of_published hencode hanswer
  · refine performAll_of_not_trusts commands fun command => ?_
    cases command <;> first | exact hcover | exact htilt | rfl

/-- A garage door without feedback is opened and cannot be tilted; with feedback it assumes nothing. -/
theorem execute_all_or_nothing_garage :
    let config := { Config.named "garage" with commandTopic := some "set" }
    let told := { config with stateTopic := some "state" }
    (∃ cover, create "cover.garage" config = .ok cover ∧
      let run : Running (Unit × List Exchange) := .start cover ((), [])
      let moved := execute willing.recorded .openCover run
      let tilted := execute willing.recorded .openTilt run
      moved.1 = .ok () ∧
      (∃ order, cover.encoder.encode .openCover = .ok order ∧
        moved.2.record = [⟨.publish order.message, .ok ()⟩]) ∧
      tilted.1 = .error (.unsupported "open_tilt") ∧ tilted.2.cover = cover ∧
      tilted.2.record = []) ∧
    ∃ cover, create "cover.garage" told = .ok cover ∧ cover.encoder.isOptimistic = false ∧
      cover.encoder.isTiltOptimistic = false ∧
      (performAll willing ([.openCover, .stopCover].map .execute) (.start cover ())).cover = cover := by
  intro config told
  have hvalid : config.validate = .ok () := eq_ok_of_isOk (by decide +kernel)
  have htold : told.validate = .ok () := eq_ok_of_isOk (by decide +kernel)
  obtain ⟨hcommand, hcommands⟩ := execute_all_or_nothing willing
  obtain ⟨cover, hcreate, -⟩ := create_of_valid "cover.garage" hvalid
  obtain ⟨cover', hcreate', -⟩ := create_of_valid "cover.garage" htold
  have hmoved : (create "cover.garage" config).map (fun cover =>
      (execute willing.recorded .openCover (.start cover ((), []))).1) = .ok (.ok ()) := by
    decide +kernel
  have htilted : (create "cover.garage" config).map (fun cover =>
      (execute willing.recorded .openTilt (.start cover ((), []))).1) =
      .ok (.error (.unsupported "open_tilt")) := by decide +kernel
  have hplain : (create "cover.garage" told).map (fun cover =>
      (cover.encoder.isOptimistic, cover.encoder.isTiltOptimistic)) = .ok (false, false) := by
    decide +kernel
  rw [hcreate] at hmoved htilted
  rw [hcreate'] at hplain
  have hok := Except.ok.inj hmoved
  have hunsupported := Except.ok.inj htilted
  obtain ⟨hcover, htilt⟩ := Prod.mk.inj (Except.ok.inj hplain)
  obtain ⟨-, -, hdone, -⟩ := hcommand .openCover (.start cover ((), []))
  obtain ⟨order, hencode, hrecord, -⟩ := hdone hok
  obtain ⟨-, hfailed, -⟩ := hcommand .openTilt (.start cover ((), []))
  obtain ⟨hsame, -, hasked⟩ := hfailed _ hunsupported
  exact ⟨⟨cover, hcreate, hok, ⟨order, hencode, hrecord⟩, hunsupported, hsame,
    hasked (.inl ⟨_, rfl⟩)⟩, cover', hcreate', hcover, htilt, hcommands _ _ hcover htilt⟩

end Cover

end CoverControl
