import CoverControl.Proofs.Config
import CoverControl.Proofs.Cover.Outcome
import CoverControl.Proofs.Cover.Recording
import Mathlib.Data.List.Chain
import Mathlib.Data.List.Induction
import Mathlib.Data.List.Nodup

/-!
# What a cover is subscribed to

The active filters of a cover are those that its transport holds for it: whenever an operation stops,
a filter is active exactly if the last request about it that was accepted was to subscribe to it
(`held`). It is kept up to date request by request (`Mirrored`), so it does not matter where an
operation fails, nor what the next one starts from. A cover asks only for what alters something, so
the accepted requests about one filter alternate.
-/

namespace CoverControl

/-! ### Records -/

section
variable {topic : String} {record : List Exchange} {exchange : Exchange} {active : List String}

/-- What an accepted request does to a filter: true for subscribing to it, false for giving it up. -/
def Exchange.turn? (topic : String) : Exchange → Option Bool
  | ⟨.subscribe other _, .ok ()⟩ => if other = topic then some true else none
  | ⟨.unsubscribe other, .ok ()⟩ => if other = topic then some false else none
  | _ => none

/-- What the accepted requests did to a filter, the first one first. -/
def turns (topic : String) (record : List Exchange) : List Bool :=
  record.filterMap (Exchange.turn? topic)

/-- Whether the last accepted request about a filter was to subscribe to it. -/
def held (record : List Exchange) (topic : String) : Bool := (turns topic record).getLast?.getD false

/-- A request that alters something: to subscribe to a filter that is not held, or to give up one
that is. -/
def Exchange.Needed (record : List Exchange) (exchange : Exchange) : Prop :=
  match exchange.request with
  | .publish _ => True
  | .subscribe topic _ => held record topic = false
  | .unsubscribe topic => held record topic = true

theorem turns_concat : turns topic (record ++ [exchange]) =
    turns topic record ++ (exchange.turn? topic).toList := by
  rw [turns, List.filterMap_append]
  cases h : exchange.turn? topic <;> simp [turns, h]

theorem held_concat : held (record ++ [exchange]) topic =
    (exchange.turn? topic).getD (held record topic) := by
  rw [held, turns_concat]
  cases exchange.turn? topic with
  | none => rw [Option.toList_none, List.append_nil]; rfl
  | some turn => simp

/-- A needed request that is accepted turns a filter. -/
theorem Exchange.Needed.held_eq {turn : Bool} (h : exchange.Needed record)
    (hturn : exchange.turn? topic = some turn) : held record topic = !turn := by
  obtain ⟨request, result⟩ := exchange
  cases request with
  | publish message => cases hturn
  | subscribe | unsubscribe =>
    cases result with
    | error fault => cases hturn
    | ok u =>
      simp only [turn?] at hturn
      split at hturn
      · rename_i heq
        cases hturn; cases heq; exact h
      · cases hturn

/-- Every request of a record was needed when it was made. -/
def Orderly (record : List Exchange) : Prop :=
  ∀ before exchange after, record = before ++ exchange :: after → exchange.Needed before

theorem orderly_nil : Orderly [] := by
  intro before exchange after h
  simp at h

theorem Orderly.concat (h : Orderly record) (hneeded : exchange.Needed record) :
    Orderly (record ++ [exchange]) := by
  intro before other after heq
  rcases List.eq_nil_or_concat after with rfl | ⟨after, last, rfl⟩
  · obtain ⟨hbefore, hlast⟩ := List.append_inj' heq rfl
    rw [← hbefore, ← List.singleton_inj.1 hlast]; exact hneeded
  · have hsplit : record ++ [exchange] = (before ++ other :: after) ++ [last] := by simpa using heq
    exact h before other after (List.append_inj' hsplit rfl).1

theorem Orderly.init (h : Orderly (record ++ [exchange])) : Orderly record :=
  fun before other after heq => h before other (after ++ [exchange]) (by simp [heq])

/-- If all requests were needed, those that were accepted for one filter alternate, the first one being
to subscribe to it. -/
theorem Orderly.alternate (h : Orderly record) (topic : String) :
    (false :: turns topic record).IsChain (· ≠ ·) := by
  induction record using List.reverseRecOn with
  | nil => exact List.isChain_singleton false
  | append_singleton record exchange ih =>
    have hneeded : exchange.Needed record := h record exchange [] rfl
    rw [turns_concat]
    cases hturn : exchange.turn? topic with
    | none => simpa using ih h.init
    | some turn =>
      -- the last turn before is the opposite one, or there is none and this is the first
      have hheld := hneeded.held_eq hturn
      rw [Option.toList_some, ← List.cons_append]
      refine (ih h.init).append (List.isChain_singleton turn) fun last hlast next hnext => ?_
      rw [List.getLast?_cons, Option.mem_some_iff] at hlast
      rw [List.head?_cons, Option.mem_some_iff] at hnext
      rw [← hlast, ← hnext, ← held, hheld]
      simp

/-- Some filters are just those that the accepted requests of a record left behind. -/
structure Mirrored (active : List String) (record : List Exchange) : Prop where
  nodup : active.Nodup
  mem : ∀ topic, topic ∈ active ↔ held record topic = true
  orderly : Orderly record

theorem mirrored_nil : Mirrored [] [] := ⟨List.nodup_nil, by simp [held, turns], orderly_nil⟩

theorem Mirrored.idle (h : Mirrored active record) (hneeded : exchange.Needed record)
    (hidle : ∀ topic, exchange.turn? topic = none) : Mirrored active (record ++ [exchange]) :=
  ⟨h.nodup, fun topic => by rw [held_concat, hidle]; exact h.mem topic, h.orderly.concat hneeded⟩

theorem Mirrored.needed_subscribe (h : Mirrored active record) (hnew : topic ∉ active) (qos : Qos)
    (result : Except TransportFault Unit) : Exchange.Needed record ⟨.subscribe topic qos, result⟩ := by
  rw [h.mem, Bool.not_eq_true] at hnew
  exact hnew

theorem Mirrored.subscribed (h : Mirrored active record) (hnew : topic ∉ active) (qos : Qos) :
    Mirrored (active ++ [topic]) (record ++ [⟨.subscribe topic qos, .ok ()⟩]) := by
  refine ⟨?_, fun other => ?_, h.orderly.concat (h.needed_subscribe hnew qos _)⟩
  · rw [← List.concat_eq_append]
    exact List.Nodup.concat hnew h.nodup
  · rw [held_concat, List.mem_append, List.mem_singleton, h.mem]
    by_cases heq : topic = other
    · simp [Exchange.turn?, heq]
    · simp [Exchange.turn?, heq, Ne.symm heq]

theorem Mirrored.unsubscribed (h : Mirrored (topic :: active) record) :
    Mirrored active (record ++ [⟨.unsubscribe topic, .ok ()⟩]) := by
  obtain ⟨hnew, hnodup⟩ := List.nodup_cons.1 h.nodup
  have hheld : held record topic = true := (h.mem topic).1 List.mem_cons_self
  refine ⟨hnodup, fun other => ?_, h.orderly.concat hheld⟩
  rw [held_concat]
  by_cases heq : topic = other
  · subst heq
    simp [Exchange.turn?, hnew]
  · rw [Exchange.turn?, if_neg heq, Option.getD_none, ← h.mem, List.mem_cons, or_iff_right (Ne.symm heq)]

end

/-! ### Operations -/

namespace Running

/-- The active filters of a cover at work are those that its record left behind. -/
def Mirrors {σ : Type} (run : Running (σ × List Exchange)) : Prop :=
  Mirrored run.cover.activeTopics run.record

end Running

namespace Cover
open Running
variable {σ : Type} {transport : Transport σ} {run : Running (σ × List Exchange)}

theorem unsubscribeAll_mirrors (topics : List String) (h : run.Mirrors)
    (hactive : run.cover.activeTopics = topics) :
    (unsubscribeAll transport.recorded topics run).2.Mirrors := by
  -- what is left of the list is what is left of the active filters, so each of them is held
  induction topics generalizing run with
  | nil =>
    show Mirrored [] run.record
    rw [← hactive]; exact h
  | cons topic topics ih =>
    have hmirrored : Mirrored (topic :: topics) run.record := hactive ▸ h
    have hheld : held run.record topic = true := (hmirrored.mem topic).1 List.mem_cons_self
    have hrecord := record_unsubscribe transport run topic
    simp only [unsubscribeAll]
    split
    · rename_i fault hrefused
      rw [hrefused] at hrecord
      show Mirrored run.cover.activeTopics (record _)
      rw [hrecord]
      exact Mirrored.idle h hheld fun _ => rfl
    · rename_i haccepted
      rw [haccepted] at hrecord
      refine ih ?_ rfl
      show Mirrored topics (record (run.receive _))
      rw [hrecord]
      exact hmirrored.unsubscribed

theorem subscribeAll_mirrors (qos : Qos) (topics : List String) (h : run.Mirrors) :
    (subscribeAll transport.recorded qos topics run).2.Mirrors := by
  induction topics generalizing run with
  | nil => exact h
  | cons topic topics ih =>
    have hrecord := record_subscribe transport run topic qos
    simp only [subscribeAll]
    split
    · exact ih h
    rename_i hactive
    have hnew : topic ∉ run.cover.activeTopics := fun hmem => hactive (List.contains_iff_mem.2 hmem)
    split
    · rename_i fault hrefused
      rw [hrefused] at hrecord
      show Mirrored run.cover.activeTopics (record _)
      rw [hrecord]
      exact Mirrored.idle h (Mirrored.needed_subscribe h hnew qos _) fun _ => rfl
    · rename_i haccepted
      rw [haccepted] at hrecord
      refine ih ?_
      show Mirrored (run.cover.activeTopics ++ [topic]) (record (run.receive _))
      rw [hrecord]
      exact Mirrored.subscribed h hnew qos

theorem renewTopics_mirrors (h : run.Mirrors) : (renewTopics transport.recorded run).2.Mirrors := by
  have hgiven : (unsubscribeAll transport.recorded run.cover.activeTopics run).2.Mirrors :=
    unsubscribeAll_mirrors _ h rfl
  rw [renewTopics]
  split <;> rename_i heq <;> rw [heq] at hgiven
  · exact hgiven
  · exact subscribeAll_mirrors _ _ hgiven

theorem send_mirrors (command : Command) (h : run.Mirrors) :
    (send transport.recorded command run).2.Mirrors := by
  unfold send
  split
  · exact h
  rename_i order _
  have hpublished : ∀ result, Mirrored run.cover.activeTopics
      (run.record ++ [⟨.publish order.message, result⟩]) :=
    fun result => Mirrored.idle h trivial fun _ => rfl
  dsimp only
  split
  · exact hpublished _
  · exact hpublished _

theorem assume_mirrors (order : Order) (h : run.Mirrors) : (assume order run).Mirrors := by
  unfold assume
  split <;> exact h

theorem execute_mirrors (command : Command) (h : run.Mirrors) :
    (execute transport.recorded command run).2.Mirrors := by
  have hsent : (send transport.recorded command run).2.Mirrors := send_mirrors command h
  rw [execute]
  split <;> rename_i heq <;> rw [heq] at hsent
  · exact hsent
  · exact assume_mirrors _ hsent

theorem hear_mirrors (topic payload : String) (h : run.Mirrors) : (hear topic payload run).Mirrors := by
  have hactive : (hear topic payload run).cover.activeTopics = run.cover.activeTopics := by
    rw [(hear_still topic payload run).cover, activeTopics_makeAll]
  show Mirrored (hear topic payload run).cover.activeTopics run.record
  rw [hactive]; exact h

theorem mirrors_perform (act : Act) (h : run.Mirrors) :
    (perform transport.recorded act run).2.Mirrors := by
  cases act with
  | message topic payload => exact hear_mirrors topic payload h
  | execute command => exact execute_mirrors command h
  | subscribe => exact subscribeAll_mirrors _ _ h
  | rename entityId => exact renewTopics_mirrors h
  | updateConfig config =>
    simp only [perform, updateConfig]
    split
    · exact h
    · exact renewTopics_mirrors h
  | remove => exact unsubscribeAll_mirrors _ h rfl

theorem mirrors_performAll (acts : List Act) (h : run.Mirrors) :
    (performAll transport.recorded acts run).Mirrors := by
  induction acts generalizing run with
  | nil => exact h
  | cons act acts ih => exact ih (mirrors_perform act h)

/-- Whatever a cover does and its transport answers, its active filters are each listed once, and are
those for which the last accepted request was to subscribe; it never subscribes to a filter that it
holds nor gives up one that it does not hold, so the accepted requests for one filter alternate. The
requests are written down by a record that does not alter the run. -/
theorem active_mirrors_transport {config : Config} (hvalid : config.validate = .ok ())
    (entityId : String) :
    ∃ cover, create entityId config = .ok cover ∧
      ∀ {σ : Type} (transport : Transport σ) (machine : σ) (acts : List Act),
        let run := performAll transport.recorded acts (.start cover (machine, []))
        performAll transport acts (.start cover machine) = run.forget ∧
        run.cover.activeTopics.Nodup ∧
        (∀ topic, topic ∈ run.cover.activeTopics ↔ held run.record topic = true) ∧
        (∀ before exchange after, run.record = before ++ exchange :: after →
          (∀ topic qos, exchange.request = .subscribe topic qos → held before topic = false) ∧
          ∀ topic, exchange.request = .unsubscribe topic → held before topic = true) ∧
        ∀ topic, (false :: turns topic run.record).IsChain (· ≠ ·) := by
  obtain ⟨cover, hcreate, hnew⟩ := create_of_valid entityId hvalid
  refine ⟨cover, hcreate, fun transport machine acts => ?_⟩
  intro run
  have hstart : (start cover (machine, ([] : List Exchange))).Mirrors := by
    show Mirrored cover.activeTopics []
    rw [hnew.activeTopics]; exact mirrored_nil
  obtain ⟨hnodup, hmem, horderly⟩ : run.Mirrors := mirrors_performAll acts hstart
  refine ⟨performAll_forget transport (start cover (machine, [])) acts, hnodup, hmem, ?_,
    horderly.alternate⟩
  intro before exchange after hrecord
  have hneeded := horderly before exchange after hrecord
  refine ⟨fun topic qos hrequest => ?_, fun topic hrequest => ?_⟩
  · rw [Exchange.Needed, hrequest] at hneeded; exact hneeded
  · rw [Exchange.Needed, hrequest] at hneeded; exact hneeded

/-- A transport that refuses every third request stops a renaming halfway. -/
theorem active_mirrors_transport_fussy :
    let config := { Config.named "blind" with stateTopic := some "s", positionTopic := some "p" }
    let answer : Nat → Reply Nat := fun asked =>
      ⟨if asked % 3 = 2 then .error .requestRefused else .ok (), asked + 1, []⟩
    let fussy : Transport Nat := ⟨fun _ => answer, fun _ _ => answer, fun _ => answer⟩
    let acts : List Act := [.subscribe, .rename "cover.shade", .subscribe, .remove]
    config.validate = .ok () ∧ ∃ cover, create "cover.blind" config = .ok cover ∧
      let run := performAll fussy.recorded acts (.start cover (0, []))
      run.cover.activeTopics.Nodup ∧
      (∀ topic, topic ∈ run.cover.activeTopics ↔ held run.record topic = true) ∧
      ∀ topic, (false :: turns topic run.record).IsChain (· ≠ ·) := by
  intro config answer fussy acts
  have hvalid : config.validate = .ok () := eq_ok_of_isOk (by decide +kernel)
  obtain ⟨cover, hcreate, h⟩ := active_mirrors_transport hvalid "cover.blind"
  obtain ⟨-, hnodup, hmem, -, halternate⟩ := h fussy 0 acts
  exact ⟨hvalid, cover, hcreate, hnodup, hmem, halternate⟩

end Cover

end CoverControl
