import CoverControl.Proofs.Table
import CoverControl.Mqtt.Packet
import Mathlib.Data.Nat.Log

/-!
# What a server knows

A server keeps the quality of service of each filter that is subscribed to. A subscription sets it,
the end of a subscription removes it, and a new connection, whose session is clean, forgets
everything. `serverTable` is what a server knows after it processed packets in the order in which they
were sent.
-/

namespace CoverControl.Mqtt

/-- What a packet changes about what the server knows. -/
def Packet.serve (known : String → Option Qos) : Packet → String → Option Qos
  | connect _ _ => fun _ => none
  | subscribe filter qos => fun other => if other = filter then some qos else known other
  | unsubscribe filter => fun other => if other = filter then none else known other
  | publish _ => known
  | disconnect => known

/-- What a server knows after packets, the first one first. -/
def serverTable (packets : List Packet) : String → Option Qos :=
  packets.foldl Packet.serve fun _ => none

section
variable {packets later : List Packet} {filter other : String} {qos : Qos}

theorem serverTable_append : serverTable (packets ++ later) = later.foldl Packet.serve (serverTable packets) :=
  List.foldl_append

@[simp] theorem serverTable_connect (keepAlive : Nat) (login : Option (String × String)) :
    serverTable (packets ++ [.connect keepAlive login]) = fun _ => none := serverTable_append

theorem serverTable_subscribe : serverTable (packets ++ [.subscribe filter qos]) other =
    if other = filter then some qos else serverTable packets other := by
  rw [serverTable_append]; rfl

theorem serverTable_unsubscribe (filters : List String) :
    serverTable (packets ++ filters.map Packet.unsubscribe) other =
      if other ∈ filters then none else serverTable packets other := by
  induction filters generalizing packets with
  | nil => simp
  | cons f filters ih =>
    have hone : serverTable (packets ++ [.unsubscribe f]) other =
        if other = f then none else serverTable packets other := by rw [serverTable_append]; rfl
    rw [List.map_cons, List.append_cons, ih, hone]
    by_cases hf : other = f <;> by_cases hmem : other ∈ filters <;> simp [hf, hmem]

/-- Subscriptions made from a table: the server knows the table on top of what it knew. -/
theorem serverTable_restore (table : List (String × Qos)) (h : (table.map (·.1)).Nodup) :
    serverTable (packets ++ table.map fun entry => .subscribe entry.1 entry.2) other =
      (table.lookup other).or (serverTable packets other) := by
  induction table generalizing packets with
  | nil => simp
  | cons entry table ih =>
    obtain ⟨f, q⟩ := entry
    obtain ⟨hf, hnd⟩ := List.nodup_cons.1 h
    rw [List.map_cons, List.append_cons, ih hnd, serverTable_subscribe, Table.lookup_cons]
    by_cases heq : other = f
    · have hnone : table.lookup f = none := Table.lookup_eq_none.2 hf
      simp [heq, hnone]
    · simp [heq]

end

namespace Packet
variable {filter : String} {qos : Qos}

theorem size_mono {packet packet' : Packet} (h : packet.bodySize ≤ packet'.bodySize) :
    packet.size ≤ packet'.size := by
  have hlog : packet.bodySize.log2 ≤ packet'.bodySize.log2 := by
    rw [Nat.log2_eq_log_two, Nat.log2_eq_log_two]; exact Nat.log_mono_right h
  have hdiv := Nat.div_le_div_right (c := 7) hlog
  simp only [size]; omega

/-- A filter that can be subscribed to can be given up. -/
theorem fits_unsubscribe (h : (subscribe filter qos).fits = true) :
    (unsubscribe filter).fits = true := by
  have hsize : (unsubscribe filter).size ≤ (subscribe filter qos).size :=
    size_mono (by simp [bodySize])
  simp only [fits, decide_eq_true_eq] at h ⊢
  exact hsize.trans h

end Packet

end CoverControl.Mqtt
