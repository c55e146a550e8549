import CoverControl.Fault
import CoverControl.Json.Record

/-!
# Percentages

Positions and tilts as the hub sees them: whole percentages, 0 for fully closed and 100 for fully
open, whatever the units and the direction of the device.
-/

namespace CoverControl

structure Percent where
  value : Nat
  value_le : value ≤ 100
deriving DecidableEq, Repr

namespace Percent

def closed : Percent := ⟨0, by decide⟩

def opened : Percent := ⟨100, by decide⟩

/-- A number as a percentage, if it is at most 100. -/
def ofNat? (n : Nat) : Except ValueFault Percent :=
  if h : n ≤ 100 then .ok ⟨n, h⟩ else .error (.outOfRange 0 100 n)

/-- A number as a percentage, what lies above 100 becoming 100. -/
def clamped (n : Nat) : Percent := ⟨Nat.min n 100, Nat.min_le_right n 100⟩

/-- The nearest percentage, a half going up; what lies outside goes to the nearer end, NaN to 0. -/
def ofBinary64 (x : Binary64) : Percent :=
  clamped ((x.round.clamp .zero .hundred).toNat)

/-- The percentage counted from the other end. -/
def inverted (p : Percent) : Percent := ⟨100 - p.value, Nat.sub_le ..⟩

/-- The percentage as a number from 0 to 1. -/
def fraction (p : Percent) : Binary64 := (Binary64.ofInt p.value).div .hundred

def isClosed (p : Percent) : Bool := p.value == 0

def text (p : Percent) : String := toString p.value ++ "%"

instance : Ord Percent := ⟨fun p q => compare p.value q.value⟩

/-- The larger of two percentages. -/
def max (p q : Percent) : Percent := if p.value < q.value then q else p

/-- Reads a percentage from an unsigned integer. -/
def reader : Json.Reader Percent := fun cs => do
  let (n, cs) ← Json.readByte cs
  match ofNat? n with
  | .ok p => .ok (p, cs)
  | .error fault => .error (.rejected fault.message)

end Percent

end CoverControl
