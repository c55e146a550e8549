import CoverControl.Percent

/-!
# Scales

Devices report and accept positions in units of their own, such as 80 to 180 motor steps. A scale
converts between these and percentages: linearly between a lower and an upper bound, mirrored if it
is inverted. Only an empty range is refused; a scale that was built converts everything.
-/

namespace CoverControl

structure Scale where
  lower : Binary64
  upper : Binary64
  inverted : Bool
deriving DecidableEq, Repr

namespace Scale

/-- The scale between two bounds, in either order; `axis` names it in the fault. -/
def ofBounds (axis : String) (a b : Binary64) (inverted : Bool) : Except ConfigFault Scale :=
  if a.eq b then .error (.emptyRange axis a) else .ok ⟨a.min b, a.max b, inverted⟩

/-- The binary number nearest to an integer of the device. -/
def raw (value : Int64) : Binary64 := .ofInt value.toInt

/-- The scale of positions: its percentages grow from the closed to the open bound. -/
def position (opened closed : Int64) : Except ConfigFault Scale :=
  ofBounds "position" (raw opened) (raw closed) (decide (opened.toInt < closed.toInt))

/-- The scale of tilts. -/
def tilt (min max : Int64) (inverted : Bool) : Except ConfigFault Scale :=
  ofBounds "tilt" (raw min) (raw max) inverted

/-- Mirrors a percentage if the scale is inverted. -/
def orient (scale : Scale) (p : Percent) : Percent := if scale.inverted then p.inverted else p

/-- The percentage of a raw value; values outside the range count as its nearer end. -/
def percent (scale : Scale) (x : Binary64) : Percent :=
  let fraction := ((x.sub scale.lower).div (scale.upper.sub scale.lower)).clamp .zero .one
  scale.orient (.ofBinary64 (fraction.mul .hundred))

/-- The integer raw value nearest to a percentage. -/
def value (scale : Scale) (p : Percent) : Int64 :=
  let fraction := (scale.orient p).fraction
  (scale.lower.add (fraction.mul (scale.upper.sub scale.lower))).round.toInt64

end Scale

end CoverControl
