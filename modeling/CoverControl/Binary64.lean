/-!
# Binary64 numbers

The 64-bit binary floating-point numbers, held exactly. Every finite one is a whole multiple of the
smallest positive one, `2 ^ (-1074)`, so a finite number is a sign and a magnitude counted in these
units. Sums, products and quotients of magnitudes are then exact on naturals, and each operation
rounds once, in `ofQuotient`: to the nearest representable magnitude, a tie to the even multiple of
the spacing, and to infinity from `2 ^ 1024` on.
-/

namespace CoverControl

/-- A binary64 number; `units` counts the magnitude in multiples of `2 ^ (-1074)`. -/
inductive Binary64 where
  | nan
  | infinite (negative : Bool)
  | finite (negative : Bool) (units : Nat)
deriving DecidableEq, Repr, Inhabited

namespace Binary64

/-- The number of units in `1`. -/
def unitsPerOne : Nat := Nat.pow 2 1074

/-- The number of units in `2 ^ 1024`, the first magnitude that is infinite. -/
def unitsLimit : Nat := Nat.pow 2 2098

/-- The distance between neighbouring magnitudes at `units`: 53 significant bits are kept. -/
def spacing (units : Nat) : Nat := Nat.pow 2 (units.log2 - 52)

/-- The multiple of `step` nearest to `num / den`, a tie going to the even multiple. -/
def nearestMultiple (num den step : Nat) : Nat :=
  let whole := num / (den * step)
  let rest := num % (den * step)
  if 2 * rest < den * step ∨ (2 * rest = den * step ∧ whole % 2 = 0) then whole * step
  else (whole + 1) * step

/-- The number nearest to `num / den` units, with the given sign. -/
def ofQuotient (negative : Bool) (num den : Nat) : Binary64 :=
  let units := nearestMultiple num den (spacing (num / den))
  if units < unitsLimit then .finite negative units else .infinite negative

def zero : Binary64 := .finite false 0

/-- The number nearest to an integer. -/
def ofInt (i : Int) : Binary64 := ofQuotient (decide (i < 0)) (i.natAbs * unitsPerOne) 1

def one : Binary64 := ofInt 1

def hundred : Binary64 := ofInt 100

def isNaN : Binary64 → Bool
  | nan => true
  | _ => false

def isFinite : Binary64 → Bool
  | finite _ _ => true
  | _ => false

/-- Whether the sign bit is set; a zero has one too. -/
def isNegative : Binary64 → Bool
  | nan => false
  | infinite negative | finite negative _ => negative

/-- A finite magnitude with its sign, as an integer number of units. -/
def signedUnits (negative : Bool) (units : Nat) : Int :=
  if negative then -(units : Int) else units

/-! ### Comparison -/

/-- The place of a number in the order of magnitudes, infinities at the ends; none for NaN. -/
def orderKey : Binary64 → Option Int
  | nan => none
  | infinite negative => some (signedUnits negative unitsLimit)
  | finite negative units => some (signedUnits negative units)

/-- Numeric equality: NaN equals nothing, and the two zeros are equal. -/
def eq (x y : Binary64) : Bool :=
  match x.orderKey, y.orderKey with
  | some a, some b => a == b
  | _, _ => false

/-- Numeric order: false as soon as one side is NaN. -/
def lt (x y : Binary64) : Bool :=
  match x.orderKey, y.orderKey with
  | some a, some b => decide (a < b)
  | _, _ => false

/-- The smaller of two numbers, or the other one if one is NaN. -/
def min (x y : Binary64) : Binary64 :=
  if x.isNaN then y else if y.isNaN then x else if y.lt x then y else x

/-- The larger of two numbers, or the other one if one is NaN. -/
def max (x y : Binary64) : Binary64 :=
  if x.isNaN then y else if y.isNaN then x else if x.lt y then y else x

/-- Moves a number into `[low, high]`; NaN stays NaN. -/
def clamp (x low high : Binary64) : Binary64 :=
  if x.lt low then low else if high.lt x then high else x

/-! ### Arithmetic -/

def neg : Binary64 → Binary64
  | nan => nan
  | infinite negative => infinite !negative
  | finite negative units => finite (!negative) units

/-- The sum; a zero sum is negative only if both operands are. -/
def add : Binary64 → Binary64 → Binary64
  | nan, _ | _, nan => nan
  | infinite s, infinite t => if s = t then infinite s else nan
  | infinite s, finite _ _ => infinite s
  | finite _ _, infinite t => infinite t
  | finite s a, finite t b =>
    let sum := signedUnits s a + signedUnits t b
    if sum = 0 then finite (s && t) 0
    else ofQuotient (decide (sum < 0)) sum.natAbs 1

def sub (x y : Binary64) : Binary64 := x.add y.neg

def mul : Binary64 → Binary64 → Binary64
  | nan, _ | _, nan => nan
  | infinite s, infinite t => infinite (s != t)
  | infinite s, finite t b => if b = 0 then nan else infinite (s != t)
  | finite s a, infinite t => if a = 0 then nan else infinite (s != t)
  | finite s a, finite t b => ofQuotient (s != t) (a * b) unitsPerOne

def div : Binary64 → Binary64 → Binary64
  | nan, _ | _, nan => nan
  | infinite _, infinite _ => nan
  | infinite s, finite t _ => infinite (s != t)
  | finite s _, infinite t => finite (s != t) 0
  | finite s a, finite t b =>
    if b = 0 then if a = 0 then nan else infinite (s != t)
    else ofQuotient (s != t) (a * unitsPerOne) b

/-! ### Rounding to integers -/

/-- The nearest integer, a half going away from zero. -/
def round : Binary64 → Binary64
  | finite negative units =>
    finite negative ((2 * units + unitsPerOne) / (2 * unitsPerOne) * unitsPerOne)
  | x => x

/-- The integer part of a finite number, with its sign. -/
def truncate (negative : Bool) (units : Nat) : Int :=
  signedUnits negative (units / unitsPerOne)

/-- The integer part as a 64-bit integer; what is too large becomes the nearest bound, NaN zero. -/
def toInt64 : Binary64 → Int64
  | nan => 0
  | infinite negative => if negative then Int64.minValue else Int64.maxValue
  | finite negative units =>
    let i := truncate negative units
    if i < Int64.minValue.toInt then Int64.minValue
    else if Int64.maxValue.toInt < i then Int64.maxValue
    else Int64.ofInt i

/-- The integer part of a number that is not negative; zero for any other. -/
def toNat : Binary64 → Nat
  | finite false units => units / unitsPerOne
  | _ => 0

/-! ### The 64-bit encoding -/

/-- Reads sign, eleven exponent bits and 52 fraction bits. -/
def ofBits (bits : UInt64) : Binary64 :=
  let fraction := bits.toNat % Nat.pow 2 52
  let exponent := bits.toNat / Nat.pow 2 52 % Nat.pow 2 11
  let negative := decide (Nat.pow 2 63 ≤ bits.toNat)
  if exponent = Nat.pow 2 11 - 1 then
    if fraction = 0 then infinite negative else nan
  else if exponent = 0 then finite negative fraction
  else finite negative ((Nat.pow 2 52 + fraction) * Nat.pow 2 (exponent - 1))

/-- The fields of a magnitude below the sign bit: exponent and fraction as one number. -/
def magnitudeBits (units : Nat) : Nat :=
  if units < Nat.pow 2 52 then units
  else (units.log2 - 52) * Nat.pow 2 52 + units / spacing units

/-- Writes the encoding; every NaN is written as the quiet one. -/
def toBits : Binary64 → UInt64
  | nan => UInt64.ofNat (2047 * Nat.pow 2 52 + Nat.pow 2 51)
  | infinite negative => UInt64.ofNat ((if negative then Nat.pow 2 63 else 0) + 2047 * Nat.pow 2 52)
  | finite negative units =>
    UInt64.ofNat ((if negative then Nat.pow 2 63 else 0) + magnitudeBits units)

end Binary64

end CoverControl
