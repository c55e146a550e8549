import CoverControl.Json.Fault

/-!
# Numbers in JSON texts

A numeral without fraction and exponent that fits 64 bits, signed or unsigned, is an integer. Every
other one is a floating-point number, computed from the digits that fit an unsigned 64-bit
significand and one power of ten: the significand is rounded to binary, then multiplied or divided
by the rounded power. The result can differ from the nearest binary number in the last place.
-/

namespace CoverControl.Json

/-- Takes something off the front of a text and returns it with the rest. -/
abbrev Reader (α : Type) := List Char → Except Fault (α × List Char)

namespace Numeral

/-- The largest significand. -/
def significandMax : Nat := Nat.pow 2 64 - 1

/-- Appends digits to a significand up to the first that does not fit, and counts them. -/
def absorb (significand : Nat) : List Char → Nat × Nat
  | [] => (significand, 0)
  | c :: cs =>
    let next := 10 * significand + (c.toNat - '0'.toNat)
    if significandMax < next then (significand, 0)
    else
      let (result, count) := absorb next cs
      (result, count + 1)

/-- The binary number nearest to a power of ten. -/
def powerOfTen (exponent : Nat) : Binary64 :=
  .ofQuotient false (Nat.pow 10 exponent * Binary64.unitsPerOne) 1

/-- Divides by a power of ten, in steps of at most `10 ^ 308`. -/
def scaleDown (x : Binary64) (exponent : Nat) : Binary64 :=
  if exponent ≤ 308 then x.div (powerOfTen exponent)
  else if x.eq .zero then x
  else scaleDown (x.div (powerOfTen 308)) (exponent - 308)
termination_by exponent

/-- The magnitude `significand * 10 ^ exponent`. -/
def magnitude (significand : Nat) (exponent : Int) : Except Fault Binary64 :=
  let x := Binary64.ofInt significand
  if exponent < 0 then .ok (scaleDown x exponent.natAbs)
  else if exponent ≤ 308 then
    match x.mul (powerOfTen exponent.toNat) with
    | .infinite _ => .error .numberTooLarge
    | y => .ok y
  else if x.eq .zero then .ok x
  else .error .numberTooLarge

/-- The bound of exponents; beyond it a number is zero or too large. -/
def exponentMax : Nat := Nat.pow 2 31 - 1

def signed (negative : Bool) (x : Binary64) : Number :=
  .float (if negative then x.neg else x)

/-- A numeral without fraction and exponent; what fits no 64-bit integer, and `-0`, is floating. -/
def ofInteger (negative : Bool) (significand : Nat) : Number :=
  if negative then
    if significand = 0 ∨ Nat.pow 2 63 < significand then signed true (.ofInt significand)
    else .int (-significand)
  else .int significand

/-- Reads an exponent behind its mark, the numeral being `significand * 10 ^ exponent` so far. -/
def readExponent (negative : Bool) (significand : Nat) (exponent : Int) (cs : List Char) :
    Except Fault (Number × List Char) :=
  let (down, cs) := Decimal.splitSign cs
  let digits := cs.takeWhile Char.isDigit
  let rest := cs.dropWhile Char.isDigit
  if digits = [] then
    .error (if cs = [] then .endOfValue else .badNumber)
  else
    let value := Decimal.ofDigits digits
    if exponentMax < value then
      if significand ≠ 0 ∧ down = false then .error .numberTooLarge
      else .ok (signed negative .zero, rest)
    else
      (magnitude significand (if down then exponent - value else exponent + value)).map
        fun x => (signed negative x, rest)

/-- Reads what may follow the digits of a numeral: an exponent, or nothing. -/
def readTail (negative : Bool) (significand : Nat) (exponent : Int) :
    Reader Number
  | 'e' :: cs | 'E' :: cs => readExponent negative significand exponent cs
  | cs => (magnitude significand exponent).map fun x => (signed negative x, cs)

/-- Reads a fraction behind its point, `dropped` digits before the point being left out. -/
def readFraction (negative : Bool) (significand dropped : Nat) (cs : List Char) :
    Except Fault (Number × List Char) :=
  let digits := cs.takeWhile Char.isDigit
  let rest := cs.dropWhile Char.isDigit
  if digits = [] then
    .error (if cs = [] then .endOfValue else .badNumber)
  else
    let (significand, count) := absorb significand digits
    readTail negative significand ((dropped : Int) - count) rest

/-- Reads a numeral behind its sign: no digit may follow a leading zero. -/
def read (negative : Bool) (cs : List Char) : Except Fault (Number × List Char) :=
  let digits := cs.takeWhile Char.isDigit
  let rest := cs.dropWhile Char.isDigit
  match digits with
  | [] => .error (if cs = [] then .endOfValue else .badNumber)
  | '0' :: _ :: _ => .error .badNumber
  | digits =>
    let (significand, count) := absorb 0 digits
    let dropped := digits.length - count
    match rest with
    | '.' :: rest => readFraction negative significand dropped rest
    | 'e' :: _ | 'E' :: _ => readTail negative significand dropped rest
    | rest =>
      if dropped = 0 then .ok (ofInteger negative significand, rest)
      else readTail negative significand dropped rest

end Numeral

end CoverControl.Json
