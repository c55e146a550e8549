import CoverControl.Binary64

/-!
# Decimal numerals

Numbers as people write them: an optional sign, digits with an optional decimal point, an optional
exponent. A numeral stands for an exact number; `Decimal.toBinary64` gives the binary number
nearest to it. A text that is read as a binary number may also be the name of one that is not finite.
-/

namespace CoverControl

/-- The number `digits * 10 ^ exponent` with a sign. -/
structure Decimal where
  negative : Bool
  digits : Nat
  exponent : Int
deriving DecidableEq, Repr

namespace Decimal

/-- The number that a row of digits stands for. -/
def ofDigits (cs : List Char) : Nat :=
  cs.foldl (fun n c => 10 * n + (c.toNat - '0'.toNat)) 0

/-- Splits an optional sign off a text; true stands for a minus. -/
def splitSign : List Char → Bool × List Char
  | '-' :: cs => (true, cs)
  | '+' :: cs => (false, cs)
  | cs => (false, cs)

/-- Reads nothing as zero, or the mark of an exponent followed by an optionally signed number. -/
def readExponent? : List Char → Option Int
  | [] => some 0
  | mark :: cs =>
    let (negative, digits) := splitSign cs
    if (mark = 'e' ∨ mark = 'E') ∧ digits ≠ [] ∧ digits.all Char.isDigit = true then
      some (if negative then -(ofDigits digits : Int) else ofDigits digits)
    else none

/-- Splits the digits behind a decimal point off a text that starts with one. -/
def splitFraction : List Char → List Char × List Char
  | '.' :: cs => (cs.takeWhile Char.isDigit, cs.dropWhile Char.isDigit)
  | cs => ([], cs)

/-- Reads a whole text as a numeral with at least one digit before its exponent. -/
def read? (cs : List Char) : Option Decimal :=
  let (negative, cs) := splitSign cs
  let whole := cs.takeWhile Char.isDigit
  let (fraction, rest) := splitFraction (cs.dropWhile Char.isDigit)
  if whole = [] ∧ fraction = [] then none
  else (readExponent? rest).map fun exponent =>
    ⟨negative, ofDigits (whole ++ fraction), exponent - fraction.length⟩

/-- The binary number nearest to a numeral. Exponents so large or so small that the result must be
infinite or zero are settled without computing the power. -/
def toBinary64 (d : Decimal) : Binary64 :=
  if d.digits = 0 then .finite d.negative 0
  else if 310 < d.exponent then .infinite d.negative
  else if d.exponent + d.digits.log2 < -400 then .finite d.negative 0
  else if 0 ≤ d.exponent then
    .ofQuotient d.negative (d.digits * Nat.pow 10 d.exponent.toNat * Binary64.unitsPerOne) 1
  else .ofQuotient d.negative (d.digits * Binary64.unitsPerOne) (Nat.pow 10 (-d.exponent).toNat)

/-- Reads the name of a number that is not finite, in any case and with an optional sign. -/
def readName? (cs : List Char) : Option Binary64 :=
  let (negative, cs) := splitSign cs
  let name := String.ofList (cs.map Char.toLower)
  if name = "inf" ∨ name = "infinity" then some (.infinite negative)
  else if name = "nan" then some .nan
  else none

/-- Reads a whole text as a binary number. -/
def number? (cs : List Char) : Option Binary64 := ((read? cs).map toBinary64).or (readName? cs)

end Decimal

end CoverControl
