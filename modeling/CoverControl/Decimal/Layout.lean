import CoverControl.Decimal.Shortest

/-!
# Layouts of numbers

How the digits of a number are laid out as a text. What one format decides differently from
another is a field of `Layout`.
-/

namespace CoverControl.Decimal

/-- The decisions of a number format. -/
structure Layout where
  /-- The choice between two equally near digit rows. -/
  tie : Tie
  /-- What a whole number has behind its digits. -/
  wholeMark : String
  /-- The decimal exponents that are written without an exponent; all of them if there is none. -/
  positional : Option (Int × Int)

namespace Layout

/-- Digits with the decimal point at its place, filled up with zeros. -/
def positionalText (layout : Layout) (s : Significant) : String :=
  if s.point ≤ 0 then
    "0." ++ String.ofList (List.replicate (-s.point).toNat '0' ++ s.digits)
  else
    let point := s.point.toNat
    if s.digits.length ≤ point then
      String.ofList (s.digits ++ List.replicate (point - s.digits.length) '0') ++ layout.wholeMark
    else String.ofList (s.digits.take point) ++ "." ++ String.ofList (s.digits.drop point)

/-- One digit before the decimal point, and a signed exponent. -/
def exponentText (s : Significant) : String :=
  let exponent := s.point - 1
  let fraction := match s.digits.drop 1 with
    | [] => ""
    | digits => "." ++ String.ofList digits
  let sign := if exponent < 0 then "-" else "+"
  String.ofList (s.digits.take 1) ++ fraction ++ "e" ++ sign ++ toString exponent.natAbs

/-- A magnitude without its sign. -/
def magnitude (layout : Layout) (units : Nat) : String :=
  let s := shortest layout.tie units
  match layout.positional with
  | none => layout.positionalText s
  | some (lowest, highest) =>
    if lowest ≤ s.point - 1 ∧ s.point - 1 ≤ highest then layout.positionalText s
    else exponentText s

/-- The text of a number; a negative zero keeps its sign. -/
def render (layout : Layout) : Binary64 → String
  | .nan => "NaN"
  | .infinite negative => if negative then "-inf" else "inf"
  | .finite negative units => (if negative then "-" else "") ++ layout.magnitude units

end Layout

/-- All digits written out, nothing behind a whole number, a tie going up. -/
def plain : Layout := ⟨.up, "", none⟩

end CoverControl.Decimal
