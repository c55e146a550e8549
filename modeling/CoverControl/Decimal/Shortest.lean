import CoverControl.Decimal.Numeral

/-!
# The fewest digits that identify a number

A finite binary number is written with the fewest decimal digits that read back to it. On the grid
of numbers with `n` significant digits only the two neighbours of the exact value can read back to
it and be nearest, so the first grid that has such a neighbour decides, and of two the nearer one
is taken.
-/

namespace CoverControl.Decimal

/-- Significant digits and the place of the decimal point: `0.digits * 10 ^ point`. -/
structure Significant where
  digits : List Char
  point : Int
deriving DecidableEq, Repr

/-- Which of two equally near neighbours is taken. -/
inductive Tie where
  | toEven
  | up
deriving DecidableEq, Repr

/-- The `point` with `10 ^ (point - 1) ≤ num / den < 10 ^ point`. -/
def pointPlace (num den : Nat) : Int :=
  if den ≤ num then (Nat.toDigits 10 (num / den)).length
  else 1 - (Nat.toDigits 10 ((den - 1) / num)).length

/-- Numerator and denominator of `num / den / 10 ^ exponent`. -/
def scaled (num den : Nat) (exponent : Int) : Nat × Nat :=
  (num * Nat.pow 10 (-exponent).toNat, den * Nat.pow 10 exponent.toNat)

/-- The neighbour of `units` with the given last place that reads back to it, the nearer of two. -/
def neighbour? (tie : Tie) (units : Nat) (exponent : Int) : Option Nat :=
  let (num, den) := scaled units Binary64.unitsPerOne exponent
  let below := num / den
  let rest := num % den
  let readsBack := fun digits =>
    decide (toBinary64 ⟨false, digits, exponent⟩ = .finite false units)
  let upperNearer :=
    den < 2 * rest ∨ (2 * rest = den ∧ (tie = .up ∨ below % 2 = 1))
  if upperNearer then
    if readsBack (below + 1) then some (below + 1) else if readsBack below then some below else none
  else
    if readsBack below then some below else if readsBack (below + 1) then some (below + 1) else none

/-- The digits of a number without its final zeros. -/
def withoutFinalZeros (digits : Nat) : List Char :=
  ((Nat.toDigits 10 digits).reverse.dropWhile (· = '0')).reverse

/-- The shortest digits of a magnitude; seventeen always suffice. -/
def shortest (tie : Tie) (units : Nat) : Significant :=
  if units = 0 then ⟨['0'], 1⟩
  else
    let point := pointPlace units Binary64.unitsPerOne
    let found := (List.range 17).findSome? fun (n : Nat) =>
      let exponent : Int := point - (n + 1)
      (neighbour? tie units exponent).map fun digits => (digits, exponent)
    let (digits, exponent) := found.getD (0, 0)
    ⟨withoutFinalZeros digits, (Nat.toDigits 10 digits).length + exponent⟩

end CoverControl.Decimal
