import CoverControl.Decimal.Numeral
import CoverControl.Proofs.Binary64.Operations

/-!
# The number nearest to a numeral

A numeral becomes one quotient of naturals that is rounded once: where the exponent is so large or so small
that the power is not computed, the result is what it would have been (`toBinary64_eq`). So the result stands
for the number nearest to the one that is written, unless that is too large (`isFinite_toBinary64_iff`).
-/

namespace CoverControl.Decimal

open Binary64

seal unitsPerOne unitsLimit

variable {d : Decimal}

/-- The number that is written. -/
def value (d : Decimal) : ℚ := signedUnits d.negative d.digits * 10 ^ d.exponent

/-- The numerator of the number, counted in units. -/
def numerator (d : Decimal) : Nat := d.digits * Nat.pow 10 d.exponent.toNat * unitsPerOne

def denominator (d : Decimal) : Nat := Nat.pow 10 (-d.exponent).toNat

theorem denominator_pos (d : Decimal) : 0 < d.denominator := Nat.pow_pos (by decide)

theorem denominator_of_nonneg (h : 0 ≤ d.exponent) : d.denominator = 1 := by
  rw [denominator, Int.toNat_of_nonpos (by omega), Nat.pow_eq, Nat.pow_zero]

theorem numerator_of_nonpos (h : d.exponent ≤ 0) : d.numerator = d.digits * unitsPerOne := by
  rw [numerator, Int.toNat_of_nonpos h, Nat.pow_eq, Nat.pow_zero, Nat.mul_one]

theorem zpow_mul_pow (e : ℤ) : (10 ^ e : ℚ) * (10 ^ (-e).toNat : ℕ) = (10 ^ e.toNat : ℕ) := by
  rcases Int.eq_nat_or_neg e with ⟨n, rfl | rfl⟩
  · simp
  · simp [zpow_neg]

theorem value_mul (d : Decimal) :
    d.value * (d.denominator * unitsPerOne) = signedUnits d.negative d.numerator := by
  rw [numerator, signedUnits_mul, signedUnits_mul, Int.cast_mul, Int.cast_mul, Int.cast_natCast,
    Int.cast_natCast]
  calc d.value * (d.denominator * unitsPerOne)
      = signedUnits d.negative d.digits * (10 ^ d.exponent * (10 ^ (-d.exponent).toNat : ℕ)) * unitsPerOne := by
        rw [value, denominator, Nat.pow_eq]
        ring
    _ = signedUnits d.negative d.digits * (10 ^ d.exponent.toNat : ℕ) * unitsPerOne := by rw [zpow_mul_pow]

/-! ### Large and small exponents -/

theorem roundUnits_of_large (hne : d.digits ≠ 0) (h : 310 < d.exponent) :
    unitsLimit ≤ roundUnits d.numerator d.denominator := by
  have hpower : (2 ^ 54 - 1) * 2 ^ 970 ≤ d.digits * 10 ^ d.exponent.toNat := by
    calc (2 ^ 54 - 1) * 2 ^ 970 ≤ 10 ^ 311 := by decide +kernel
      _ ≤ 10 ^ d.exponent.toNat := Nat.pow_le_pow_right (by decide) (by omega)
      _ ≤ d.digits * 10 ^ d.exponent.toNat := Nat.le_mul_of_pos_left _ (by omega)
  rw [denominator_of_nonneg (by omega), ← Nat.not_lt, roundUnits_lt_unitsLimit_iff Nat.one_pos, Nat.not_lt,
    Nat.mul_one, ← Nat.mul_assoc]
  exact Nat.mul_le_mul_right _ hpower

theorem roundUnits_of_small (h : d.exponent + d.digits.log2 < -400) :
    roundUnits d.numerator d.denominator = 0 := by
  refine roundUnits_of_lt_half ?_
  have hunits : 4 * unitsPerOne < 10 ^ 401 := by decide +kernel
  -- each binary digit of the numeral counts for less than a decimal one, and 401 decimal ones for all units
  calc 2 * d.numerator = 2 * (d.digits * unitsPerOne) := by rw [numerator_of_nonpos (by omega)]
    _ ≤ 2 * (2 ^ (d.digits.log2 + 1) * unitsPerOne) :=
        Nat.mul_le_mul_left 2 (Nat.mul_le_mul_right _ Nat.lt_log2_self.le)
    _ = 2 ^ d.digits.log2 * (4 * unitsPerOne) := by ring
    _ < 10 ^ d.digits.log2 * 10 ^ 401 :=
        Nat.mul_lt_mul_of_le_of_lt (Nat.pow_le_pow_left (by decide) _) hunits (by positivity)
    _ = 10 ^ (d.digits.log2 + 401) := by rw [Nat.pow_add]
    _ ≤ d.denominator := Nat.pow_le_pow_right (by decide) (by omega)

/-- The shortcuts change nothing. -/
theorem toBinary64_eq (d : Decimal) : d.toBinary64 = .ofQuotient d.negative d.numerator d.denominator := by
  unfold toBinary64
  split
  · rename_i hzero
    have hnum : d.numerator = 0 := by simp [numerator, hzero]
    rw [ofQuotient_eq, hnum, roundUnits_zero d.denominator_pos, if_pos unitsLimit_pos]
  rename_i hne
  split
  · rename_i hlarge
    rw [ofQuotient_eq, if_neg (roundUnits_of_large hne hlarge).not_gt]
  split
  · rename_i hsmall
    rw [ofQuotient_eq, roundUnits_of_small hsmall, if_pos unitsLimit_pos]
  split
  · rename_i hwhole
    rw [denominator_of_nonneg hwhole]
    rfl
  · rename_i hpart
    rw [numerator_of_nonpos (by omega)]
    rfl

/-! ### The result -/

theorem holds_toBinary64 (h : InRange d.value) : d.toBinary64.Holds (rounded d.value) := by
  rw [toBinary64_eq]
  exact holds_ofQuotient d.denominator_pos d.value_mul h

theorem isFinite_toBinary64_iff : d.toBinary64.isFinite = true ↔ InRange d.value := by
  rw [toBinary64_eq, inRange_iff d.denominator_pos d.value_mul, ofQuotient_eq]
  split
  · rename_i hlt
    exact iff_of_true rfl hlt
  · rename_i hge
    exact iff_of_false (by simp [isFinite]) hge

end CoverControl.Decimal
