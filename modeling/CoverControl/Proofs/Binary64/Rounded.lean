import CoverControl.Proofs.Binary64.Rounding
import Mathlib.Data.Rat.Floor
import Mathlib.Tactic.FieldSimp
import Mathlib.Tactic.Positivity

/-!
# Rounding rational numbers

`rounded q` is the number nearest to `q` with 53 significant bits, whatever fraction of units stands
for `q` (`rounded_eq`). It inherits from the rounding of magnitudes that it is monotone, that small
whole numbers and powers of two are left alone, and that the error is small. A result that is not
`InRange` is too large for a finite number.
-/

namespace CoverControl.Binary64

variable {a b q : ℚ} {negative : Bool} {units num den : Nat}

/-! ### Units -/

theorem unitsPerOne_pos : 0 < unitsPerOne := by
  unfold unitsPerOne
  generalize 1074 = one
  exact Nat.two_pow_pos one

theorem unitsPerOne_cast_pos : (0 : ℚ) < unitsPerOne := Nat.cast_pos.2 unitsPerOne_pos

theorem two_pow_lt_unitsLimit {k : Nat} (hk : k < 1024) : 2 ^ k * unitsPerOne < unitsLimit := by
  unfold unitsPerOne unitsLimit
  generalize hone : 1074 = one
  generalize hlimit : 2098 = limit
  calc 2 ^ k * Nat.pow 2 one = 2 ^ (k + one) := (Nat.pow_add 2 k one).symm
    _ < 2 ^ limit := Nat.pow_lt_pow_right (by decide) (by omega)

theorem unitsLimit_pos : 0 < unitsLimit :=
  (Nat.zero_le _).trans_lt (two_pow_lt_unitsLimit (k := 0) (by decide))

theorem unitsLimit_eq : unitsLimit = 2 ^ 1024 * unitsPerOne := by
  unfold unitsLimit unitsPerOne
  generalize hone : 1074 = one
  generalize hbits : 1024 = bits
  have hlimit : 2098 = bits + one := by omega
  rw [hlimit]
  exact Nat.pow_add 2 bits one

theorem roundUnits_lt_unitsLimit_iff (hden : 0 < den) :
    roundUnits num den < unitsLimit ↔ num < (2 ^ 54 - 1) * (2 ^ 970 * unitsPerOne) * den := by
  obtain ⟨k, hk⟩ : ∃ k, 2 ^ 970 * unitsPerOne = 2 ^ k := by
    unfold unitsPerOne
    generalize 1074 = one
    generalize 970 = half
    exact ⟨half + one, (Nat.pow_add 2 half one).symm⟩
  have hlimit : unitsLimit = 2 ^ 54 * 2 ^ k := by
    rw [unitsLimit_eq, ← hk, ← Nat.mul_assoc, ← Nat.pow_add]
  rw [hlimit, hk, roundUnits_lt_iff hden]

theorem two_pow_le_unitsPerOne : 2 ^ 52 ≤ unitsPerOne := by
  unfold unitsPerOne
  generalize hone : 1074 = one
  exact Nat.pow_le_pow_right (by decide) (by omega)

theorem representable_two_pow_ones (k : Nat) : Representable (2 ^ k * unitsPerOne) := by
  unfold unitsPerOne
  generalize 1074 = one
  have h : 2 ^ k * Nat.pow 2 one = 2 ^ (k + one) := (Nat.pow_add 2 k one).symm
  rw [h]
  exact representable_two_pow _

theorem representable_ones {m : Nat} (h : m < 2 ^ 53) : Representable (m * unitsPerOne) := by
  unfold unitsPerOne
  generalize 1074 = one
  exact representable_mul_two_pow h one

theorem unitsPerOne_dvd_spacing : unitsPerOne ∣ spacing (2 ^ 52 * unitsPerOne) := by
  unfold unitsPerOne spacing
  generalize 1074 = one
  have h : 2 ^ 52 * Nat.pow 2 one = 2 ^ (52 + one) := (Nat.pow_add 2 52 one).symm
  rw [h, Nat.log2_two_pow]
  exact Nat.pow_dvd_pow 2 (by omega)

-- from here on the two are numbers like any other: nothing is to compute their digits
seal unitsPerOne unitsLimit

theorem natAbs_signedUnits : (signedUnits negative units).natAbs = units := by
  cases negative <;> simp [signedUnits]

theorem signedUnits_xor (s t : Bool) (u v : Nat) :
    signedUnits (s != t) (u * v) = signedUnits s u * signedUnits t v := by
  cases s <;> cases t <;> simp [signedUnits]

theorem signedUnits_mul (s : Bool) (u v : Nat) : signedUnits s (u * v) = signedUnits s u * v := by
  cases s <;> simp [signedUnits]

theorem signedUnits_natAbs (i : Int) : signedUnits (decide (i < 0)) i.natAbs = i := by
  simp only [signedUnits, decide_eq_true_eq]
  split <;> omega

/-- The units of a whole number. -/
theorem signedUnits_whole (i : Int) :
    signedUnits (decide (i < 0)) (i.natAbs * unitsPerOne) = i * unitsPerOne := by
  rw [signedUnits_mul, signedUnits_natAbs]

/-! ### The rounded number -/

/-- The number nearest to `q` among those of 53 bits, a tie going to the even one; no number is too
large. -/
def rounded (q : ℚ) : ℚ :=
  signedUnits (decide (q < 0)) (roundUnits (q.num.natAbs * unitsPerOne) q.den) / unitsPerOne

theorem roundUnits_zero (hden : 0 < den) : roundUnits 0 den = 0 := by
  have h := roundUnits_representable hden (Nat.dvd_zero (spacing 0))
  rwa [Nat.zero_mul] at h

/-- Any fraction for the magnitude of `q`, counted in units, is rounded alike. -/
theorem rounded_eq (hden : 0 < den) (hq : q * (den * unitsPerOne) = signedUnits negative num) :
    rounded q = signedUnits negative (roundUnits num den) / unitsPerOne := by
  have hpos : (0 : ℚ) < den * unitsPerOne := mul_pos (Nat.cast_pos.2 hden) unitsPerOne_cast_pos
  have hcross : q.num.natAbs * unitsPerOne * den = num * q.den := by
    have hrat : q * q.den = q.num := Rat.mul_den_eq_num q
    have hint : (q.num * unitsPerOne * den : ℤ) = signedUnits negative num * q.den := by
      have hcast : ((q.num * unitsPerOne * den : ℤ) : ℚ) = (signedUnits negative num * q.den : ℤ) := by
        push_cast
        rw [← hq, ← hrat]
        ring
      exact_mod_cast hcast
    have habs := congrArg Int.natAbs hint
    simpa only [Int.natAbs_mul, Int.natAbs_natCast, natAbs_signedUnits] using habs
  have hsame : roundUnits (q.num.natAbs * unitsPerOne) q.den = roundUnits num den :=
    roundUnits_congr q.den_pos hden hcross
  rw [rounded, hsame]
  rcases Nat.eq_zero_or_pos num with rfl | hnum
  · rw [roundUnits_zero hden]; cases negative <;> simp [signedUnits]
  · -- a magnitude that is not zero has the sign of `q`
    have hsign : decide (q < 0) = negative := by
      have hnumq : (0 : ℚ) < num := Nat.cast_pos.2 hnum
      cases negative with
      | false =>
        have hq' : 0 < q * (den * unitsPerOne) := by rw [hq]; simpa [signedUnits] using hnum
        simp [(pos_of_mul_pos_left hq' hpos.le).le]
      | true =>
        have hq' : q * (den * unitsPerOne) < 0 := by rw [hq]; simpa [signedUnits] using hnum
        simp [(Rat.mul_neg_iff_of_pos_right hpos).1 hq']
    rw [hsign]

/-- Every number is a fraction of naturals with a sign, counted in units. -/
theorem exists_fraction (q : ℚ) : ∃ (negative : Bool) (num den : Nat), 0 < den ∧
    q * (den * unitsPerOne) = signedUnits negative num ∧ (0 ≤ q → negative = false) := by
  refine ⟨decide (q < 0), q.num.natAbs * unitsPerOne, q.den, q.den_pos, ?_, fun h => by simpa using h⟩
  have hsign : decide (q < 0) = decide (q.num < 0) := by simp [Rat.num_neg]
  rw [hsign, signedUnits_whole, ← mul_assoc, Rat.mul_den_eq_num]
  push_cast
  rfl

theorem rounded_neg (q : ℚ) : rounded (-q) = -rounded q := by
  obtain ⟨negative, num, den, hden, hq, -⟩ := exists_fraction q
  have hflip (u : Nat) : signedUnits (!negative) u = -signedUnits negative u := by
    cases negative <;> simp [signedUnits]
  have hneg : -q * (den * unitsPerOne) = signedUnits (!negative) num := by
    rw [hflip, Int.cast_neg, ← hq, neg_mul]
  rw [rounded_eq hden hq, rounded_eq hden hneg, hflip, Int.cast_neg, neg_div]

theorem rounded_zero : rounded 0 = 0 := self_eq_neg.1 (by simpa using rounded_neg 0)

theorem rounded_nonneg (h : 0 ≤ q) : 0 ≤ rounded q := by
  obtain ⟨negative, num, den, hden, hq, hsign⟩ := exists_fraction q
  rw [rounded_eq hden hq, hsign h]
  exact div_nonneg (Nat.cast_nonneg _) unitsPerOne_cast_pos.le

theorem rounded_mono_of_nonneg (ha : 0 ≤ a) (h : a ≤ b) : rounded a ≤ rounded b := by
  obtain ⟨s, num, den, hden, hq, hs⟩ := exists_fraction a
  obtain ⟨t, num', den', hden', hq', ht⟩ := exists_fraction b
  obtain rfl := hs ha
  obtain rfl := ht (ha.trans h)
  rw [rounded_eq hden hq, rounded_eq hden' hq']
  refine div_le_div_of_nonneg_right ?_ unitsPerOne_cast_pos.le
  refine Int.cast_le.2 (Int.ofNat_le.2 (roundUnits_mono hden hden' ?_))
  have hnum : a * (den * unitsPerOne) = num := by simpa [signedUnits] using hq
  have hnum' : b * (den' * unitsPerOne) = num' := by simpa [signedUnits] using hq'
  have hcross : (num * den' : ℚ) ≤ num' * den := by
    rw [← hnum, ← hnum']
    have hunits := unitsPerOne_cast_pos
    calc a * (den * unitsPerOne) * den' = a * (den * unitsPerOne * den') := by ring
      _ ≤ b * (den * unitsPerOne * den') := mul_le_mul_of_nonneg_right h (by positivity)
      _ = b * (den' * unitsPerOne) * den := by ring
  exact_mod_cast hcross

theorem rounded_mono (h : a ≤ b) : rounded a ≤ rounded b := by
  rcases le_total 0 a with ha | ha
  · exact rounded_mono_of_nonneg ha h
  rcases le_total 0 b with hb | hb
  · have hneg := rounded_nonneg (neg_nonneg.2 ha)
    rw [rounded_neg] at hneg
    exact (neg_nonneg.1 hneg).trans (rounded_nonneg hb)
  · have hneg := rounded_mono_of_nonneg (neg_nonneg.2 hb) (neg_le_neg h)
    rw [rounded_neg, rounded_neg] at hneg
    exact neg_le_neg_iff.1 hneg

theorem abs_rounded (q : ℚ) : |rounded q| = rounded |q| := by
  rcases le_total 0 q with h | h
  · rw [abs_of_nonneg h, abs_of_nonneg (rounded_nonneg h)]
  · have hneg := rounded_nonneg (neg_nonneg.2 h)
    rw [abs_of_nonpos h, rounded_neg, abs_of_nonpos]
    rwa [rounded_neg, neg_nonneg] at hneg

/-! ### Numbers that are not rounded -/

theorem rounded_units (h : Representable units) :
    rounded (signedUnits negative units / unitsPerOne) = signedUnits negative units / unitsPerOne := by
  have hne := unitsPerOne_cast_pos.ne'
  have hq : (signedUnits negative units / unitsPerOne : ℚ) * ((1 : Nat) * unitsPerOne) =
      signedUnits negative units := by field_simp; simp
  have hround := roundUnits_representable Nat.one_pos h
  rw [Nat.mul_one] at hround
  rw [rounded_eq Nat.one_pos hq, hround]

/-- A number that was rounded is not rounded again. -/
theorem rounded_rounded (q : ℚ) : rounded (rounded q) = rounded q := by
  obtain ⟨negative, num, den, hden, hq, -⟩ := exists_fraction q
  rw [rounded_eq hden hq, rounded_units (representable_roundUnits num hden)]

theorem rounded_two_pow (k : ℕ) : rounded (2 ^ k) = 2 ^ k := by
  have hk : (2 ^ k : ℚ) = signedUnits false (2 ^ k * unitsPerOne) / unitsPerOne := by
    rw [eq_div_iff unitsPerOne_cast_pos.ne']
    simp [signedUnits]
  rw [hk, rounded_units (representable_two_pow_ones k)]

/-- The whole numbers up to `2 ^ 53` are binary numbers. -/
theorem rounded_intCast {i : ℤ} (h : |i| ≤ 2 ^ 53) : rounded i = i := by
  rw [Int.abs_eq_natAbs] at h
  rcases Nat.lt_or_ge i.natAbs (2 ^ 53) with hlt | hge
  · have hi : (i : ℚ) = signedUnits (decide (i < 0)) (i.natAbs * unitsPerOne) / unitsPerOne := by
      rw [signedUnits_whole, eq_div_iff unitsPerOne_cast_pos.ne', Int.cast_mul, Int.cast_natCast]
    rw [hi, rounded_units (representable_ones hlt)]
  · have hends : i = 2 ^ 53 ∨ i = -2 ^ 53 := by omega
    have hpower : rounded ((2 ^ 53 : ℤ) : ℚ) = (2 ^ 53 : ℤ) := by exact_mod_cast rounded_two_pow 53
    rcases hends with rfl | rfl
    · exact hpower
    · rw [Int.cast_neg, rounded_neg, hpower]

/-- Whole numbers stay whole: beyond `2 ^ 53` the spacing is a whole number itself. -/
theorem exists_rounded_intCast (i : ℤ) : ∃ j : ℤ, rounded i = j := by
  rcases le_or_gt |i| (2 ^ 53) with h | h
  · exact ⟨i, rounded_intCast h⟩
  · have hq : (i : ℚ) * ((1 : ℕ) * unitsPerOne) =
        signedUnits (decide (i < 0)) (i.natAbs * unitsPerOne) := by
      rw [signedUnits_whole, Nat.cast_one, one_mul, Int.cast_mul, Int.cast_natCast]
    have hdvd : unitsPerOne ∣ roundUnits (i.natAbs * unitsPerOne) 1 := by
      rw [roundUnits_eq]
      refine Nat.dvd_trans ?_ (Nat.dvd_mul_left _ _)
      rw [Nat.div_one]
      rw [Int.abs_eq_natAbs] at h
      have hle : 2 ^ 52 * unitsPerOne ≤ i.natAbs * unitsPerOne := Nat.mul_le_mul_right _ (by omega)
      exact Nat.dvd_trans unitsPerOne_dvd_spacing (spacing_dvd hle)
    obtain ⟨k, hk⟩ := hdvd
    refine ⟨signedUnits (decide (i < 0)) k, ?_⟩
    rw [rounded_eq Nat.one_pos hq, hk, Nat.mul_comm, signedUnits_mul,
      div_eq_iff unitsPerOne_cast_pos.ne', Int.cast_mul, Int.cast_natCast]

/-! ### The error -/

theorem rounded_error_of_nonneg (h : 0 ≤ q) :
    |rounded q - q| ≤ q / 2 ^ 53 + 1 / (2 * unitsPerOne) := by
  obtain ⟨negative, num, den, hden, hq, hsign⟩ := exists_fraction q
  obtain rfl := hsign h
  have hunits := unitsPerOne_cast_pos
  have hpos : (0 : ℚ) < den * unitsPerOne := mul_pos (Nat.cast_pos.2 hden) hunits
  have hnum : q * (den * unitsPerOne) = num := by simpa [signedUnits] using hq
  have hvalue : rounded q * (den * unitsPerOne) = roundUnits num den * den := by
    rw [rounded_eq hden hq]
    simp only [signedUnits, Bool.false_eq_true, ↓reduceIte, Int.cast_natCast]
    field_simp
  have hspacing : (2 ^ 52 * (den * spacing (num / den)) : ℚ) ≤ num + den * 2 ^ 52 := by
    have hnat : 2 ^ 52 * (den * spacing (num / den)) ≤ num + den * 2 ^ 52 :=
      calc 2 ^ 52 * (den * spacing (num / den)) = den * (2 ^ 52 * spacing (num / den)) := by ring
        _ ≤ den * (num / den + 2 ^ 52) := Nat.mul_le_mul_left _ (spacing_le _)
        _ ≤ num + den * 2 ^ 52 := by
          rw [Nat.mul_add]
          exact Nat.add_le_add_right (Nat.mul_div_le num den) _
    exact_mod_cast hnat
  obtain ⟨hupper, hlower⟩ := roundUnits_error num hden
  have hupper' : (2 * (roundUnits num den * den) : ℚ) ≤ 2 * num + den * spacing (num / den) := by
    exact_mod_cast hupper
  have hlower' : (2 * num : ℚ) ≤ 2 * (roundUnits num den * den) + den * spacing (num / den) := by
    exact_mod_cast hlower
  -- both sides counted in parts of `den` units
  have hbound : (q / 2 ^ 53 + 1 / (2 * unitsPerOne)) * (den * unitsPerOne) = num / 2 ^ 53 + den / 2 := by
    rw [add_mul, div_mul_eq_mul_div, hnum]
    field_simp
  refine le_of_mul_le_mul_right ?_ hpos
  rw [← abs_of_pos hpos, ← abs_mul, abs_of_pos hpos, sub_mul, hvalue, hnum, hbound, abs_le]
  constructor <;> linarith

theorem rounded_error (q : ℚ) : |rounded q - q| ≤ |q| / 2 ^ 53 + 1 / (2 * unitsPerOne) := by
  rcases le_total 0 q with h | h
  · rw [abs_of_nonneg h]
    exact rounded_error_of_nonneg h
  · have hneg := rounded_error_of_nonneg (neg_nonneg.2 h)
    rwa [rounded_neg, neg_sub_neg, abs_sub_comm, ← abs_of_nonpos h] at hneg

theorem rounded_error_le (hb : 1 ≤ b) (h : |q| ≤ b) : |rounded q - q| ≤ b / 2 ^ 52 := by
  have hunits : (2 ^ 52 : ℚ) ≤ unitsPerOne := by exact_mod_cast two_pow_le_unitsPerOne
  have hsmall : 1 / (2 * unitsPerOne : ℚ) ≤ 1 / 2 ^ 53 :=
    one_div_le_one_div_of_le (by positivity) (by linarith)
  have herror := rounded_error q
  linarith

/-! ### Overflow -/

/-- The number nearest to `q` is not too large to be finite. -/
def InRange (q : ℚ) : Prop := |rounded q| * unitsPerOne < unitsLimit

theorem abs_rounded_le {k : ℕ} (h : |q| ≤ 2 ^ k) : |rounded q| ≤ 2 ^ k := by
  rw [abs_rounded, ← rounded_two_pow k]
  exact rounded_mono h

theorem inRange_of_abs_le {k : ℕ} (hk : k < 1024) (h : |q| ≤ 2 ^ k) : InRange q := by
  have hle := abs_rounded_le h
  have hlimit : (2 ^ k * unitsPerOne : ℚ) < unitsLimit := by exact_mod_cast two_pow_lt_unitsLimit hk
  exact (mul_le_mul_of_nonneg_right hle unitsPerOne_cast_pos.le).trans_lt hlimit

/-- A result that is divided by a number that is not less than one does not become too large. -/
theorem InRange.rounded_div (h : InRange q) (hb : 1 ≤ b) : InRange (rounded q / b) := by
  refine lt_of_le_of_lt (mul_le_mul_of_nonneg_right ?_ unitsPerOne_cast_pos.le) h
  have hle : |rounded q / b| ≤ |rounded q| := by
    rw [abs_div, abs_of_pos (one_pos.trans_le hb)]
    exact div_le_self (abs_nonneg _) hb
  calc |rounded (rounded q / b)| = rounded |rounded q / b| := abs_rounded _
    _ ≤ rounded |rounded q| := rounded_mono hle
    _ = |rounded q| := by rw [← abs_rounded, rounded_rounded]

/-- A number that is too large is larger than each power of two below the limit. -/
theorem two_pow_le_of_not_inRange {k : ℕ} (hk : k < 1024) (h : ¬InRange q) : 2 ^ k ≤ |rounded q| := by
  by_contra hlt
  refine h ((mul_lt_mul_of_pos_right (not_le.1 hlt) unitsPerOne_cast_pos).trans_le ?_)
  exact_mod_cast (two_pow_lt_unitsLimit hk).le

end CoverControl.Binary64
