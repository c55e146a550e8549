import CoverControl.Proofs.Scale.Nearest

/-!
# Exact halves

The exact percentage of a raw value (`exactPercent`) becomes whole by rounding to the nearest whole
number, a half going away from zero. Between bounds of 31 bits that is what a scale reads, but for some
exact halves: the part of the range is rounded before it is multiplied by 100, and where the product
comes out below the half, it goes to the percentage below (`percent_exact_iff`).

If the exact percentage is no half, the percentage that is read is the only one within a half of it.
At a half, the part of the range is an odd number of two hundredths, whatever the bounds are. So a
hundred computations tell which halves are read too small (`sunkenHalves`).
-/

namespace CoverControl.Scale

open Binary64

seal unitsPerOne unitsLimit

variable {l u r : ℤ} {k : ℕ}

/-- The percentage of a raw value above the lower bound, as a rational number. -/
def exactPercent (l u r : ℤ) : ℚ := 100 * (r - l) / (u - l)

/-- The percentages `k` for which `k + 1 / 2` is read as `k`. -/
def sunkenHalves : List ℕ := [14, 28, 56, 57]

/-! ### The hundred halves -/

/-- The part of the range, then the percentage, then the whole percentage, all counted in units. -/
theorem roundUnits_of_half : ∀ k : ℕ, k < 100 →
    (2 * roundUnits (100 * roundUnits ((2 * k + 1) * unitsPerOne) 200) 1 + unitsPerOne) /
      (2 * unitsPerOne) = if k ∈ sunkenHalves then k else k + 1 := by decide +kernel

theorem rounded_of_half (hk : k < 100) :
    roundAway (rounded (rounded ((2 * k + 1) / 200) * 100)) = if k ∈ sunkenHalves then k else k + 1 := by
  have hunits := unitsPerOne_cast_pos.ne'
  have hpart : rounded ((2 * k + 1) / 200) = signedUnits false
      (roundUnits ((2 * k + 1) * unitsPerOne) 200) / unitsPerOne :=
    rounded_eq (by decide) (by simp [signedUnits]; ring)
  have hproduct : rounded (rounded ((2 * k + 1) / 200) * 100) = signedUnits false
      (roundUnits (100 * roundUnits ((2 * k + 1) * unitsPerOne) 200) 1) / unitsPerOne :=
    rounded_eq (by decide) (by rw [hpart]; simp [signedUnits]; field_simp)
  rw [hproduct, roundAway_signedUnits, roundUnits_of_half k hk]
  split <;> simp [signedUnits]

/-! ### Every range -/

theorem exactPercent_eq (l u r : ℤ) : exactPercent l u r = (r - l) / (u - l) * 100 := by
  rw [exactPercent]; ring

theorem Short.exactPercent_bounds (h : Short l u) (hlow : l ≤ r) (hhigh : r ≤ u) :
    0 ≤ exactPercent l u r ∧ exactPercent l u r ≤ 100 := by
  obtain ⟨hnonneg, hle⟩ := h.fraction_bounds hlow hhigh
  rw [exactPercent_eq]
  constructor <;> linarith

theorem Short.reading_of_half (h : Short l u) (hlow : l ≤ r) (hhigh : r ≤ u)
    (hhalf : exactPercent l u r = k + 1 / 2) :
    roundAway (reading l u r) = if k ∈ sunkenHalves then k else k + 1 := by
  have hk : k < 100 := by
    have hle := (h.exactPercent_bounds hlow hhigh).2
    rw [hhalf] at hle
    exact_mod_cast (by linarith : (k : ℚ) < 100)
  rw [exactPercent_eq] at hhalf
  rw [h.reading_eq hlow hhigh, show (r - l : ℚ) / (u - l) = (2 * k + 1) / 200 by linarith]
  exact rounded_of_half hk

theorem Short.abs_reading_sub_le (h : Short l u) (hlow : l ≤ r) (hhigh : r ≤ u) :
    |roundAway (reading l u r) - exactPercent l u r| ≤ 1 / 2 := by
  have hspan : (0 : ℚ) < u - l := one_pos.trans_le h.span_bounds.1
  have hpos : (0 : ℚ) < 2 * (u - l) := by linarith
  have hnear : |(2 * (u - l) * roundAway (reading l u r) - 200 * (r - l) : ℚ)| ≤ u - l := by
    exact_mod_cast h.read_nearest hlow hhigh
  have hscaled : 2 * (u - l) * (roundAway (reading l u r) - exactPercent l u r) =
      2 * (u - l) * roundAway (reading l u r) - 200 * (r - l) := by
    rw [exactPercent]
    field_simp
    ring
  refine le_of_mul_le_mul_left ?_ hpos
  rw [← abs_of_pos hpos, ← abs_mul, abs_of_pos hpos, hscaled]
  linarith

/-- A number that is half away from a whole number is a half above a whole number. -/
theorem exists_half {q : ℚ} {n : ℤ} (hq : 0 ≤ q) (h : |n - q| = 1 / 2) : ∃ k : ℕ, q = k + 1 / 2 := by
  obtain ⟨i, hi⟩ : ∃ i : ℤ, q = i + 1 / 2 := by
    rcases (abs_eq (by norm_num)).1 h with h | h
    · exact ⟨n - 1, by push_cast; linarith⟩
    · exact ⟨n, by linarith⟩
  have hlow : (-1 : ℚ) < i := by linarith
  have hlow' : -1 < i := by exact_mod_cast hlow
  obtain ⟨k, rfl⟩ := Int.eq_ofNat_of_zero_le (show 0 ≤ i by omega)
  exact ⟨k, hi⟩

/-- What is no half has one nearest whole number, and that is read. -/
theorem Short.reading_of_not_half (h : Short l u) (hlow : l ≤ r) (hhigh : r ≤ u)
    (hhalf : ∀ k : ℕ, exactPercent l u r ≠ k + 1 / 2) :
    roundAway (reading l u r) = roundAway (exactPercent l u r) := by
  have hnonneg := (h.exactPercent_bounds hlow hhigh).1
  have hnear : |roundAway (reading l u r) - exactPercent l u r| < 1 / 2 :=
    (h.abs_reading_sub_le hlow hhigh).lt_of_ne fun hfar =>
      let ⟨k, hk⟩ := exists_half hnonneg hfar
      hhalf k hk
  exact (roundAway_eq (by rwa [abs_sub_comm])).symm

theorem roundAway_half (k : ℕ) : roundAway (k + 1 / 2) = k + 1 := by
  have hnonneg : (0 : ℚ) ≤ k := Nat.cast_nonneg k
  rw [roundAway, if_neg (by linarith), add_assoc, Int.floor_natCast_add]
  norm_num

/-- What is read is the exact percentage made whole, unless that is one of four halves: then it is the
percentage below. -/
theorem Short.reading_eq_iff (h : Short l u) (hlow : l ≤ r) (hhigh : r ≤ u) :
    roundAway (reading l u r) = roundAway (exactPercent l u r) ↔
      ∀ k ∈ sunkenHalves, exactPercent l u r ≠ k + 1 / 2 := by
  by_cases hhalf : ∃ k : ℕ, exactPercent l u r = k + 1 / 2
  · obtain ⟨k, hk⟩ := hhalf
    have hsame : ∀ k' : ℕ, (k : ℚ) + 1 / 2 = k' + 1 / 2 ↔ k = k' := fun k' => by
      rw [add_left_inj, Nat.cast_inj]
    rw [h.reading_of_half hlow hhigh hk, hk, roundAway_half]
    simp only [ne_eq, hsame]
    split
    · rename_i hsunken
      exact ⟨fun heq => by omega, fun hne => absurd rfl (hne k hsunken)⟩
    · rename_i hkept
      exact ⟨fun _ k' hk' heq => hkept (heq ▸ hk'), fun _ => rfl⟩
  · rw [not_exists] at hhalf
    exact ⟨fun _ k _ => hhalf k, fun _ => h.reading_of_not_half hlow hhigh hhalf⟩

/-- A percentage is the one counted from the lower bound, or its mirror image. -/
theorem value_orient (scale : Scale) (p : Percent) :
    (p.value : ℤ) =
      if scale.inverted then 100 - ((scale.orient p).value : ℤ) else (scale.orient p).value := by
  have hp := p.value_le
  unfold orient
  split
  · simp only [Percent.inverted]
    omega
  · rfl

/-- For every range of 31-bit bounds: a raw value in the range is read as its exact percentage made
whole, or as the mirror image of that, unless the exact percentage is one of four halves, which are read
as if they were less. -/
theorem percent_exact_iff {a b : ℤ} (axis : String) (inverted : Bool) (ha : |a| ≤ 2 ^ 31)
    (hb : |b| ≤ 2 ^ 31) (hne : a ≠ b) :
    ∃ scale, ofBounds axis (ofInt a) (ofInt b) inverted = .ok scale ∧
      ∀ r q, min a b ≤ r → r ≤ max a b → q = exactPercent (min a b) (max a b) r →
        (((scale.percent (ofInt r)).value : ℤ) =
            (if inverted then 100 - roundAway q else roundAway q) ↔
          ∀ k ∈ sunkenHalves, q ≠ k + 1 / 2) ∧
        ∀ k ∈ sunkenHalves, q = k + 1 / 2 →
          ((scale.percent (ofInt r)).value : ℤ) = if inverted then 100 - (k : ℤ) else k := by
  obtain ⟨scale, hscale, rfl, hspans, hshort⟩ := exists_short_scale axis inverted ha hb hne
  refine ⟨scale, hscale, fun r q hlow hhigh hq => ?_⟩
  subst hq
  have hvalue := hspans.percent_value (hshort.holds_ofInt hlow hhigh)
  rw [value_orient scale (scale.percent (ofInt r)), hvalue]
  refine ⟨?_, fun k hk hhalf => ?_⟩
  · rw [← hshort.reading_eq_iff hlow hhigh]
    split <;> omega
  · rw [hshort.reading_of_half hlow hhigh hhalf, if_pos hk]

/-- Slats between -100 and 100 that are mounted the other way round: 28.5 is read as 28 and mirrored,
while 15.5 is read as 16. -/
theorem percent_exact_iff_slats :
    |(100 : ℤ)| ≤ 2 ^ 31 ∧ |(-100 : ℤ)| ≤ 2 ^ 31 ∧ (100 : ℤ) ≠ -100 ∧
    exactPercent (-100) 100 (-43) = (28 : ℕ) + 1 / 2 ∧ roundAway (exactPercent (-100) 100 (-69)) = 16 ∧
    ∃ scale, ofBounds "tilt" (ofInt 100) (ofInt (-100)) true = .ok scale ∧
      ((scale.percent (ofInt (-43))).value : ℤ) = 100 - 28 ∧
      ((scale.percent (ofInt (-69))).value : ℤ) = 100 - 16 := by
  have hsunken : exactPercent (-100) 100 (-43) = (28 : ℕ) + 1 / 2 := by norm_num [exactPercent]
  have hkept : exactPercent (-100) 100 (-69) = (15 : ℕ) + 1 / 2 := by norm_num [exactPercent]
  have hwhole : roundAway (exactPercent (-100) 100 (-69)) = 16 := by rw [hkept, roundAway_half]; rfl
  obtain ⟨scale, hscale, hread⟩ := percent_exact_iff (a := 100) (b := -100) "tilt" true (by decide)
    (by decide) (by decide)
  refine ⟨by decide, by decide, by decide, hsunken, hwhole, scale, hscale, ?_, ?_⟩
  · exact (hread (-43) _ (by decide) (by decide) rfl).2 28 (by decide) hsunken
  · have hnot : ∀ k ∈ sunkenHalves, exactPercent (-100) 100 (-69) ≠ k + 1 / 2 := by
      intro k hk heq
      rw [hkept, add_left_inj, Nat.cast_inj] at heq
      exact absurd (heq ▸ hk) (by decide)
    have hvalue := (hread (-69) _ (by decide) (by decide) rfl).1.2 hnot
    rwa [if_pos rfl, show roundAway (exactPercent (min 100 (-100)) (max 100 (-100)) (-69)) = 16
      from hwhole] at hvalue

/-- Between 0 and 200, the raw value 29 is exactly 14.5 percent and is read as 14. -/
theorem half_read_down : ∃ scale, ofBounds "range" (ofInt 0) (ofInt 200) false = .ok scale ∧
    (scale.percent (ofInt 29)).value = 14 ∧ exactPercent 0 200 29 = 14 + 1 / 2 ∧
    roundAway (exactPercent 0 200 29) = 15 := by
  refine ⟨⟨ofInt 0, ofInt 200, false⟩, by decide +kernel, by decide +kernel, by norm_num [exactPercent], ?_⟩
  norm_num [exactPercent, roundAway]

end CoverControl.Scale
