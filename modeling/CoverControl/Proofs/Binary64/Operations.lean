import CoverControl.Proofs.Binary64.Rounded

/-!
# Operations on binary numbers

A finite binary number stands for a rational number (`Holds`), and an operation on binary numbers is
the operation on rational numbers followed by one rounding, unless it overflows. So a computation is
followed step by step: one lemma an operation tells what its result holds, and the rest is arithmetic
on rational numbers.
-/

namespace CoverControl.Binary64

seal unitsPerOne unitsLimit

/-- `x` is finite and stands for the number `q`. -/
def Holds (x : Binary64) (q : ℚ) : Prop :=
  ∃ negative units, x = .finite negative units ∧ q = signedUnits negative units / unitsPerOne

variable {x y : Binary64} {a b q : ℚ} {negative : Bool} {units num den : Nat}

theorem Holds.unique (h : Holds x a) (h' : Holds x b) : a = b := by
  obtain ⟨s, u, rfl, rfl⟩ := h
  obtain ⟨t, v, heq, rfl⟩ := h'
  cases heq; rfl

theorem exists_holds (h : x.isFinite = true) : ∃ q, x.Holds q := by
  cases x with
  | finite negative units => exact ⟨_, negative, units, rfl, rfl⟩
  | nan => cases h
  | infinite negative => cases h

/-! ### Arithmetic -/

theorem inRange_iff (hden : 0 < den) (hq : q * (den * unitsPerOne) = signedUnits negative num) :
    InRange q ↔ roundUnits num den < unitsLimit := by
  have hunits := unitsPerOne_cast_pos
  rw [InRange, rounded_eq hden hq, abs_div, abs_of_pos hunits, div_mul_cancel₀ _ hunits.ne',
    ← Int.cast_abs, Int.abs_eq_natAbs, natAbs_signedUnits, Int.cast_natCast, Nat.cast_lt]

/-- The numbers that round to a finite one lie below the halfway point to the first power of two that is
infinite. -/
theorem inRange_iff_abs_lt : InRange q ↔ |q| < 2 ^ 1024 - 2 ^ 970 := by
  obtain ⟨negative, num, den, hden, hq, -⟩ := exists_fraction q
  have hpos : (0 : ℚ) < den * unitsPerOne := mul_pos (Nat.cast_pos.2 hden) unitsPerOne_cast_pos
  have hnum : |q| * (den * unitsPerOne) = num := by
    rw [← abs_of_pos hpos, ← abs_mul, hq, ← Int.cast_abs, Int.abs_eq_natAbs, natAbs_signedUnits,
      Int.cast_natCast]
  have hpoint : (2 ^ 1024 - 2 ^ 970 : ℚ) * (den * unitsPerOne) =
      ((2 ^ 54 - 1) * (2 ^ 970 * unitsPerOne) * den : ℕ) := by
    have hpow : (2 ^ 1024 : ℚ) = 2 ^ 54 * 2 ^ 970 := pow_add 2 54 970
    rw [hpow, Nat.cast_mul, Nat.cast_mul, Nat.cast_mul, Nat.cast_pow, Nat.cast_sub (by decide)]
    generalize (2 ^ 970 : ℚ) = half
    push_cast
    ring
  rw [inRange_iff hden hq, roundUnits_lt_unitsLimit_iff hden, ← mul_lt_mul_iff_left₀ hpos, hnum, hpoint,
    Nat.cast_lt]

theorem holds_ofQuotient (hden : 0 < den) (hq : q * (den * unitsPerOne) = signedUnits negative num)
    (hrange : InRange q) : Holds (ofQuotient negative num den) (rounded q) := by
  rw [ofQuotient_eq, if_pos ((inRange_iff hden hq).1 hrange)]
  exact ⟨negative, _, rfl, rounded_eq hden hq⟩

theorem holds_zero : Holds zero 0 := ⟨false, 0, rfl, by simp [signedUnits]⟩

theorem holds_ofInt {i : ℤ} (hrange : InRange i) : Holds (ofInt i) (rounded i) := by
  refine holds_ofQuotient Nat.one_pos ?_ hrange
  rw [signedUnits_whole, Nat.cast_one, one_mul, Int.cast_mul, Int.cast_natCast]

theorem holds_intCast {i : ℤ} (h : |i| ≤ 2 ^ 53) : Holds (ofInt i) i := by
  have hrange : InRange (i : ℚ) := inRange_of_abs_le (k := 53) (by decide) (by exact_mod_cast h)
  have hi := holds_ofInt hrange
  rwa [rounded_intCast h] at hi

theorem holds_one : Holds one 1 := by exact_mod_cast holds_intCast (i := 1) (by decide)

theorem holds_hundred : Holds hundred 100 := by exact_mod_cast holds_intCast (i := 100) (by decide)

theorem Holds.neg (h : Holds x a) : Holds x.neg (-a) := by
  obtain ⟨s, u, rfl, rfl⟩ := h
  refine ⟨!s, u, rfl, ?_⟩
  cases s <;> simp [signedUnits, neg_div]

/-- A sum of two numbers, counted in units. -/
theorem sum_units (s t : Bool) (u v : Nat) :
    (signedUnits s u / unitsPerOne + signedUnits t v / unitsPerOne : ℚ) * ((1 : ℕ) * unitsPerOne) =
      (signedUnits s u + signedUnits t v : ℤ) := by
  have hunits := unitsPerOne_cast_pos.ne'
  push_cast
  field_simp

theorem Holds.add (hx : Holds x a) (hy : Holds y b) (hrange : InRange (a + b)) :
    Holds (x.add y) (rounded (a + b)) := by
  obtain ⟨s, u, rfl, rfl⟩ := hx
  obtain ⟨t, v, rfl, rfl⟩ := hy
  have hunits := unitsPerOne_cast_pos.ne'
  have hsum := sum_units s t u v
  simp only [add]
  split
  · rename_i hzero
    refine ⟨s && t, 0, rfl, ?_⟩
    have hz : (signedUnits s u / unitsPerOne + signedUnits t v / unitsPerOne : ℚ) = 0 := by
      rw [hzero] at hsum
      simpa [hunits] using hsum
    rw [hz, rounded_zero]
    simp [signedUnits]
  · exact holds_ofQuotient Nat.one_pos (by rw [hsum, signedUnits_natAbs]) hrange

/-- A sum that is too large for a finite number is infinite. -/
theorem Holds.add_of_not_inRange (hx : Holds x a) (hy : Holds y b) (hrange : ¬InRange (a + b)) :
    x.add y = .infinite (decide (a + b < 0)) := by
  obtain ⟨s, u, rfl, rfl⟩ := hx
  obtain ⟨t, v, rfl, rfl⟩ := hy
  have hsum := sum_units s t u v
  have hunits : (0 : ℚ) < (1 : ℕ) * unitsPerOne := by simpa using unitsPerOne_cast_pos
  generalize (signedUnits s u / unitsPerOne + signedUnits t v / unitsPerOne : ℚ) = q at hsum hrange ⊢
  have hsign : signedUnits s u + signedUnits t v < 0 ↔ q < 0 := by
    rw [← Int.cast_lt (R := ℚ), ← hsum, Int.cast_zero, Rat.mul_neg_iff_of_pos_right hunits]
  have hne : signedUnits s u + signedUnits t v ≠ 0 := by
    intro hzero
    rw [hzero, Int.cast_zero, mul_eq_zero_iff_right hunits.ne'] at hsum
    exact hrange (hsum ▸ inRange_of_abs_le (k := 0) (by decide) (by norm_num))
  rw [inRange_iff Nat.one_pos (by rw [hsum, signedUnits_natAbs])] at hrange
  simp only [Binary64.add, if_neg hne, ofQuotient_eq, if_neg hrange, hsign]

theorem Holds.sub (hx : Holds x a) (hy : Holds y b) (hrange : InRange (a - b)) :
    Holds (x.sub y) (rounded (a - b)) := by
  rw [sub_eq_add_neg] at hrange ⊢
  exact hx.add hy.neg hrange

theorem Holds.sub_of_not_inRange (hx : Holds x a) (hy : Holds y b) (hrange : ¬InRange (a - b)) :
    x.sub y = .infinite (decide (a - b < 0)) := by
  rw [sub_eq_add_neg] at hrange ⊢
  exact hx.add_of_not_inRange hy.neg hrange

theorem Holds.mul (hx : Holds x a) (hy : Holds y b) (hrange : InRange (a * b)) :
    Holds (x.mul y) (rounded (a * b)) := by
  obtain ⟨s, u, rfl, rfl⟩ := hx
  obtain ⟨t, v, rfl, rfl⟩ := hy
  have hunits := unitsPerOne_cast_pos.ne'
  refine holds_ofQuotient unitsPerOne_pos ?_ hrange
  rw [signedUnits_xor]
  push_cast
  field_simp

theorem Holds.div (hx : Holds x a) (hy : Holds y b) (hb : b ≠ 0) (hrange : InRange (a / b)) :
    Holds (x.div y) (rounded (a / b)) := by
  obtain ⟨s, u, rfl, rfl⟩ := hx
  obtain ⟨t, v, rfl, rfl⟩ := hy
  have hunits := unitsPerOne_cast_pos.ne'
  have hv : v ≠ 0 := by
    rintro rfl
    simp [signedUnits] at hb
  simp only [div, if_neg hv]
  refine holds_ofQuotient (Nat.pos_of_ne_zero hv) ?_ hrange
  have hvq : (v : ℚ) ≠ 0 := Nat.cast_ne_zero.2 hv
  cases s <;> cases t <;> simp [signedUnits] <;> field_simp

theorem Holds.infinite_div (hy : Holds y b) (hb : 0 < b) (negative : Bool) :
    (infinite negative).div y = infinite negative := by
  obtain ⟨t, v, rfl, rfl⟩ := hy
  cases t with
  | false => cases negative <;> rfl
  | true =>
    have hneg : (signedUnits true v / unitsPerOne : ℚ) ≤ 0 :=
      div_nonpos_of_nonpos_of_nonneg (by simp [signedUnits]) unitsPerOne_cast_pos.le
    linarith

/-! ### Comparison -/

theorem Holds.lt_iff (hx : Holds x a) (hy : Holds y b) : x.lt y = true ↔ a < b := by
  obtain ⟨s, u, rfl, rfl⟩ := hx
  obtain ⟨t, v, rfl, rfl⟩ := hy
  rw [div_lt_div_iff_of_pos_right unitsPerOne_cast_pos, Int.cast_lt]
  simp [lt, orderKey]

/-- The numeric order with equality: false as soon as one side is NaN. -/
def le (x y : Binary64) : Bool := x.lt y || x.eq y

theorem Holds.eq_iff (hx : Holds x a) (hy : Holds y b) : x.eq y = true ↔ a = b := by
  obtain ⟨s, u, rfl, rfl⟩ := hx
  obtain ⟨t, v, rfl, rfl⟩ := hy
  rw [div_left_inj' unitsPerOne_cast_pos.ne', Int.cast_inj]
  simp [eq, orderKey]

theorem Holds.le_iff (hx : Holds x a) (hy : Holds y b) : x.le y = true ↔ a ≤ b := by
  rw [le, Bool.or_eq_true, hx.lt_iff hy, hx.eq_iff hy, le_iff_lt_or_eq]

theorem Holds.not_isNaN (hx : Holds x a) : x.isNaN = false := by
  obtain ⟨s, u, rfl, -⟩ := hx; rfl

theorem exists_orderKey (h : x.isNaN = false) : ∃ key, x.orderKey = some key := by
  cases x with
  | nan => cases h
  | infinite negative => exact ⟨_, rfl⟩
  | finite negative units => exact ⟨_, rfl⟩

theorem lt_asymm (h : x.lt y = true) : y.lt x = false := by
  unfold lt at h ⊢
  split at h
  · rename_i key key' hkey hkey'
    rw [hkey, hkey']
    exact decide_eq_false (of_decide_eq_true h).not_gt
  · cases h

theorem lt_self (x : Binary64) : x.lt x = false := by
  cases h : x.lt x with
  | false => rfl
  | true => rw [← h, lt_asymm h]

theorem eq_nan_of_isNaN (h : x.isNaN = true) : x = nan := by
  cases x with
  | nan => rfl
  | infinite negative => cases h
  | finite negative units => cases h

/-- NaN equals nothing. -/
theorem eq_of_isNaN (h : x.isNaN = true ∨ y.isNaN = true) : x.eq y = false := by
  rcases h with h | h <;> rw [eq_nan_of_isNaN h]
  · rfl
  · cases x <;> rfl

theorem min_eq_max_of_isNaN (h : x.isNaN = true ∨ y.isNaN = true) : x.min y = x.max y := by
  rcases h with h | h <;> simp [Binary64.min, Binary64.max, h]

/-- Numbers that are not equal are in order, unless one of them is NaN. -/
theorem lt_or_gt (hx : x.isNaN = false) (hy : y.isNaN = false) (h : x.eq y = false) :
    x.lt y = true ∨ y.lt x = true := by
  obtain ⟨key, hkey⟩ := exists_orderKey hx
  obtain ⟨key', hkey'⟩ := exists_orderKey hy
  simp only [eq, hkey, hkey', beq_eq_false_iff_ne] at h
  simp only [lt, hkey, hkey', decide_eq_true_eq]
  exact lt_or_gt_of_ne h

/-- The smaller and the larger one of two different numbers, unless one of them is NaN. -/
theorem min_lt_max (hx : x.isNaN = false) (hy : y.isNaN = false) (h : x.eq y = false) :
    (x.min y).lt (x.max y) = true := by
  rcases lt_or_gt hx hy h with hlt | hgt
  · simp [Binary64.min, Binary64.max, hx, hy, hlt, lt_asymm hlt]
  · simp [Binary64.min, Binary64.max, hx, hy, hgt, lt_asymm hgt]

theorem Holds.min (hx : Holds x a) (hy : Holds y b) : Holds (x.min y) (a ⊓ b) := by
  simp only [Binary64.min, hx.not_isNaN, hy.not_isNaN, Bool.false_eq_true, ↓reduceIte, hy.lt_iff hx]
  split
  · rwa [min_eq_right (le_of_lt ‹_›)]
  · rwa [min_eq_left (not_lt.1 ‹_›)]

theorem Holds.max (hx : Holds x a) (hy : Holds y b) : Holds (x.max y) (a ⊔ b) := by
  simp only [Binary64.max, hx.not_isNaN, hy.not_isNaN, Bool.false_eq_true, ↓reduceIte, hx.lt_iff hy]
  split
  · rwa [max_eq_right (le_of_lt ‹_›)]
  · rwa [max_eq_left (not_lt.1 ‹_›)]

theorem Holds.clamp {low high : Binary64} {l h : ℚ} (hx : Holds x a) (hlow : Holds low l)
    (hhigh : Holds high h) (hle : l ≤ h) : Holds (x.clamp low high) (l ⊔ a ⊓ h) := by
  simp only [Binary64.clamp, hx.lt_iff hlow, hhigh.lt_iff hx]
  split
  · rwa [max_eq_left (min_le_of_left_le (le_of_lt ‹_›))]
  · have hla : l ≤ a := not_lt.1 ‹_›
    split
    · rwa [min_eq_right (le_of_lt ‹_›), max_eq_right hle]
    · rwa [min_eq_left (not_lt.1 ‹_›), max_eq_right hla]

/-- An infinity that is moved into the unit interval becomes its end. -/
theorem holds_clamp_infinite (negative : Bool) :
    Holds ((infinite negative).clamp zero one) (if negative then 0 else 1) := by
  have hlimit : unitsPerOne < unitsLimit := by simpa using two_pow_lt_unitsLimit (k := 0) (by decide)
  have hpos := unitsPerOne_pos
  cases negative with
  | true =>
    have hbelow : (infinite true).lt zero = true := by
      simp [lt, orderKey, signedUnits, zero]
      omega
    simpa [clamp, hbelow] using holds_zero
  | false =>
    have hnot : (infinite false).lt zero = false := by
      simp [lt, orderKey, signedUnits, zero]
    have habove : one.lt (infinite false) = true := by
      obtain ⟨s, u, hone, hvalue⟩ := holds_one
      rw [eq_div_iff unitsPerOne_cast_pos.ne', one_mul] at hvalue
      have hunits : signedUnits s u = unitsPerOne := by exact_mod_cast hvalue.symm
      rw [hone]
      simp [lt, orderKey, hunits]
      simpa [signedUnits] using hlimit
    simpa [clamp, hnot, habove] using holds_one

/-! ### Whole numbers -/

/-- The nearest whole number, a half going away from zero. -/
def roundAway (q : ℚ) : ℤ := if q < 0 then -⌊-q + 1 / 2⌋ else ⌊q + 1 / 2⌋

theorem abs_roundAway_sub_le (q : ℚ) : |roundAway q - q| ≤ 1 / 2 := by
  unfold roundAway
  split
  · have hle := Int.floor_le (-q + 1 / 2)
    have hlt := Int.lt_floor_add_one (-q + 1 / 2)
    rw [Int.cast_neg, abs_le]
    constructor <;> linarith
  · have hle := Int.floor_le (q + 1 / 2)
    have hlt := Int.lt_floor_add_one (q + 1 / 2)
    rw [abs_le]
    constructor <;> linarith

theorem roundAway_eq {n : ℤ} (h : |q - n| < 1 / 2) : roundAway q = n := by
  have hnear := abs_roundAway_sub_le q
  have hclose : |(roundAway q - n : ℚ)| < 1 := by
    have h' := abs_add_le (roundAway q - q) (q - n)
    rw [sub_add_sub_cancel] at h'
    linarith
  have hint : |roundAway q - n| < 1 := by exact_mod_cast hclose
  have hzero := Int.abs_lt_one_iff.1 hint
  omega

theorem roundAway_mono (h : a ≤ b) : roundAway a ≤ roundAway b := by
  unfold roundAway
  split
  · split
    · have hle : ⌊-b + 1 / 2⌋ ≤ ⌊-a + 1 / 2⌋ := Int.floor_le_floor (by linarith)
      omega
    · have hle : 0 ≤ ⌊-a + 1 / 2⌋ := Int.floor_nonneg.2 (by linarith)
      have hle' : 0 ≤ ⌊b + 1 / 2⌋ := Int.floor_nonneg.2 (by linarith)
      omega
  · rw [if_neg (by linarith)]
    exact Int.floor_le_floor (by linarith)

theorem roundAway_intCast (n : ℤ) : roundAway n = n := roundAway_eq (by simp)

theorem roundAway_signedUnits : roundAway (signedUnits negative units / unitsPerOne) =
    signedUnits negative ((2 * units + unitsPerOne) / (2 * unitsPerOne)) := by
  have hunits := unitsPerOne_cast_pos
  have hfloor : ⌊(units / unitsPerOne + 1 / 2 : ℚ)⌋ =
      ((2 * units + unitsPerOne) / (2 * unitsPerOne) : ℕ) := by
    rw [show (units / unitsPerOne + 1 / 2 : ℚ) =
      ((2 * units + unitsPerOne : ℕ) : ℚ) / ((2 * unitsPerOne : ℕ) : ℚ) by push_cast; field_simp]
    rw [Rat.floor_natCast_div_natCast]
    rfl
  have hnonneg : (0 : ℚ) ≤ units / unitsPerOne := div_nonneg (Nat.cast_nonneg _) hunits.le
  cases negative with
  | false =>
    simp only [signedUnits, Bool.false_eq_true, ↓reduceIte, Int.cast_natCast]
    rw [roundAway, if_neg (not_lt.2 hnonneg), hfloor]
  | true =>
    simp only [signedUnits, ↓reduceIte, Int.cast_neg, Int.cast_natCast, neg_div]
    rcases hnonneg.eq_or_lt with hzero | hpos
    · have hhalf : ⌊(0 + 1 / 2 : ℚ)⌋ = 0 := by norm_num
      rw [← hzero, hhalf] at hfloor
      rw [← hzero, neg_zero, ← hfloor, neg_zero]
      exact roundAway_intCast 0
    · rw [roundAway, if_pos (neg_lt_zero.2 hpos), neg_neg, hfloor]

theorem Holds.round (h : Holds x a) : Holds x.round (roundAway a) := by
  obtain ⟨s, u, rfl, rfl⟩ := h
  refine ⟨s, _, rfl, ?_⟩
  rw [roundAway_signedUnits]
  have hunits := unitsPerOne_cast_pos.ne'
  cases s <;> simp [signedUnits] <;> field_simp

theorem truncate_eq {i : ℤ} (h : i * unitsPerOne = signedUnits negative units) :
    truncate negative units = i := by
  have hunits : (unitsPerOne : ℤ) ≠ 0 := Int.natCast_ne_zero.2 unitsPerOne_pos.ne'
  have habs : i.natAbs * unitsPerOne = units := by
    have hnat := congrArg Int.natAbs h
    rwa [Int.natAbs_mul, Int.natAbs_natCast, natAbs_signedUnits] at hnat
  have hdiv : units / unitsPerOne = i.natAbs := by rw [← habs, Nat.mul_div_cancel _ unitsPerOne_pos]
  refine Int.eq_of_mul_eq_mul_right hunits ?_
  rw [truncate, hdiv, h, ← habs, signedUnits_mul]

theorem Holds.toNat {n : ℕ} (h : Holds x n) : x.toNat = n := by
  obtain ⟨s, u, rfl, hn⟩ := h
  rw [eq_div_iff unitsPerOne_cast_pos.ne'] at hn
  have hwhole : truncate s u = n := truncate_eq (by exact_mod_cast hn)
  cases s with
  | false => exact Int.ofNat_inj.1 hwhole
  | true =>
    simp only [truncate, signedUnits, ↓reduceIte] at hwhole
    show 0 = n
    generalize u / unitsPerOne = whole at hwhole
    omega

/-- The sign of a zero does not show in an integer. -/
theorem Holds.toInt64_congr (hx : Holds x q) (hy : Holds y q) : x.toInt64 = y.toInt64 := by
  obtain ⟨s, u, rfl, hu⟩ := hx
  obtain ⟨t, v, rfl, hv⟩ := hy
  rw [hu, div_left_inj' unitsPerOne_cast_pos.ne', Int.cast_inj] at hv
  obtain rfl : u = v := by simpa only [natAbs_signedUnits] using congrArg Int.natAbs hv
  have hwhole : truncate s u = truncate t u := by
    by_cases hsign : s = t
    · rw [hsign]
    · have hzero : u = 0 := by cases s <;> cases t <;> simp [signedUnits] at hsign hv <;> omega
      cases s <;> cases t <;> simp [truncate, signedUnits, hzero]
  simp only [Binary64.toInt64, hwhole]

theorem Holds.toInt64 {i : ℤ} (h : Holds x i) (hlow : -2 ^ 63 ≤ i) (hhigh : i < 2 ^ 63) :
    x.toInt64 = Int64.ofInt i := by
  obtain ⟨s, u, rfl, hi⟩ := h
  rw [eq_div_iff unitsPerOne_cast_pos.ne'] at hi
  have hwhole : truncate s u = i := truncate_eq (by exact_mod_cast hi)
  have hmin : Int64.minValue.toInt = -2 ^ 63 := rfl
  have hmax : Int64.maxValue.toInt = 2 ^ 63 - 1 := rfl
  simp only [Binary64.toInt64, hwhole]
  rw [if_neg (by omega), if_neg (by omega)]

end CoverControl.Binary64
