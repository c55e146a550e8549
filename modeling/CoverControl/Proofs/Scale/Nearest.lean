import CoverControl.Proofs.Scale.Reading

/-!
# What scales compute is nearest

Between bounds of 31 bits (`Short`) a scale reads a whole raw value as a percentage next to the exact
one, and writes a percentage as a whole raw value next to the exact one: off by at most a half, as if
nothing was rounded on the way. The roundings move a number by less than `2 ^ (-17)`. Counted in parts
of twice the span, or in hundredths of a raw step, all candidates are whole, so what is off by hardly
more than a half is off by at most a half (`abs_roundAway_sub_le_of_near`). Of two neighbours that are equally near,
either may come out.
-/

namespace CoverControl.Scale

open Binary64

seal unitsPerOne unitsLimit

variable {scale : Scale} {l u r : ℤ}

/-- Different bounds of 31 bits. -/
structure Short (l u : ℤ) : Prop where
  lower_le : |l| ≤ 2 ^ 31
  upper_le : |u| ≤ 2 ^ 31
  lt : l < u

theorem Short.span_le (h : Short l u) : u - l ≤ 2 ^ 32 := by
  have hl := abs_le.1 h.lower_le
  have hu := abs_le.1 h.upper_le
  omega

/-- The span as a rational number. -/
theorem Short.span_bounds (h : Short l u) : (1 : ℚ) ≤ u - l ∧ (u - l : ℚ) ≤ 2 ^ 32 := by
  have hlt := h.lt
  exact ⟨by exact_mod_cast (by omega : 1 ≤ u - l), by exact_mod_cast h.span_le⟩

/-- Raw values between the bounds are held exactly. -/
theorem Short.holds_ofInt (h : Short l u) (hlow : l ≤ r) (hhigh : r ≤ u) : (ofInt r).Holds r := by
  refine holds_ofInt_of_abs_le ?_
  have hl := abs_le.1 h.lower_le
  have hu := abs_le.1 h.upper_le
  rw [abs_le]
  omega

theorem Short.rounded_distance (h : Short l u) (hlow : l ≤ r) (hhigh : r ≤ u) :
    rounded (r - l) = r - l := by
  have hspan := h.span_le
  exact_mod_cast rounded_intCast (i := r - l) (abs_le.2 (by omega))

/-- If `2 * d * q` is whole, a number near `q` becomes a whole number that is off by at most a half. -/
theorem abs_roundAway_sub_le_of_near {d k : ℤ} {y q e : ℚ} (hd : 0 < d) (hk : 2 * d * q = k)
    (hnear : |y - q| ≤ e) (he : 2 * d * e < 1) : |2 * d * roundAway y - k| ≤ d := by
  have hd' : (0 : ℚ) < 2 * d := by exact_mod_cast (by omega : 0 < 2 * d)
  have hoff : |(roundAway y - q : ℚ)| ≤ 1 / 2 + e :=
    (abs_sub_le (roundAway y : ℚ) y q).trans (add_le_add (abs_roundAway_sub_le y) hnear)
  have hlt : |(2 * d * roundAway y - k : ℚ)| < d + 1 := by
    rw [← hk, ← mul_sub, abs_mul, abs_of_pos hd']
    calc 2 * d * |(roundAway y - q : ℚ)| ≤ 2 * d * (1 / 2 + e) := mul_le_mul_of_nonneg_left hoff hd'.le
      _ < d + 1 := by linarith
  rw [← Int.lt_add_one_iff]
  exact_mod_cast hlt

/-! ### Reading -/

/-- A raw value between the bounds lies at a part of the range. -/
theorem Short.fraction_bounds (h : Short l u) (hlow : l ≤ r) (hhigh : r ≤ u) :
    0 ≤ (r - l : ℚ) / (u - l) ∧ (r - l : ℚ) / (u - l) ≤ 1 := by
  have hpos : (0 : ℚ) < u - l := one_pos.trans_le h.span_bounds.1
  have hlow' : (l : ℚ) ≤ r := by exact_mod_cast hlow
  have hhigh' : (r : ℚ) ≤ u := by exact_mod_cast hhigh
  exact ⟨div_nonneg (by linarith) hpos.le, (div_le_one hpos).2 (by linarith)⟩

/-- Between the bounds only the quotient is rounded before it becomes a percentage. -/
theorem Short.reading_eq (h : Short l u) (hlow : l ≤ r) (hhigh : r ≤ u) :
    reading l u r = rounded (rounded ((r - l) / (u - l)) * 100) := by
  obtain ⟨hnonneg, hle⟩ := h.fraction_bounds hlow hhigh
  have hnonneg' := rounded_nonneg hnonneg
  have hle' := rounded_mono hle
  rw [rounded_one] at hle'
  rw [reading, share, h.rounded_distance hlow hhigh, h.rounded_distance h.lt.le le_rfl,
    inf_eq_left.2 hle', sup_eq_right.2 hnonneg']

theorem Short.reading_near (h : Short l u) (hlow : l ≤ r) (hhigh : r ≤ u) :
    |reading l u r - (r - l) / (u - l) * 100| ≤ 1 / 2 ^ 40 := by
  obtain ⟨hnonneg, hle⟩ := h.fraction_bounds hlow hhigh
  have hquotient : |rounded ((r - l : ℚ) / (u - l)) - (r - l) / (u - l)| ≤ 1 / 2 ^ 52 :=
    rounded_error_le le_rfl (by rwa [abs_of_nonneg hnonneg])
  rw [abs_le] at hquotient
  have hproduct : |rounded (rounded ((r - l : ℚ) / (u - l)) * 100) - rounded ((r - l) / (u - l)) * 100| ≤
      128 / 2 ^ 52 := by
    refine rounded_error_le (by norm_num) (abs_le.2 ⟨?_, ?_⟩) <;> linarith
  rw [abs_le] at hproduct
  rw [h.reading_eq hlow hhigh, abs_le]
  constructor <;> linarith

/-- Twice the span times the percentage and two hundred times the raw value are whole. -/
theorem Short.read_nearest (h : Short l u) (hlow : l ≤ r) (hhigh : r ≤ u) :
    |2 * (u - l) * roundAway (reading l u r) - 200 * (r - l)| ≤ u - l := by
  obtain ⟨hone, hspan⟩ := h.span_bounds
  refine abs_roundAway_sub_le_of_near (sub_pos.2 h.lt) ?_ (h.reading_near hlow hhigh) ?_
  · push_cast
    field_simp
    ring
  · push_cast
    linarith

/-! ### Writing -/

theorem part_bounds {p : ℕ} (hp : p ≤ 100) : 0 ≤ (p / 100 : ℚ) ∧ (p / 100 : ℚ) ≤ 1 := by
  refine ⟨by positivity, ?_⟩
  rw [div_le_one (by norm_num)]
  exact_mod_cast hp

/-- The exact distance of a percentage from the lower bound. -/
theorem Short.exact_bounds (h : Short l u) {p : ℕ} (hp : p ≤ 100) :
    0 ≤ p / 100 * (u - l : ℚ) ∧ p / 100 * (u - l : ℚ) ≤ 2 ^ 32 := by
  obtain ⟨hp0, hp1⟩ := part_bounds hp
  obtain ⟨hone, hspan⟩ := h.span_bounds
  refine ⟨mul_nonneg hp0 (by linarith), ?_⟩
  calc p / 100 * (u - l : ℚ) ≤ 1 * (u - l) := mul_le_mul_of_nonneg_right hp1 (by linarith)
    _ ≤ 2 ^ 32 := by linarith

theorem Short.writing_near (h : Short l u) {p : ℕ} (hp : p ≤ 100) :
    |writing l u p - (l + p / 100 * (u - l))| ≤ 1 / 2 ^ 17 := by
  obtain ⟨hp0, hp1⟩ := part_bounds hp
  obtain ⟨hone, hspan⟩ := h.span_bounds
  have hl : |(l : ℚ)| ≤ 2 ^ 31 := by exact_mod_cast h.lower_le
  have hfraction : |rounded (p / 100) - p / 100| ≤ 1 / 2 ^ 52 :=
    rounded_error_le le_rfl (by rwa [abs_of_nonneg hp0])
  have hscaled : |rounded (p / 100) * (u - l) - p / 100 * (u - l)| ≤ 1 / 2 ^ 20 := by
    rw [← sub_mul, abs_mul, abs_of_nonneg (by linarith : (0 : ℚ) ≤ u - l)]
    calc |rounded (p / 100) - p / 100| * (u - l : ℚ) ≤ 1 / 2 ^ 52 * 2 ^ 32 :=
        mul_le_mul hfraction hspan (by linarith) (by positivity)
      _ = 1 / 2 ^ 20 := by norm_num
  have hexact := h.exact_bounds hp
  rw [abs_le] at hscaled hl
  have hproduct : |rounded (rounded (p / 100) * (u - l)) - rounded (p / 100) * (u - l)| ≤
      2 ^ 33 / 2 ^ 52 := by
    refine rounded_error_le (by norm_num) (abs_le.2 ⟨?_, ?_⟩) <;> linarith
  rw [abs_le] at hproduct
  have hsum : |rounded (l + rounded (rounded (p / 100) * (u - l))) -
      (l + rounded (rounded (p / 100) * (u - l)))| ≤ 2 ^ 34 / 2 ^ 52 := by
    refine rounded_error_le (by norm_num) (abs_le.2 ⟨?_, ?_⟩) <;> linarith
  rw [writing, h.rounded_distance h.lt.le le_rfl, abs_le]
  rw [abs_le] at hsum
  constructor <;> linarith

/-- A hundred times the raw value and the percentage times the span are whole. -/
theorem Short.written_nearest (h : Short l u) {p : ℕ} (hp : p ≤ 100) :
    |100 * (roundAway (writing l u p) - l) - p * (u - l)| ≤ 50 := by
  have hnear := abs_roundAway_sub_le_of_near (d := 50) (k := 100 * l + p * (u - l))
    (by decide) (by push_cast; ring) (h.writing_near hp) (by norm_num)
  rw [show 100 * (roundAway (writing l u p) - l) - p * (u - l) =
    2 * 50 * roundAway (writing l u p) - (100 * l + p * (u - l)) by ring]
  exact hnear

/-- What is written lies between the bounds. -/
theorem Short.written_bounds (h : Short l u) {p : ℕ} (hp : p ≤ 100) :
    l ≤ roundAway (writing l u p) ∧ roundAway (writing l u p) ≤ u := by
  have hnear := abs_le.1 (h.written_nearest hp)
  have hlt := h.lt
  have hlow : 0 ≤ p * (u - l) := mul_nonneg (by omega) (by omega)
  have hhigh : p * (u - l) ≤ 100 * (u - l) := mul_le_mul_of_nonneg_right (by omega) (by omega)
  constructor <;> omega

/-! ### Scales -/

theorem Spans.percent_nearest (h : scale.Spans l u) (hshort : Short l u) (hlow : l ≤ r) (hhigh : r ≤ u) :
    |2 * (u - l) * (scale.orient (scale.percent (ofInt r))).value - 200 * (r - l)| ≤ u - l := by
  rw [h.percent_value (hshort.holds_ofInt hlow hhigh)]
  exact hshort.read_nearest hlow hhigh

theorem Spans.value_toInt (h : scale.Spans l u) (hshort : Short l u) (p : Percent) :
    (scale.value p).toInt = roundAway (writing l u (scale.orient p).value) := by
  have hbounds := hshort.written_bounds (scale.orient p).value_le
  have hl := abs_le.1 hshort.lower_le
  have hu := abs_le.1 hshort.upper_le
  have hholds := (h.holds_written (scale.orient p)).toInt64 (by omega) (by omega)
  have hvalue : scale.value p = Int64.ofInt (roundAway (writing l u (scale.orient p).value)) := hholds
  rw [hvalue, Int64.toInt_ofInt_of_le (by omega) (by omega)]

theorem Spans.value_nearest (h : scale.Spans l u) (hshort : Short l u) (p : Percent) :
    |100 * ((scale.value p).toInt - l) - (scale.orient p).value * (u - l)| ≤ 50 := by
  rw [h.value_toInt hshort]
  exact hshort.written_nearest (scale.orient p).value_le

theorem Spans.value_bounds (h : scale.Spans l u) (hshort : Short l u) (p : Percent) :
    l ≤ (scale.value p).toInt ∧ (scale.value p).toInt ≤ u := by
  rw [h.value_toInt hshort]
  exact hshort.written_bounds (scale.orient p).value_le

/-- What is written lies in the range, so it is read as the nearest percentage. -/
theorem Spans.percent_raw_nearest (h : scale.Spans l u) (hshort : Short l u) (p : Percent) :
    |2 * (u - l) * (scale.orient (scale.percent (raw (scale.value p)))).value -
      200 * ((scale.value p).toInt - l)| ≤ u - l := by
  obtain ⟨hlow, hhigh⟩ := h.value_bounds hshort p
  exact h.percent_nearest hshort hlow hhigh

/-- Different integers of 31 bits are the bounds of a scale. -/
theorem exists_short_scale {a b : ℤ} (axis : String) (inverted : Bool) (ha : |a| ≤ 2 ^ 31) (hb : |b| ≤ 2 ^ 31)
    (hne : a ≠ b) : ∃ scale, ofBounds axis (ofInt a) (ofInt b) inverted = .ok scale ∧
      scale.inverted = inverted ∧ scale.Spans (min a b) (max a b) ∧ Short (min a b) (max a b) := by
  have hx := holds_ofInt_of_abs_le ha
  have hy := holds_ofInt_of_abs_le hb
  obtain ⟨scale, hscale⟩ : ∃ scale, ofBounds axis (ofInt a) (ofInt b) inverted = .ok scale :=
    (exists_ofBounds_iff hx hy).2 (by exact_mod_cast hne)
  obtain ⟨-, hinverted, hspans⟩ := spans_of_ofBounds hx hy (by omega) (by omega) hscale
  refine ⟨scale, hscale, hinverted, hspans, ?_, ?_, hspans.lt⟩
  · exact abs_min_le_max_abs_abs.trans (max_le ha hb)
  · exact abs_max_le_max_abs_abs.trans (max_le ha hb)

end CoverControl.Scale
