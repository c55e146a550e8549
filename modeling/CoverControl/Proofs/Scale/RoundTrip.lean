import CoverControl.Proofs.Scale.Nearest

/-!
# What is written is read back

What is written is off by at most half a raw step, and what is read by at most half a percentage. So a
percentage that is written and read back, and a raw value that is read and written back, change by no
more than the two halves together (`round_trip_bounds`): between less than 100 raw steps, a raw value
does not change at all.

A percentage is read back as it was if it is worth at least one raw step (`Wide`). If it is worth more
than one, the two halves are less than a percentage together. If it is worth exactly one, the exact raw
value is whole, and so it is hit.
-/

namespace CoverControl.Scale

open Binary64

seal unitsPerOne unitsLimit

variable {scale : Scale} {l u r : ℤ}

/-- Mirroring keeps distances. -/
theorem abs_orient_sub (scale : Scale) (p q : Percent) :
    |((scale.orient p).value - (scale.orient q).value : ℤ)| = |(p.value - q.value : ℤ)| := by
  have hp := p.value_le
  have hq := q.value_le
  unfold orient
  split
  · simp only [Percent.inverted]
    rw [Nat.cast_sub hp, Nat.cast_sub hq, sub_sub_sub_cancel_left, abs_sub_comm]
  · rfl

/-- A percentage that is written and read back: half a raw step, and half a percentage. -/
theorem Spans.abs_percent_raw_sub_le (h : scale.Spans l u) (hshort : Short l u) (p : Percent) :
    2 * (u - l) * |((scale.percent (raw (scale.value p))).value - p.value : ℤ)| ≤ u - l + 100 := by
  have hlt := hshort.lt
  have hwritten := abs_le.1 (h.value_nearest hshort p)
  have hread := abs_le.1 (h.percent_raw_nearest hshort p)
  have hoff : |2 * (u - l) * ((scale.orient (scale.percent (raw (scale.value p)))).value -
      (scale.orient p).value : ℤ)| ≤ u - l + 100 := by
    rw [abs_le]
    constructor <;> linarith
  rwa [abs_mul, abs_of_pos (by omega), abs_orient_sub] at hoff

/-- A raw value that is read and written back: half a percentage, and half a raw step. -/
theorem Spans.abs_value_percent_sub_le (h : scale.Spans l u) (hshort : Short l u) (hlow : l ≤ r)
    (hhigh : r ≤ u) : 200 * |(scale.value (scale.percent (ofInt r))).toInt - r| ≤ u - l + 100 := by
  have hwritten := abs_le.1 (h.value_nearest hshort (scale.percent (ofInt r)))
  have hread := abs_le.1 (h.percent_nearest hshort hlow hhigh)
  have hoff : |200 * ((scale.value (scale.percent (ofInt r))).toInt - r)| ≤ u - l + 100 := by
    rw [abs_le]
    constructor <;> linarith
  rwa [abs_mul, abs_of_pos (by norm_num)] at hoff

/-- For every range of 31-bit bounds with the span `s`: a percentage changes by at most
`(s + 100) / (2 * s)`, and a raw value by at most `(s + 100) / 200`. -/
theorem round_trip_bounds {a b : ℤ} (axis : String) (inverted : Bool) (ha : |a| ≤ 2 ^ 31)
    (hb : |b| ≤ 2 ^ 31) (hne : a ≠ b) :
    ∃ scale, ofBounds axis (ofInt a) (ofInt b) inverted = .ok scale ∧
      (∀ p : Percent, 2 * |a - b| * |((scale.percent (raw (scale.value p))).value - p.value : ℤ)| ≤
        |a - b| + 100) ∧
      ∀ r : ℤ, min a b ≤ r → r ≤ max a b →
        200 * |(scale.value (scale.percent (ofInt r))).toInt - r| ≤ |a - b| + 100 ∧
        (|a - b| < 100 → (scale.value (scale.percent (ofInt r))).toInt = r) := by
  obtain ⟨scale, hscale, -, hspans, hshort⟩ := exists_short_scale axis inverted ha hb hne
  have hspan := max_sub_min_eq_abs' a b
  refine ⟨scale, hscale, fun p => ?_, fun r hlow hhigh => ?_⟩
  · rw [← hspan]
    exact hspans.abs_percent_raw_sub_le hshort p
  · have hoff := hspans.abs_value_percent_sub_le hshort hlow hhigh
    rw [hspan] at hoff
    refine ⟨hoff, fun hfew => ?_⟩
    have hzero := abs_nonneg ((scale.value (scale.percent (ofInt r))).toInt - r)
    rw [← sub_eq_zero, ← abs_eq_zero]
    omega

/-- Slats with 55 raw steps that are mounted the other way round. -/
theorem round_trip_bounds_slats :
    |(40 : ℤ)| ≤ 2 ^ 31 ∧ |(-15 : ℤ)| ≤ 2 ^ 31 ∧ (40 : ℤ) ≠ -15 ∧
    ∃ scale, ofBounds "tilt" (ofInt 40) (ofInt (-15)) true = .ok scale ∧
      2 * |(40 : ℤ) - -15| * |((scale.percent (raw (scale.value ⟨37, by decide⟩))).value - 37 : ℤ)| ≤
        |(40 : ℤ) - -15| + 100 ∧
      200 * |(scale.value (scale.percent (ofInt 12))).toInt - 12| ≤ |(40 : ℤ) - -15| + 100 ∧
      (scale.value (scale.percent (ofInt 12))).toInt = 12 := by
  obtain ⟨scale, hscale, hpercent, hvalue⟩ :=
    round_trip_bounds (a := 40) (b := -15) "tilt" true (by decide) (by decide) (by decide)
  obtain ⟨hoff, hsame⟩ := hvalue 12 (by decide) (by decide)
  exact ⟨by decide, by decide, by decide, scale, hscale, hpercent ⟨37, by decide⟩, hoff,
    hsame (by decide)⟩

/-- Bounds of 31 bits that are at least 100 raw steps apart. -/
structure Wide (l u : ℤ) : Prop where
  lower_le : |l| ≤ 2 ^ 31
  upper_le : |u| ≤ 2 ^ 31
  hundred_le : 100 ≤ u - l

theorem Wide.short (h : Wide l u) : Short l u := by
  have hfar := h.hundred_le
  exact ⟨h.lower_le, h.upper_le, by omega⟩

/-- A percentage that is written as a raw value is read back as it was, if it is worth a raw step. -/
theorem Spans.percent_raw_value (h : scale.Spans l u) (hwide : Wide l u) (p : Percent) :
    scale.percent (raw (scale.value p)) = p := by
  have hshort := hwide.short
  suffices hzero : |((scale.percent (raw (scale.value p))).value - p.value : ℤ)| = 0 from
    Percent.ext (by rw [abs_eq_zero] at hzero; omega)
  rcases hwide.hundred_le.eq_or_lt with hspan | hspan
  · -- what is written is off by less than one raw step, and a percentage is one raw step
    have hwritten := abs_le.1 (h.value_nearest hshort p)
    have hread := abs_le.1 (h.percent_raw_nearest hshort p)
    rw [← hspan] at hwritten hread
    rw [← abs_orient_sub scale, abs_eq_zero]
    omega
  · have hoff := h.abs_percent_raw_sub_le hshort p
    have hlt : |((scale.percent (raw (scale.value p))).value - p.value : ℤ)| < 1 := by
      by_contra hge
      nlinarith
    have hnonneg := abs_nonneg ((scale.percent (raw (scale.value p))).value - p.value : ℤ)
    omega

theorem percent_raw_value {axis : String} {v w : Int64} {inverted : Bool}
    (hv : |v.toInt| ≤ 2 ^ 31) (hw : |w.toInt| ≤ 2 ^ 31) (hfar : 100 ≤ |v.toInt - w.toInt|)
    (h : ofBounds axis (raw v) (raw w) inverted = .ok scale) (p : Percent) :
    scale.percent (raw (scale.value p)) = p := by
  obtain ⟨-, -, hspans⟩ := spans_of_ofBounds (holds_raw_of_abs_le hv) (holds_raw_of_abs_le hw)
    (by omega) (by omega) h
  refine hspans.percent_raw_value ⟨?_, ?_, ?_⟩ p
  · exact abs_min_le_max_abs_abs.trans (max_le hv hw)
  · exact abs_max_le_max_abs_abs.trans (max_le hv hw)
  · rw [max_sub_min_eq_abs']; exact hfar

end CoverControl.Scale
