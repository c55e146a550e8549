import CoverControl.Percent
import CoverControl.Proofs.Binary64.Operations
import CoverControl.Scale

/-!
# What scales compute

A scale between integers of a device holds two whole numbers (`Spans`), and what it computes from them
is followed on rational numbers: a raw value has a percentage between 0 and 100 above the lower bound,
which is rounded to a whole one (`reading`), and a percentage has a raw value, which is rounded to a
whole one (`writing`). At the bounds both are exact, so a scale of positions reads its two ends as
fully open and fully closed.
-/

namespace CoverControl

open Binary64

seal unitsPerOne unitsLimit

/-! ### Percentages -/

namespace Percent

theorem ext {p q : Percent} (h : p.value = q.value) : p = q := by
  cases p; cases q; cases h; rfl

theorem inverted_inverted (p : Percent) : p.inverted.inverted = p := by
  refine ext ?_
  have hle := p.value_le
  show 100 - (100 - p.value) = p.value
  omega

/-- What lies between 0 and 100 becomes the nearest percentage. -/
theorem ofBinary64_value {x : Binary64} {q : ℚ} (hx : x.Holds q) (hlow : 0 ≤ roundAway q)
    (hhigh : roundAway q ≤ 100) : ((ofBinary64 x).value : ℤ) = roundAway q := by
  obtain ⟨n, hn⟩ := Int.eq_ofNat_of_zero_le hlow
  have hclamp := hx.round.clamp holds_zero holds_hundred (by norm_num)
  have hwhole : (0 ⊔ ((roundAway q : ℚ) ⊓ 100)) = (n : ℕ) := by
    have hle : (roundAway q : ℚ) ≤ 100 := by exact_mod_cast hhigh
    have hge : (0 : ℚ) ≤ roundAway q := by exact_mod_cast hlow
    rw [inf_eq_left.2 hle, sup_eq_right.2 hge, hn]
    rfl
  rw [hwhole] at hclamp
  show ((Nat.min (x.round.clamp zero hundred).toNat 100 : ℕ) : ℤ) = _
  have hn100 : n ≤ 100 := by omega
  rw [hclamp.toNat, hn]
  exact congrArg Int.ofNat (Nat.min_eq_left hn100)

end Percent

namespace Scale

variable {scale : Scale} {l u : ℤ} {x y : Binary64} {a b : ℚ}

theorem orient_orient (scale : Scale) (p : Percent) : scale.orient (scale.orient p) = p := by
  unfold orient
  split
  · exact p.inverted_inverted
  · rfl

/-- The bounds that a scale holds: different whole numbers that are no larger than those of 64 bits. -/
structure Spans (scale : Scale) (l u : ℤ) : Prop where
  lower : scale.lower.Holds l
  upper : scale.upper.Holds u
  lt : l < u
  lower_le : |l| ≤ 2 ^ 63
  upper_le : |u| ≤ 2 ^ 63

/-- The part of the range below a raw value. -/
def share (l u : ℤ) (a : ℚ) : ℚ := 0 ⊔ (rounded (rounded (a - l) / rounded (u - l)) ⊓ 1)

/-- The percentage of a raw value above the lower bound, before it becomes whole. -/
def reading (l u : ℤ) (a : ℚ) : ℚ := rounded (share l u a * 100)

/-- The raw value of a percentage above the lower bound, before it becomes whole. -/
def writing (l u : ℤ) (p : ℕ) : ℚ := rounded (l + rounded (rounded (p / 100) * rounded (u - l)))

theorem rounded_hundred : rounded 100 = 100 := by exact_mod_cast rounded_intCast (i := 100) (by decide)

theorem rounded_one : rounded 1 = 1 := by exact_mod_cast rounded_intCast (i := 1) (by decide)

theorem share_nonneg (l u : ℤ) (a : ℚ) : 0 ≤ share l u a := le_sup_left

theorem share_le_one (l u : ℤ) (a : ℚ) : share l u a ≤ 1 := sup_le (by norm_num) inf_le_right

theorem reading_nonneg (l u : ℤ) (a : ℚ) : 0 ≤ reading l u a :=
  rounded_nonneg (mul_nonneg (share_nonneg l u a) (by norm_num))

theorem reading_le (l u : ℤ) (a : ℚ) : reading l u a ≤ 100 := by
  have hle : share l u a * 100 ≤ 100 := by linarith [share_le_one l u a]
  exact (rounded_mono hle).trans_eq rounded_hundred

theorem Spans.one_le (h : scale.Spans l u) : (1 : ℚ) ≤ u - l := by
  have hstep : (l + 1 : ℚ) ≤ u := by exact_mod_cast h.lt
  linarith

theorem Spans.one_le_rounded (h : scale.Spans l u) : 1 ≤ rounded (u - l) :=
  rounded_one.symm.trans_le (rounded_mono h.one_le)

theorem Spans.rounded_pos (h : scale.Spans l u) : 0 < rounded (u - l) := one_pos.trans_le h.one_le_rounded

theorem distance_le (hl : |l| ≤ 2 ^ 63) (hu : |u| ≤ 2 ^ 63) : |(u - l : ℚ)| ≤ 2 ^ 64 := by
  have hl : |(l : ℚ)| ≤ 2 ^ 63 := by exact_mod_cast hl
  have hu : |(u : ℚ)| ≤ 2 ^ 63 := by exact_mod_cast hu
  have hdistance := abs_sub (u : ℚ) l
  linarith

/-- The span as a rational number. -/
theorem Spans.span_le (h : scale.Spans l u) : |(u - l : ℚ)| ≤ 2 ^ 64 := distance_le h.lower_le h.upper_le

theorem Spans.holds_span (h : scale.Spans l u) : (scale.upper.sub scale.lower).Holds (rounded (u - l)) :=
  h.upper.sub h.lower (inRange_of_abs_le (by norm_num) h.span_le)

theorem Spans.rounded_le (h : scale.Spans l u) : rounded (u - l) ≤ 2 ^ 64 :=
  (le_abs_self _).trans (abs_rounded_le h.span_le)

/-- What is added to the lower bound does not make it overflow. -/
theorem Spans.inRange_sum (h : scale.Spans l u) (ha : |a| ≤ 2 ^ 64) : InRange (l + rounded a) := by
  have hl : |(l : ℚ)| ≤ 2 ^ 63 := by exact_mod_cast h.lower_le
  have hsum : |l + rounded a| ≤ 2 ^ 65 := by
    have htriangle := abs_add_le (l : ℚ) (rounded a)
    have hrounded := abs_rounded_le ha
    linarith
  exact inRange_of_abs_le (by norm_num) hsum

/-- The share of a raw value that is too far from the lower bound to be subtracted. -/
theorem Spans.share_of_not_inRange (h : scale.Spans l u) (hrange : ¬InRange (a - l)) :
    share l u a = if a - l < 0 then 0 else 1 := by
  have hpos := h.rounded_pos
  have hfar : rounded (u - l) ≤ |rounded (a - l)| :=
    h.rounded_le.trans (two_pow_le_of_not_inRange (by decide) hrange)
  rw [abs_rounded] at hfar
  unfold share
  split
  · rename_i hneg
    have hbelow : rounded (a - l) ≤ 0 := by simpa [rounded_zero] using rounded_mono hneg.le
    have hquotient := rounded_mono (div_nonpos_of_nonpos_of_nonneg hbelow hpos.le)
    rw [rounded_zero] at hquotient
    exact sup_eq_left.2 (inf_le_left.trans hquotient)
  · rename_i hnonneg
    rw [abs_of_nonneg (not_lt.1 hnonneg)] at hfar
    have hquotient := rounded_mono ((one_le_div hpos).2 hfar)
    rw [rounded_one] at hquotient
    rw [inf_eq_right.2 hquotient, sup_eq_right.2 one_pos.le]

/-- The share is computed right even of raw values whose distance from the lower bound overflows. -/
theorem Spans.holds_share (h : scale.Spans l u) (hx : x.Holds a) :
    (((x.sub scale.lower).div (scale.upper.sub scale.lower)).clamp zero one).Holds (share l u a) := by
  have hpos := h.rounded_pos
  by_cases hrange : InRange (a - l)
  · have hquotient := (hx.sub h.lower hrange).div h.holds_span hpos.ne'
      (hrange.rounded_div h.one_le_rounded)
    exact hquotient.clamp holds_zero holds_one (by norm_num)
  · rw [hx.sub_of_not_inRange h.lower hrange, h.holds_span.infinite_div hpos,
      h.share_of_not_inRange hrange]
    simpa using holds_clamp_infinite (decide (a - l < 0))

theorem Spans.percent_value (h : scale.Spans l u) (hx : x.Holds a) :
    ((scale.orient (scale.percent x)).value : ℤ) = roundAway (reading l u a) := by
  have hle : |share l u a * 100| ≤ 2 ^ 7 := by
    have hnonneg := share_nonneg l u a
    have hle := share_le_one l u a
    rw [abs_of_nonneg (by linarith)]
    linarith
  have hreading := (h.holds_share hx).mul holds_hundred (inRange_of_abs_le (by norm_num) hle)
  have hlow := roundAway_mono (reading_nonneg l u a)
  have hhigh := roundAway_mono (reading_le l u a)
  rw [← Int.cast_zero, roundAway_intCast] at hlow
  rw [show (100 : ℚ) = (100 : ℤ) by norm_num, roundAway_intCast] at hhigh
  rw [percent, orient_orient]
  exact Percent.ofBinary64_value hreading hlow hhigh

theorem Spans.holds_written (h : scale.Spans l u) (p : Percent) :
    (scale.lower.add (p.fraction.mul (scale.upper.sub scale.lower))).round.Holds
      (roundAway (writing l u p.value)) := by
  have hp : (p.value : ℚ) ≤ 100 := by exact_mod_cast p.value_le
  have hpart : |(p.value / 100 : ℚ)| ≤ 2 ^ 0 := by
    rw [abs_of_nonneg (by positivity), div_le_iff₀ (by norm_num)]
    linarith
  have hvalue : (ofInt p.value).Holds p.value :=
    holds_intCast (i := p.value) (by have hle := p.value_le; simp; omega)
  have hfraction := hvalue.div holds_hundred (by norm_num) (inRange_of_abs_le (by norm_num) hpart)
  have hproduct : |rounded (p.value / 100) * rounded (u - l)| ≤ 2 ^ 64 := by
    rw [abs_mul]
    calc |rounded (p.value / 100)| * |rounded (u - l)| ≤ 2 ^ 0 * 2 ^ 64 :=
        mul_le_mul (abs_rounded_le hpart) (abs_rounded_le h.span_le) (abs_nonneg _) (by norm_num)
      _ = 2 ^ 64 := by norm_num
  have hscaled := hfraction.mul h.holds_span (inRange_of_abs_le (by norm_num) hproduct)
  exact (h.lower.add hscaled (h.inRange_sum hproduct)).round

/-! ### The bounds -/

theorem reading_lower (l u : ℤ) : reading l u l = 0 := by
  simp [reading, share, rounded_zero]

theorem Spans.reading_upper (h : scale.Spans l u) : reading l u u = 100 := by
  rw [reading, share, div_self h.rounded_pos.ne', rounded_one]
  simp [rounded_hundred]

/-- Each step from a raw value to its reading keeps the order. -/
theorem Spans.reading_mono (h : scale.Spans l u) (hab : a ≤ b) : reading l u a ≤ reading l u b := by
  have hpos := h.rounded_pos
  have hquotient : rounded (rounded (a - l) / rounded (u - l)) ≤
      rounded (rounded (b - l) / rounded (u - l)) :=
    rounded_mono (div_le_div_of_nonneg_right (rounded_mono (by linarith)) hpos.le)
  have hshare : share l u a ≤ share l u b := sup_le_sup_left (inf_le_inf_right 1 hquotient) 0
  exact rounded_mono (by linarith)

theorem Spans.percent_mono (h : scale.Spans l u) (hx : x.Holds a) (hy : y.Holds b) (hab : a ≤ b) :
    (scale.orient (scale.percent x)).value ≤ (scale.orient (scale.percent y)).value := by
  have hmono := roundAway_mono (h.reading_mono hab)
  rw [← h.percent_value hx, ← h.percent_value hy] at hmono
  exact_mod_cast hmono

theorem Spans.percent_lower (h : scale.Spans l u) (hx : x.Holds l) :
    scale.percent x = scale.orient .closed := by
  have hvalue := h.percent_value hx
  rw [reading_lower, ← Int.cast_zero, roundAway_intCast] at hvalue
  rw [← scale.orient_orient (scale.percent x)]
  exact congrArg scale.orient (Percent.ext (Int.ofNat_inj.1 hvalue))

theorem Spans.percent_upper (h : scale.Spans l u) (hx : x.Holds u) :
    scale.percent x = scale.orient .opened := by
  have hvalue := h.percent_value hx
  rw [h.reading_upper, show (100 : ℚ) = ((100 : ℤ) : ℚ) by norm_num, roundAway_intCast] at hvalue
  rw [← scale.orient_orient (scale.percent x)]
  exact congrArg scale.orient (Percent.ext (Int.ofNat_inj.1 hvalue))

/-! ### Scales of a device -/

theorem abs_toInt_le (v : Int64) : |v.toInt| ≤ 2 ^ 63 := by
  have hlow := v.le_toInt
  have hhigh := v.toInt_lt
  rw [abs_le]
  omega

theorem exists_holds_raw (v : Int64) : ∃ i : ℤ, (raw v).Holds i ∧ rounded v.toInt = i ∧ |i| ≤ 2 ^ 63 := by
  have hle : |(v.toInt : ℚ)| ≤ 2 ^ 63 := by exact_mod_cast abs_toInt_le v
  obtain ⟨i, hi⟩ := exists_rounded_intCast v.toInt
  have hholds := holds_ofInt (inRange_of_abs_le (by norm_num) hle)
  have hbound := abs_rounded_le hle
  rw [hi] at hholds hbound
  exact ⟨i, hholds, hi, by exact_mod_cast hbound⟩

theorem holds_raw {v : Int64} (h : |v.toInt| ≤ 2 ^ 53) : (raw v).Holds v.toInt := holds_intCast h

theorem holds_ofInt_of_abs_le {i : ℤ} (h : |i| ≤ 2 ^ 31) : (ofInt i).Holds i :=
  holds_intCast (h.trans (by norm_num))

theorem holds_raw_of_abs_le {v : Int64} (h : |v.toInt| ≤ 2 ^ 31) : (raw v).Holds v.toInt :=
  holds_ofInt_of_abs_le h

variable {axis : String} {v w : Int64} {i j : ℤ} {inverted : Bool}

theorem spans_of_ofBounds (hx : x.Holds i) (hy : y.Holds j) (hi : |i| ≤ 2 ^ 63) (hj : |j| ≤ 2 ^ 63)
    (h : ofBounds axis x y inverted = .ok scale) :
    i ≠ j ∧ scale.inverted = inverted ∧ scale.Spans (min i j) (max i j) := by
  have hiff := hx.eq_iff hy
  rw [Int.cast_inj] at hiff
  unfold ofBounds at h
  split at h
  · cases h
  · rename_i hne
    rw [hiff] at hne
    cases h
    refine ⟨hne, rfl, ?_, ?_, ?_, ?_, ?_⟩
    · have hmin := hx.min hy
      rwa [← Int.cast_min] at hmin
    · have hmax := hx.max hy
      rwa [← Int.cast_max] at hmax
    · omega
    · exact abs_min_le_max_abs_abs.trans (max_le hi hj)
    · exact abs_max_le_max_abs_abs.trans (max_le hi hj)

/-- Finite bounds span a range unless they are equal. -/
theorem exists_ofBounds_iff (hx : x.Holds a) (hy : y.Holds b) :
    (∃ scale, ofBounds axis x y inverted = .ok scale) ↔ a ≠ b := by
  rw [ne_eq, ← hx.eq_iff hy, ofBounds]
  split <;> rename_i heq
  · exact ⟨by rintro ⟨_, ⟨⟩⟩, fun h => absurd heq h⟩
  · exact ⟨fun _ => heq, fun _ => ⟨_, rfl⟩⟩

/-- Bounds that are held exactly span a range unless they are equal. -/
theorem ofBounds_ok_iff (hv : (raw v).Holds v.toInt) (hw : (raw w).Holds w.toInt) :
    (∃ scale, ofBounds axis (raw v) (raw w) inverted = .ok scale) ↔ v ≠ w := by
  rw [exists_ofBounds_iff hv hw, ne_eq, Int.cast_inj, Int64.toInt_inj]

/-- A larger bound is not held as a smaller number. -/
theorem le_of_holds_raw (hv : (raw v).Holds i) (hw : (raw w).Holds j) (h : v.toInt ≤ w.toInt) : i ≤ j := by
  obtain ⟨_, hv', hroundedv, -⟩ := exists_holds_raw v
  obtain ⟨_, hw', hroundedw, -⟩ := exists_holds_raw w
  have hmono := rounded_mono (Int.cast_le (R := ℚ).2 h)
  rw [hroundedv, hroundedw, ← hv.unique hv', ← hw.unique hw'] at hmono
  exact_mod_cast hmono

/-- The bounds that a scale of positions holds; it is mirrored if the open bound is the lower one. -/
theorem spans_of_position {opened closed : Int64} (h : position opened closed = .ok scale) :
    ∃ i j : ℤ, (raw opened).Holds i ∧ (raw closed).Holds j ∧
      (closed.toInt < opened.toInt ∧ scale.inverted = false ∧ scale.Spans j i ∨
        opened.toInt < closed.toInt ∧ scale.inverted = true ∧ scale.Spans i j) := by
  obtain ⟨i, hopened, -, hi⟩ := exists_holds_raw opened
  obtain ⟨j, hclosed, -, hj⟩ := exists_holds_raw closed
  obtain ⟨hne, hinverted, hspans⟩ := spans_of_ofBounds hopened hclosed hi hj h
  refine ⟨i, j, hopened, hclosed, ?_⟩
  rcases lt_trichotomy closed.toInt opened.toInt with hlt | heq | hlt
  · have hle := le_of_holds_raw hclosed hopened hlt.le
    rw [min_eq_right hle, max_eq_left hle] at hspans
    exact .inl ⟨hlt, by rw [hinverted, decide_eq_false hlt.not_gt], hspans⟩
  · rw [Int64.toInt_inj.1 heq] at hclosed
    exact absurd (Int.cast_inj.1 (hopened.unique hclosed)) hne
  · have hle := le_of_holds_raw hopened hclosed hlt.le
    rw [min_eq_left hle, max_eq_right hle] at hspans
    exact .inr ⟨hlt, by rw [hinverted, decide_eq_true hlt], hspans⟩

/-- A scale of positions reads the two ends as fully open and fully closed. -/
theorem percent_ends {opened closed : Int64} (h : position opened closed = .ok scale) :
    scale.percent (raw opened) = .opened ∧ scale.percent (raw closed) = .closed := by
  obtain ⟨i, j, hopened, hclosed, ⟨-, hdirect, hspans⟩ | ⟨-, hmirrored, hspans⟩⟩ := spans_of_position h
  · rw [hspans.percent_lower hclosed, hspans.percent_upper hopened]
    simp [orient, hdirect]
  · rw [hspans.percent_lower hopened, hspans.percent_upper hclosed]
    simp [orient, hmirrored, Percent.inverted, Percent.opened, Percent.closed]

end Scale

end CoverControl
