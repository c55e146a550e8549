import CoverControl.Proofs.Scale.Reading

/-!
# The direction of positions

A scale of positions counts from the closed end toward the open end, whichever bound is the larger
one: a raw value that lies farther in that direction is not read as a smaller percentage
(`percent_toward`). Each step of the computation keeps the order, in spite of all roundings, and so does
an overflow, since the infinity it leads to is on the right side. At the two bounds the percentages are
exact, so the raw values beyond them are read like the bounds.
-/

namespace CoverControl.Scale

open Binary64

seal unitsPerOne unitsLimit

variable {scale : Scale} {opened closed : Int64} {x y : Binary64}

/-- `y` lies no less far than `x` in the direction from the closed to the open end. -/
def Toward (opened closed : Int64) (x y : Binary64) : Prop :=
  if closed.toInt < opened.toInt then x.le y = true else y.le x = true

instance (opened closed : Int64) (x y : Binary64) : Decidable (Toward opened closed x y) :=
  inferInstanceAs (Decidable (if closed.toInt < opened.toInt then x.le y = true else y.le x = true))

theorem percent_toward (h : position opened closed = .ok scale) (hx : x.isFinite = true)
    (hy : y.isFinite = true) (hxy : Toward opened closed x y) :
    (scale.percent x).value ≤ (scale.percent y).value := by
  obtain ⟨a, hx⟩ := exists_holds hx
  obtain ⟨b, hy⟩ := exists_holds hy
  unfold Toward at hxy
  obtain ⟨i, j, -, -, ⟨hlt, hdirect, hspans⟩ | ⟨hlt, hmirrored, hspans⟩⟩ := spans_of_position h
  · rw [if_pos hlt, hx.le_iff hy] at hxy
    have hmono := hspans.percent_mono hx hy hxy
    simpa [orient, hdirect] using hmono
  · rw [if_neg hlt.not_gt, hy.le_iff hx] at hxy
    have hmono := hspans.percent_mono hy hx hxy
    have hle := (scale.percent x).value_le
    simp only [orient, hmirrored, ↓reduceIte, Percent.inverted] at hmono
    omega

theorem isFinite_raw (v : Int64) : (raw v).isFinite = true := by
  obtain ⟨i, ⟨negative, units, heq, -⟩, -⟩ := exists_holds_raw v
  rw [heq]
  rfl

/-- A scale of positions reads its bounds, and what lies beyond them, as fully closed and fully open,
and what lies between them in the order from closed to open. -/
theorem position_directed (h : position opened closed = .ok scale) :
    scale.percent (raw closed) = .closed ∧ scale.percent (raw opened) = .opened ∧
    (∀ x : Binary64, x.isFinite = true → Toward opened closed x (raw closed) →
      scale.percent x = .closed) ∧
    (∀ x : Binary64, x.isFinite = true → Toward opened closed (raw opened) x →
      scale.percent x = .opened) ∧
    ∀ x y : Binary64, x.isFinite = true → y.isFinite = true → Toward opened closed x y →
      (scale.percent x).value ≤ (scale.percent y).value := by
  obtain ⟨hopened, hclosed⟩ := percent_ends h
  refine ⟨hclosed, hopened, fun x hx hbeyond => ?_, fun x hx hbeyond => ?_, fun x y => percent_toward h⟩
  · have hle := percent_toward h hx (isFinite_raw closed) hbeyond
    rw [hclosed] at hle
    exact Percent.ext (Nat.le_zero.1 hle)
  · have hle := percent_toward h (isFinite_raw opened) hx hbeyond
    rw [hopened] at hle
    exact Percent.ext (Nat.le_antisymm (scale.percent x).value_le hle)

/-- A motor that counts from 180 at the closed end down to 80 at the open end: the largest finite number
lies far beyond the closed end, a half lies beyond the open end, and 100 lies closer to it than 120. -/
theorem position_directed_motor :
    let huge : Binary64 := .finite false (unitsLimit - Nat.pow 2 2045)
    let half : Binary64 := .finite false (Nat.pow 2 1073)
    ∃ scale, position 80 180 = .ok scale ∧ scale.percent (raw 180) = .closed ∧
      scale.percent (raw 80) = .opened ∧
      (Toward 80 180 huge (raw 180) ∧ scale.percent huge = .closed) ∧
      (Toward 80 180 (raw 80) half ∧ scale.percent half = .opened) ∧
      Toward 80 180 (raw 120) (raw 100) ∧
      (scale.percent (raw 120)).value ≤ (scale.percent (raw 100)).value := by
  intro huge half
  have hscale : position 80 180 = .ok ⟨raw 80, raw 180, true⟩ := by decide +kernel
  have hhuge : Toward 80 180 huge (raw 180) := by decide +kernel
  have hhalf : Toward 80 180 (raw 80) half := by decide +kernel
  have hcloser : Toward 80 180 (raw 120) (raw 100) := by decide +kernel
  obtain ⟨hclosed, hopened, hbelow, habove, hmono⟩ := position_directed hscale
  exact ⟨_, hscale, hclosed, hopened, ⟨hhuge, hbelow huge rfl hhuge⟩, ⟨hhalf, habove half rfl hhalf⟩,
    hcloser, hmono _ _ (isFinite_raw 120) (isFinite_raw 100) hcloser⟩

end CoverControl.Scale
