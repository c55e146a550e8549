import CoverControl.Encoder
import CoverControl.Proofs.Config
import CoverControl.Proofs.Numerals
import CoverControl.Proofs.Scale.Reading

/-!
# Published bounds

A scale holds its bounds as the nearest binary numbers (`held`), which up to `2 ^ 53` are the bounds
themselves. It counts from the lower one, so the order to go to the end of the lower bound publishes that
bound as it is held. The order to go to the other end publishes the sum of the lower bound and the span
(`reached`): whatever the bounds are, `endValue` is the integer published (`ends_published`).

The difference and the sum are rounded. They lead back to the upper bound if the span between the bounds
as they are held is a binary number (`reached_of_exact`). If it is not, the sum can miss a bound that is
held exactly, and can even lie beyond it (`bound_not_published`).
-/

namespace CoverControl

open Binary64

seal unitsPerOne unitsLimit

namespace Scale

variable {scale : Scale} {l u : ℤ} {x y : Binary64} {opened closed v lower upper own other : Int64}

/-- A bound as a scale holds it, as an integer again. -/
def held (v : Int64) : Int64 := (raw v).toInt64

/-- The upper bound as a scale computes it, from the lower one and the span. -/
def reached (lower upper : Int64) : Int64 :=
  ((raw lower).add ((raw upper).sub (raw lower))).toInt64

/-- The integer that the order to go to an end of the cover publishes: the lower bound is read off the
scale, and the upper one is computed. -/
def endValue (own other : Int64) : Int64 :=
  if own.toInt < other.toInt then held own else reached other own

/-! ### The ends of a scale -/

theorem writing_closed (l u : ℤ) : writing l u Percent.closed.value = rounded l := by
  simp [writing, Percent.closed, rounded_zero]

theorem writing_opened (l u : ℤ) : writing l u Percent.opened.value = rounded (l + rounded (u - l)) := by
  have hwhole : ((Percent.opened.value : ℚ) / 100) = 1 := by norm_num [Percent.opened]
  rw [writing, hwhole, rounded_one, one_mul, rounded_rounded]

theorem rounded_of_holds_raw (h : (raw v).Holds l) : rounded l = l := by
  obtain ⟨i, hholds, hrounded, -⟩ := exists_holds_raw v
  rw [h.unique hholds, ← hrounded, rounded_rounded]

theorem Spans.value_lower (h : scale.Spans l u) (hx : x.Holds l) (hl : rounded l = l) :
    scale.value (scale.orient .closed) = x.toInt64 := by
  have hwritten := h.holds_written .closed
  rw [writing_closed, hl, roundAway_intCast] at hwritten
  rw [value, orient_orient]
  exact hwritten.toInt64_congr hx

/-- The sum of the lower bound and the span. -/
theorem Spans.holds_reached (h : scale.Spans l u) (hx : x.Holds l) (hy : y.Holds u) :
    (x.add (y.sub x)).Holds (rounded (l + rounded (u - l))) :=
  hx.add (hy.sub hx (inRange_of_abs_le (by norm_num) h.span_le)) (h.inRange_sum h.span_le)

theorem Spans.value_upper (h : scale.Spans l u) (hx : x.Holds l) (hy : y.Holds u) :
    scale.value (scale.orient .opened) = (x.add (y.sub x)).toInt64 := by
  obtain ⟨span, hspan⟩ := exists_rounded_intCast (u - l)
  obtain ⟨sum, hsum⟩ := exists_rounded_intCast (l + span)
  push_cast at hspan hsum
  have hwritten := h.holds_written .opened
  have hreached := h.holds_reached hx hy
  rw [writing_opened, hspan, hsum, roundAway_intCast] at hwritten
  rw [hspan, hsum] at hreached
  rw [value, orient_orient]
  exact hwritten.toInt64_congr hreached

theorem value_ends (h : position opened closed = .ok scale) :
    scale.value .opened = endValue opened closed ∧ scale.value .closed = endValue closed opened := by
  unfold endValue
  obtain ⟨i, j, hopened, hclosed, ⟨hlt, hdirect, hspans⟩ | ⟨hlt, hmirrored, hspans⟩⟩ := spans_of_position h
  · have hlower := hspans.value_lower hclosed (rounded_of_holds_raw hclosed)
    have hupper := hspans.value_upper hclosed hopened
    rw [orient, if_neg (by simp [hdirect])] at hlower hupper
    rw [if_neg hlt.not_gt, if_pos hlt]
    exact ⟨hupper, hlower⟩
  · have hlower := hspans.value_lower hopened (rounded_of_holds_raw hopened)
    have hupper := hspans.value_upper hopened hclosed
    rw [orient, if_pos hmirrored] at hlower hupper
    rw [if_pos hlt, if_neg hlt.not_gt]
    exact ⟨hlower, hupper⟩

/-! ### Bounds that the sum leads back to -/

/-- The distance between two bounds as they are held is a binary number itself. -/
def SpanExact (own other : Int64) : Prop :=
  rounded (rounded own.toInt - rounded other.toInt) = rounded own.toInt - rounded other.toInt

theorem reached_of_exact (h : SpanExact upper lower) : reached lower upper = held upper := by
  obtain ⟨l, hlower, hl, hlbound⟩ := exists_holds_raw lower
  obtain ⟨u, hupper, hu, hubound⟩ := exists_holds_raw upper
  have huq : |(u : ℚ)| ≤ 2 ^ 63 := by exact_mod_cast hubound
  have hdifference := hupper.sub hlower (inRange_of_abs_le (by norm_num) (distance_le hlbound hubound))
  rw [SpanExact, hu, hl] at h
  rw [h] at hdifference
  -- nothing was lost in the difference, so the exact sum is the upper bound again
  have hsum := hlower.add hdifference
  rw [add_sub_cancel, rounded_of_holds_raw hupper] at hsum
  exact (hsum (inRange_of_abs_le (by norm_num) huq)).toInt64_congr hupper

theorem endValue_eq_held (h : own.toInt < other.toInt ∨ reached other own = held own) :
    endValue own other = held own := by
  unfold endValue
  split
  · rfl
  · exact h.resolve_left ‹_›

theorem endValue_of_exact (h : SpanExact own other) : endValue own other = held own :=
  endValue_eq_held (.inr (reached_of_exact h))

theorem toInt64_of_holds (h : x.Holds v.toInt) : x.toInt64 = v := by
  rw [h.toInt64 v.le_toInt v.toInt_lt, Int64.ofInt_toInt]

theorem held_eq (h : |v.toInt| ≤ 2 ^ 53) : held v = v :=
  toInt64_of_holds (holds_raw h)

theorem spanExact_of_abs_le (hown : |own.toInt| ≤ 2 ^ 53) (hother : |other.toInt| ≤ 2 ^ 53)
    (hspan : |own.toInt - other.toInt| ≤ 2 ^ 53) : SpanExact own other := by
  rw [SpanExact, rounded_intCast hown, rounded_intCast hother, ← Int.cast_sub, rounded_intCast hspan]

end Scale

/-! ### Orders -/

namespace Encoder

open Scale

variable {config : Config} {encoder : Encoder} {target : Percent} {v own other : Int64}

/-- The order to go to a position has an integer as its payload, in decimal notation. -/
def Publishes (encoder : Encoder) (target : Percent) (v : Int64) : Prop :=
  ∃ order, encoder.encode (.setPosition target) = .ok order ∧ order.message.payload = toString v.toInt

theorem publishes_iff (htopic : encoder.config.setPositionTopic.isSome = true)
    (htemplate : encoder.config.positionTemplate = none) :
    encoder.Publishes target v ↔ v = encoder.position.value target := by
  obtain ⟨topic, htopic⟩ := Option.isSome_iff_exists.1 htopic
  have horder : encoder.encode (.setPosition target) =
      .ok ⟨encoder.message topic (toString (encoder.position.value target).toInt),
        assumeIf encoder.isOptimistic (.positionFeedback target)⟩ := by
    simp only [encode, moveTo, htopic, htemplate]
    rfl
  rw [Publishes, horder]
  simp only [Except.ok.injEq, exists_eq_left', message, Decimal.toString_inj, Int64.toInt_inj]
  exact eq_comm

/-- What the order to go to an end publishes; `own` is the bound of that end, `other` that of the other
end. -/
structure PublishesEnd (encoder : Encoder) (target : Percent) (own other : Int64) : Prop where
  /-- The order succeeds, with one integer as its payload. -/
  value : ∀ v, encoder.Publishes target v ↔ v = endValue own other
  /-- The lower bound is published as it is held, and so is the upper one if the sum leads back to it. -/
  held : own.toInt < other.toInt ∨ reached other own = Scale.held own → endValue own other = Scale.held own
  /-- The sum leads back if nothing is lost in the span. -/
  exact : SpanExact own other → endValue own other = Scale.held own
  /-- Small bounds that are not too far apart are published themselves. -/
  small : |own.toInt| ≤ 2 ^ 53 → |other.toInt| ≤ 2 ^ 53 → |own.toInt - other.toInt| ≤ 2 ^ 53 →
    endValue own other = own

theorem publishesEnd_of_value (h : ∀ v, encoder.Publishes target v ↔ v = endValue own other) :
    encoder.PublishesEnd target own other where
  value := h
  held := endValue_eq_held
  exact := endValue_of_exact
  small hown hother hspan := (endValue_of_exact (spanExact_of_abs_le hown hother hspan)).trans (held_eq hown)

theorem exists_publishes (hvalid : config.validate = .ok ())
    (htopic : config.setPositionTopic.isSome = true) (htemplate : config.positionTemplate = none) :
    ∃ encoder, ofConfig config = .ok encoder ∧
      (∀ v, encoder.Publishes .opened v ↔ v = endValue config.positionOpened config.positionClosed) ∧
      ∀ v, encoder.Publishes .closed v ↔ v = endValue config.positionClosed config.positionOpened := by
  obtain ⟨encoder, hencoder⟩ := ofConfig_of_valid hvalid
  obtain ⟨rfl, hscale⟩ := parts_of_ok hencoder
  obtain ⟨hopened, hclosed⟩ := value_ends hscale
  exact ⟨encoder, hencoder, fun _ => hopened ▸ publishes_iff htopic htemplate,
    fun _ => hclosed ▸ publishes_iff htopic htemplate⟩

/-- Every valid configuration with a topic for positions and no template for them has an encoder, and to
open and to close the cover this publishes what the scale makes of the bounds of the two ends. -/
theorem ends_published (hvalid : config.validate = .ok ())
    (htopic : config.setPositionTopic.isSome = true) (htemplate : config.positionTemplate = none) :
    ∃ encoder, ofConfig config = .ok encoder ∧
      encoder.PublishesEnd .opened config.positionOpened config.positionClosed ∧
      encoder.PublishesEnd .closed config.positionClosed config.positionOpened := by
  obtain ⟨encoder, hencoder, hopened, hclosed⟩ := exists_publishes hvalid htopic htemplate
  exact ⟨encoder, hencoder, publishesEnd_of_value hopened, publishesEnd_of_value hclosed⟩

/-- A gate whose raw positions are all integers of 64 bits: the larger bound is held as `2 ^ 63`, which
is no such integer, but it is published as the nearest one. -/
theorem ends_published_gate :
    let config : Config :=
      { Config.named "gate" with
        setPositionTopic := some "p", positionOpened := Int64.minValue,
        positionClosed := Int64.maxValue }
    config.validate = .ok () ∧ config.setPositionTopic.isSome = true ∧
    config.positionTemplate = none ∧
    ∃ encoder, ofConfig config = .ok encoder ∧
      (∀ v, encoder.Publishes .opened v ↔ v = Int64.minValue) ∧
      ∀ v, encoder.Publishes .closed v ↔ v = Int64.maxValue := by
  intro config
  have hvalid : config.validate = .ok () := by decide +kernel
  have hmin : endValue Int64.minValue Int64.maxValue = Int64.minValue := by decide +kernel
  have hmax : endValue Int64.maxValue Int64.minValue = Int64.maxValue := by decide +kernel
  obtain ⟨encoder, hencoder, hopened, hclosed⟩ := ends_published hvalid rfl rfl
  exact ⟨hvalid, rfl, rfl, encoder, hencoder, hmin ▸ hopened.value, hmax ▸ hclosed.value⟩

theorem exists_publishes_ne (hvalid : config.validate = .ok ())
    (htopic : config.setPositionTopic.isSome = true) (htemplate : config.positionTemplate = none)
    (hvalue : endValue config.positionOpened config.positionClosed = v) (hne : v ≠ config.positionOpened) :
    ∃ encoder, ofConfig config = .ok encoder ∧ encoder.Publishes .opened v ∧
      ¬encoder.Publishes .opened config.positionOpened := by
  obtain ⟨encoder, hencoder, hopened, -⟩ := exists_publishes hvalid htopic htemplate
  rw [hvalue] at hopened
  exact ⟨encoder, hencoder, (hopened v).2 rfl, fun h => hne ((hopened _).1 h).symm⟩

/-- A bound that is no binary number is not published itself. Nor is one that is held exactly, if the sum
misses it: what is published then lies beyond it. -/
theorem bound_not_published :
    let gate (opened closed : Int64) : Config :=
      { Config.named "gate" with
        setPositionTopic := some "p", positionOpened := opened, positionClosed := closed }
    let inexact := gate 9007199254740993 0
    let missed := gate 9007199254740994 (-1)
    (inexact.validate = .ok () ∧ inexact.setPositionTopic.isSome = true ∧ inexact.positionTemplate = none ∧
      ∃ encoder, ofConfig inexact = .ok encoder ∧ encoder.Publishes .opened 9007199254740992 ∧
        ¬encoder.Publishes .opened inexact.positionOpened) ∧
    missed.validate = .ok () ∧ missed.setPositionTopic.isSome = true ∧ missed.positionTemplate = none ∧
      held missed.positionOpened = missed.positionOpened ∧
      held missed.positionClosed = missed.positionClosed ∧
      ∃ encoder, ofConfig missed = .ok encoder ∧ encoder.Publishes .opened 9007199254740996 ∧
        ¬encoder.Publishes .opened missed.positionOpened := by
  intro gate inexact missed
  have hinexact : inexact.validate = .ok () := by decide +kernel
  have hmissed : missed.validate = .ok () := by decide +kernel
  refine ⟨⟨hinexact, rfl, rfl, ?_⟩, hmissed, rfl, rfl, by decide +kernel, by decide +kernel, ?_⟩
  · exact exists_publishes_ne hinexact rfl rfl (by decide +kernel) (by decide)
  · exact exists_publishes_ne hmissed rfl rfl (by decide +kernel) (by decide)

end Encoder

end CoverControl
