import CoverControl.Proofs.Config
import CoverControl.Proofs.Scale.Reading

/-!
# Empty ranges

A range without extent has no percentages, so no scale is built of it. What counts are the bounds as a
scale holds them: integers of 64 bits become binary numbers first, and beyond `2 ^ 53` different ones
can become the same (`Coincide`). The scale of any other two bounds has a lower and an upper one, as the
smaller and the larger one of two numbers that are not equal are in order (`min_lt_max`).

NaN, which no integer becomes, is apart from this: it equals nothing, so it is let through as a bound,
and the range is empty (`ofBounds_nan`).

A configuration is refused for its ranges if and only if two bounds of it coincide
(`Config.validate_empty_iff`).
-/

namespace CoverControl

open Binary64

seal unitsPerOne unitsLimit

namespace Scale

variable {a b : Int64} {x y : Binary64} {axis : String} {inverted : Bool} {fault : ConfigFault}

/-- Two bounds of a device are held as the same binary number. -/
def Coincide (a b : Int64) : Prop := rounded a.toInt = rounded b.toInt

theorem eq_raw_iff : (raw a).eq (raw b) = true ↔ Coincide a b := by
  obtain ⟨i, ha, hi, -⟩ := exists_holds_raw a
  obtain ⟨j, hb, hj, -⟩ := exists_holds_raw b
  rw [ha.eq_iff hb, Coincide, hi, hj]

theorem coincide_iff (ha : |a.toInt| ≤ 2 ^ 53) (hb : |b.toInt| ≤ 2 ^ 53) : Coincide a b ↔ a = b := by
  rw [Coincide, rounded_intCast ha, rounded_intCast hb, Int.cast_inj, Int64.toInt_inj]

theorem isNaN_raw (v : Int64) : (raw v).isNaN = false := by
  obtain ⟨i, hholds, -⟩ := exists_holds_raw v
  exact hholds.not_isNaN

/-! ### Scales -/

theorem ofBounds_error_iff :
    ofBounds axis x y inverted = .error fault ↔ fault = .emptyRange axis x ∧ x.eq y = true := by
  unfold ofBounds
  split
  · simp [*, eq_comm]
  · simp [*]

theorem ofBounds_of_ne (h : x.eq y = false) :
    ofBounds axis x y inverted = .ok ⟨x.min y, x.max y, inverted⟩ := by
  rw [ofBounds, h]; rfl

/-- A scale is refused if its range is empty; if not, it is built, and its bounds are in order. -/
structure BuiltUnless (empty : Prop) (fault : ConfigFault) (result : Except ConfigFault Scale) :
    Prop where
  refused : result = .error fault ↔ empty
  built : ¬empty → ∃ scale, result = .ok scale ∧ scale.lower.lt scale.upper = true

theorem builtUnless_eq (axis : String) (inverted : Bool) (hx : x.isNaN = false) (hy : y.isNaN = false) :
    BuiltUnless (x.eq y = true) (.emptyRange axis x) (ofBounds axis x y inverted) := by
  refine ⟨?_, fun hapart => ?_⟩
  · rw [ofBounds_error_iff, and_iff_right rfl]
  · have hne : x.eq y = false := by rwa [← Bool.not_eq_true]
    exact ⟨_, ofBounds_of_ne hne, min_lt_max hx hy hne⟩

theorem builtUnless_coincide (axis : String) (a b : Int64) (inverted : Bool) :
    BuiltUnless (Coincide a b) (.emptyRange axis (raw a)) (ofBounds axis (raw a) (raw b) inverted) := by
  rw [← eq_raw_iff]
  exact builtUnless_eq axis inverted (isNaN_raw a) (isNaN_raw b)

/-- With NaN as a bound a scale is always built, but its range is empty: it holds the other bound twice. -/
theorem ofBounds_nan (h : x.isNaN = true ∨ y.isNaN = true) :
    ∃ scale, ofBounds axis x y inverted = .ok scale ∧ scale.lower = scale.upper ∧
      scale.lower.lt scale.upper = false :=
  ⟨_, ofBounds_of_ne (eq_of_isNaN h), min_eq_max_of_isNaN h, min_eq_max_of_isNaN h ▸ lt_self _⟩

end Scale

/-! ### Configurations -/

open Scale

namespace Config
variable {config : Config} {axis : String} {bound : Binary64} {fault : ConfigFault}

/-- The fault of the first empty range of a configuration: positions come before tilts. -/
inductive FirstEmpty (config : Config) : ConfigFault → Prop where
  | position (h : Coincide config.positionOpened config.positionClosed) :
      FirstEmpty config (.emptyRange "position" (raw config.positionOpened))
  | tilt {tilt : TiltSection} (hposition : ¬Coincide config.positionOpened config.positionClosed)
      (hsection : config.tilt = some tilt) (h : Coincide tilt.min tilt.max) :
      FirstEmpty config (.emptyRange "tilt" (raw tilt.min))

theorem positionScale_error_iff : config.positionScale = .error fault ↔
    fault = .emptyRange "position" (raw config.positionOpened) ∧
      Coincide config.positionOpened config.positionClosed := by
  rw [positionScale, position, ofBounds_error_iff, eq_raw_iff]

theorem scale_error_iff {tilt : TiltSection} : tilt.scale = .error fault ↔
    fault = .emptyRange "tilt" (raw tilt.min) ∧ Coincide tilt.min tilt.max := by
  rw [TiltSection.scale, Scale.tilt, ofBounds_error_iff, eq_raw_iff]

theorem exists_positionScale_iff : (∃ scale, config.positionScale = .ok scale) ↔
    ¬Coincide config.positionOpened config.positionClosed := by
  obtain ⟨i, hopened, hi, -⟩ := exists_holds_raw config.positionOpened
  obtain ⟨j, hclosed, hj, -⟩ := exists_holds_raw config.positionClosed
  rw [positionScale, position, exists_ofBounds_iff hopened hclosed, Coincide, hi, hj]

theorem checkRanges_empty_iff : config.checkRanges = .error fault ↔ config.FirstEmpty fault := by
  rw [checkRanges_error_iff, positionScale_error_iff, exists_positionScale_iff]
  constructor
  · rintro (⟨rfl, h⟩ | ⟨hposition, tilt, hsection, h⟩)
    · exact .position h
    · obtain ⟨rfl, hcoincide⟩ := scale_error_iff.1 h
      exact .tilt hposition hsection hcoincide
  · rintro (h | ⟨hposition, hsection, h⟩)
    · exact .inl ⟨rfl, h⟩
    · exact .inr ⟨hposition, _, hsection, scale_error_iff.2 ⟨rfl, h⟩⟩

theorem validate_empty_iff : config.validate = .error (.emptyRange axis bound) ↔
    config.TopicsValid ∧ config.FirstEmpty (.emptyRange axis bound) := by
  rw [validate_iff (by simp), checkRanges_empty_iff]

end Config

namespace Scale

/-- A scale of positions or tilts is refused if its bounds coincide, which different ones never do up to
`2 ^ 53`, and otherwise it is built and its range is not empty. The same holds of any two binary numbers
but NaN and their equality. So a configuration with valid topics is refused for a range if the bounds of
that range coincide, and for no other reason. -/
theorem refused_iff_empty :
    (∀ (a b : Int64) (inverted : Bool),
      BuiltUnless (Coincide a b) (.emptyRange "position" (raw a)) (position a b) ∧
      BuiltUnless (Coincide a b) (.emptyRange "tilt" (raw a)) (tilt a b inverted) ∧
      (a = b → Coincide a b) ∧
      (|a.toInt| ≤ 2 ^ 53 → |b.toInt| ≤ 2 ^ 53 → Coincide a b → a = b)) ∧
    (∀ (axis : String) (x y : Binary64) (inverted : Bool), x.isNaN = false → y.isNaN = false →
      BuiltUnless (x.eq y = true) (.emptyRange axis x) (ofBounds axis x y inverted)) ∧
    ∀ (config : Config) (axis : String) (bound : Binary64),
      config.validate = .error (.emptyRange axis bound) ↔
        config.TopicsValid ∧ config.FirstEmpty (.emptyRange axis bound) := by
  refine ⟨fun a b inverted => ⟨?_, ?_, ?_, ?_⟩, fun axis x y inverted hx hy => ?_,
    fun config axis bound => Config.validate_empty_iff⟩
  · exact builtUnless_coincide ..
  · exact builtUnless_coincide ..
  · rintro rfl; rfl
  · exact fun ha hb => (coincide_iff ha hb).1
  · exact builtUnless_eq axis inverted hx hy

/-- The two largest integers are refused as bounds, `2 ^ 53` and the integer before it are not, and
neither are the two infinities; slats between the two smallest integers have no valid configuration. -/
theorem refused_iff_empty_far :
    let slats : TiltSection :=
      { TiltSection.default with min := Int64.minValue, max := Int64.minValue + 1 }
    let config : Config := { Config.named "blind" with tilt := some slats }
    position Int64.maxValue (Int64.maxValue - 1) =
      .error (.emptyRange "position" (raw Int64.maxValue)) ∧
    (∃ scale, tilt 9007199254740991 9007199254740992 true = .ok scale ∧
      scale.lower.lt scale.upper = true) ∧
    (∃ scale, ofBounds "range" (infinite false) (infinite true) false = .ok scale ∧
      scale.lower.lt scale.upper = true) ∧
    config.validate = .error (.emptyRange "tilt" (raw slats.min)) := by
  intro slats config
  obtain ⟨hscales, hbounds, hconfig⟩ := refused_iff_empty
  have hlargest : Coincide Int64.maxValue (Int64.maxValue - 1) := eq_raw_iff.1 (by decide +kernel)
  have hsmallest : Coincide slats.min slats.max := eq_raw_iff.1 (by decide +kernel)
  have hapart : ¬Coincide 9007199254740991 9007199254740992 := fun h =>
    absurd ((hscales _ _ true).2.2.2 (by decide) (by decide) h) (by decide)
  have hposition : ¬Coincide config.positionOpened config.positionClosed := fun h =>
    absurd ((hscales _ _ true).2.2.2 (by decide) (by decide) h) (by decide)
  have htopics : config.TopicsValid := by
    constructor
    · rintro (_ | _) topic htopic <;> cases htopic
    · rintro (_ | _) filter hfilter <;> cases hfilter
  have hinfinite : ¬(infinite false).eq (infinite true) = true := by decide +kernel
  exact ⟨(hscales _ _ true).1.refused.2 hlargest, (hscales _ _ true).2.1.built hapart,
    (hbounds "range" _ _ false rfl rfl).built hinfinite,
    (hconfig config _ _).2 ⟨htopics, .tilt hposition rfl hsmallest⟩⟩

/-- `2 ^ 53` and the integer after it are different bounds and are refused as if they were equal. -/
theorem apart_refused :
    (9007199254740992 : Int64) ≠ 9007199254740993 ∧
    position 9007199254740992 9007199254740993 =
      .error (.emptyRange "position" (raw 9007199254740992)) ∧
    tilt 9007199254740992 9007199254740993 false =
      .error (.emptyRange "tilt" (raw 9007199254740992)) ∧
    { Config.named "gate" with
        positionOpened := 9007199254740992, positionClosed := 9007199254740993 }.validate =
      .error (.emptyRange "position" (raw 9007199254740992)) := by
  refine ⟨by decide, by decide +kernel, by decide +kernel, by decide +kernel⟩

end Scale

end CoverControl
