import CoverControl.Proofs.Config
import CoverControl.Proofs.Decimal.Grammar
import CoverControl.Proofs.Decimal.Nearest

/-!
# Numbers in payloads

A payload of positions or tilts is a number if it is a numeral between blanks (`Written`), and one that is
not too large for a finite binary number (`number_eq_ok_iff`). The names of infinity and NaN are understood
too, but what they name is not finite, so they are refused like any other text.
-/

namespace CoverControl

open Binary64

seal unitsPerOne unitsLimit

/-! ### Numerals between blanks -/

namespace Decimal
variable {cs sign places fraction exponent ds : List Char} {negative : Bool} {e : ℤ} {d : Decimal}
  {text : String} {x : Binary64}

theorem Digits.solid (h : Digits ds) : Text.Solid ds := fun c hc => Text.not_isBlank_of_isDigit (h c hc)

theorem Sign.solid (h : Sign sign negative) : Text.Solid sign := by
  cases h with
  | absent => simp [Text.Solid]
  | plus | minus => exact List.forall_mem_singleton.2 (by decide)

theorem Fraction.solid (h : Fraction fraction places) : Text.Solid fraction := by
  cases h with
  | absent => simp [Text.Solid]
  | point hplaces => exact List.forall_mem_cons.2 ⟨by decide, hplaces.solid⟩

theorem Exponent.solid (h : Exponent exponent e) : Text.Solid exponent := by
  cases h with
  | absent => simp [Text.Solid]
  | present hmark hsign hdigits =>
    refine List.forall_mem_cons.2 ⟨?_, List.forall_mem_append.2 ⟨hsign.solid, hdigits.solid⟩⟩
    rcases hmark with rfl | rfl <;> decide

theorem Numeral.solid (h : Numeral cs d) : Text.Solid cs := by
  cases h with
  | intro hsign hwhole hfraction hexponent =>
    refine List.forall_mem_append.2 ⟨hsign.solid, List.forall_mem_append.2 ⟨hwhole.solid, ?_⟩⟩
    exact List.forall_mem_append.2 ⟨hfraction.solid, hexponent.solid⟩

/-- A text is a numeral between blanks. -/
def Written (text : String) (d : Decimal) : Prop :=
  ∃ front numeral back, Text.Blank front ∧ Text.Blank back ∧ Numeral numeral d ∧
    text.toList = front ++ (numeral ++ back)

theorem read?_trim_iff : read? (Text.trim text.toList) = some d ↔ d.Written text := by
  rw [read?_eq_some_iff]
  constructor
  · intro h
    obtain ⟨front, back, hfront, hback, htext⟩ := Text.exists_blanks text.toList
    exact ⟨front, _, back, hfront, hback, h, htext⟩
  · rintro ⟨front, numeral, back, hfront, hback, hnumeral, htext⟩
    rwa [htext, Text.trim_surrounded hfront hnumeral.solid hback]

theorem isFinite_of_readName? (h : readName? cs = some x) : x.isFinite = false := by
  simp only [readName?] at h
  split at h
  · cases h; rfl
  split at h
  · cases h; rfl
  · cases h

/-- Among the finite numbers are no names. -/
theorem filter_number? (cs : List Char) :
    (number? cs).filter isFinite = ((read? cs).map toBinary64).filter isFinite := by
  cases hread : read? cs with
  | some d => rw [number?, hread]; rfl
  | none =>
    rw [number?, hread, Option.map_none, Option.none_or, Option.filter_none, Option.filter_eq_none_iff]
    intro x hname
    simp [isFinite_of_readName? hname]

end Decimal

/-- The percentages in a change. -/
def Change.percents (change : Change) : List Percent := change.leaves.filterMap fun
  | .position percent | .tilt percent => some percent
  | _ => none

namespace Decoder
variable {config : Config} {decoder : Decoder} {text payload : String} {x : Binary64}

theorem number_eq_ok_iff :
    number text = .ok x ↔ ∃ d : Decimal, d.Written text ∧ InRange d.value ∧ d.toBinary64 = x := by
  have hnumber : number text = .ok x ↔
      ((Decimal.read? (Text.trim text.toList)).map Decimal.toBinary64).filter isFinite = some x := by
    rw [number, Decimal.filter_number?]
    split
    · rename_i heq
      rw [heq, Except.ok.injEq, Option.some.injEq]
    · rename_i heq
      simp [heq]
  rw [hnumber, Option.filter_eq_some_iff, Option.map_eq_some_iff]
  constructor
  · rintro ⟨⟨d, hread, rfl⟩, hfinite⟩
    exact ⟨d, Decimal.read?_trim_iff.1 hread, Decimal.isFinite_toBinary64_iff.1 hfinite, rfl⟩
  · rintro ⟨d, hwritten, hrange, rfl⟩
    exact ⟨⟨d, Decimal.read?_trim_iff.2 hwritten, rfl⟩, Decimal.isFinite_toBinary64_iff.2 hrange⟩

theorem number_cases (text : String) :
    (∃ x, number text = .ok x) ∨ number text = .error (.notNumeric text) := by
  unfold number
  split
  · exact .inl ⟨_, rfl⟩
  · exact .inr rfl

theorem decode_position (h : decoder.template = none) (payload : String) : decoder.decode .position payload =
    (number payload).map fun x => .positionFeedback (decoder.position.percent x) := by
  rw [decode, render_of_plain h]
  rfl

theorem decode_tilt (decoder : Decoder) (payload : String) : decoder.decode .tilt payload =
    (number payload).map fun x => .tilt (decoder.tilt.percent x) := rfl

/-- A channel takes the numerals that are rounded to a finite number, and these are the ones below the halfway
point between the largest finite number and the next power of two. -/
structure TakesNumerals (decoder : Decoder) (channel : Channel) (meaning : Binary64 → Change)
    (payload : String) : Prop where
  accepted : (∃ change, decoder.decode channel payload = .ok change) ↔
    ∃ d : Decimal, d.Written payload ∧ |d.value| < 2 ^ 1024 - 2 ^ 970
  /-- The fault tells the payload as it came, with its blanks. -/
  refused : (∀ d : Decimal, d.Written payload → 2 ^ 1024 - 2 ^ 970 ≤ |d.value|) →
    decoder.decode channel payload = .error (.notNumeric payload)
  meant : ∀ change, decoder.decode channel payload = .ok change → ∃ d : Decimal, d.Written payload ∧
    ∃ x : Binary64, x.Holds (rounded d.value) ∧ change = meaning x
  bounded : ∀ change, decoder.decode channel payload = .ok change → ∀ percent ∈ change.percents,
    percent.value ≤ 100

theorem takesNumerals_of_map {channel : Channel} {meaning : Binary64 → Change}
    (h : decoder.decode channel payload = (number payload).map meaning) :
    decoder.TakesNumerals channel meaning payload := by
  have hwritten {change : Change} (hok : decoder.decode channel payload = .ok change) : ∃ d : Decimal,
      d.Written payload ∧ InRange d.value ∧ meaning d.toBinary64 = change := by
    rw [h] at hok
    obtain ⟨x, hx, rfl⟩ := map_eq_ok.1 hok
    obtain ⟨d, hd, hrange, rfl⟩ := number_eq_ok_iff.1 hx
    exact ⟨d, hd, hrange, rfl⟩
  refine ⟨⟨?_, ?_⟩, fun hlarge => ?_, fun change hok => ?_, fun _ _ percent _ => percent.value_le⟩
  · rintro ⟨change, hok⟩
    obtain ⟨d, hd, hrange, -⟩ := hwritten hok
    exact ⟨d, hd, inRange_iff_abs_lt.1 hrange⟩
  · rintro ⟨d, hd, hlt⟩
    refine ⟨meaning d.toBinary64, ?_⟩
    rw [h, map_eq_ok]
    exact ⟨_, number_eq_ok_iff.2 ⟨d, hd, inRange_iff_abs_lt.2 hlt, rfl⟩, rfl⟩
  · rcases number_cases payload with ⟨x, hx⟩ | hfault
    · obtain ⟨d, hd, hrange, -⟩ := number_eq_ok_iff.1 hx
      exact absurd (inRange_iff_abs_lt.1 hrange) (hlarge d hd).not_gt
    · rw [h, hfault]
      rfl
  · obtain ⟨d, hd, hrange, rfl⟩ := hwritten hok
    exact ⟨d, hd, _, Decimal.holds_toBinary64 hrange, rfl⟩

/-- Without a value template, positions and tilts are told by numerals: every finite one is taken, wherever it
lies in the range or outside, and nothing else. -/
theorem numerals_taken (hdecoder : ofConfig config = .ok decoder) (hplain : config.valueTemplate = none)
    (payload : String) :
    decoder.TakesNumerals .position (fun x => .positionFeedback (decoder.position.percent x)) payload ∧
    decoder.TakesNumerals .tilt (fun x => .tilt (decoder.tilt.percent x)) payload := by
  obtain ⟨-, -, htemplate⟩ := scales_of_ok hdecoder
  exact ⟨takesNumerals_of_map (decode_position (htemplate.trans hplain) payload),
    takesNumerals_of_map (decoder.decode_tilt payload)⟩

/-- A numeral between blanks, one that is too large, and a name. -/
theorem numerals_taken_blind :
    let config := Config.named "blind"
    config.valueTemplate = none ∧ ∃ decoder, ofConfig config = .ok decoder ∧
      (∃ change, decoder.decode .position "\u00a0+.5E2\n" = .ok change) ∧
      decoder.decode .tilt " 1e400" = .error (.notNumeric " 1e400") ∧
      decoder.decode .tilt "-Infinity" = .error (.notNumeric "-Infinity") := by
  intro config
  have hvalid : config.validate = .ok () := eq_ok_of_isOk (by decide +kernel)
  obtain ⟨decoder, hdecoder⟩ := ofConfig_of_valid hvalid
  refine ⟨rfl, decoder, hdecoder, (numerals_taken hdecoder rfl _).1.accepted.2 ?_,
    (numerals_taken hdecoder rfl _).2.refused ?_, (numerals_taken hdecoder rfl _).2.refused ?_⟩
  · have hfifty : |(⟨false, 5, 1⟩ : Decimal).value| ≤ 2 ^ 6 := by norm_num [Decimal.value, signedUnits]
    exact ⟨⟨false, 5, 1⟩, Decimal.read?_trim_iff.1 (by decide +kernel),
      inRange_iff_abs_lt.1 (inRange_of_abs_le (by decide) hfifty)⟩
  · intro d hd
    have hread : Decimal.read? (Text.trim " 1e400".toList) = some ⟨false, 1, 400⟩ := by decide +kernel
    obtain rfl := Option.some.inj ((Decimal.read?_trim_iff.2 hd).symm.trans hread)
    have hinfinite : (⟨false, 1, 400⟩ : Decimal).toBinary64.isFinite = false := by decide +kernel
    by_contra hlt
    rw [Decimal.isFinite_toBinary64_iff.2 (inRange_iff_abs_lt.2 (not_le.1 hlt))] at hinfinite
    cases hinfinite
  · intro d hd
    have hread : Decimal.read? (Text.trim "-Infinity".toList) = none := by decide +kernel
    cases (Decimal.read?_trim_iff.2 hd).symm.trans hread

end Decoder

end CoverControl
