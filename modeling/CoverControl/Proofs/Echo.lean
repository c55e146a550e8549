import CoverControl.Encoder
import CoverControl.Proofs.Config
import CoverControl.Proofs.Numerals
import CoverControl.Proofs.Scale.RoundTrip

/-!
# Echoes of commands

A device that reports the very number it was told to go to is understood to be where it was told to
go: the encoder prints a raw value, the decoder of the same configuration reads the binary number
nearest to it, and the scale that both take from the configuration brings the percentage back.

An order to open or to close the tilt publishes a raw value of the configuration as it is, and assumes
the percentage of that value. So its echo is understood as it was assumed for all values and bounds.
-/

namespace CoverControl

open Binary64

seal unitsPerOne unitsLimit

theorem Decoder.number_raw (v : Int64) : number (toString v.toInt) = .ok (Scale.raw v) := by
  obtain ⟨i, hholds, -⟩ := Scale.exists_holds_raw v
  exact number_toString hholds

variable {config : Config} {encoder : Encoder} {decoder : Decoder} {target : Percent}

/-- A raw tilt that is printed is read as its percentage. -/
theorem Decoder.decode_raw_tilt (decoder : Decoder) (v : Int64) :
    decoder.decode .tilt (toString v.toInt) = .ok (.tilt (decoder.tilt.percent (Scale.raw v))) :=
  bind_eq_ok.2 ⟨_, number_raw v, rfl⟩

/-- The encoder and the decoder of a configuration have the same scale of tilts. -/
theorem Encoder.tilt_shared {tilt : TiltSection} (hencoder : Encoder.ofConfig config = .ok encoder)
    (hdecoder : Decoder.ofConfig config = .ok decoder) (hsection : config.tilt = some tilt) :
    tilt.scale = .ok decoder.tilt ∧ encoder.tilt = some (tilt, decoder.tilt) := by
  obtain ⟨scale, hscale, htilt⟩ := tilt_of_ok hencoder hsection
  obtain ⟨-, hscale', -⟩ := Decoder.scales_of_ok hdecoder
  rw [Config.tiltScale, hsection] at hscale'
  obtain rfl : scale = decoder.tilt := Except.ok.inj (hscale.symm.trans hscale')
  exact ⟨hscale, htilt⟩

/-- The bounds of all ranges have at most 31 bits. -/
structure Config.SmallBounds (config : Config) : Prop where
  opened : |config.positionOpened.toInt| ≤ 2 ^ 31
  closed : |config.positionClosed.toInt| ≤ 2 ^ 31
  tilt : ∀ tilt, config.tilt = some tilt → |tilt.min.toInt| ≤ 2 ^ 31 ∧ |tilt.max.toInt| ≤ 2 ^ 31

theorem Config.SmallBounds.hasScales_iff (h : config.SmallBounds) :
    config.HasScales ↔ config.positionOpened ≠ config.positionClosed ∧
      ∀ tilt, config.tilt = some tilt → tilt.min ≠ tilt.max := by
  have hposition : (∃ scale, config.positionScale = .ok scale) ↔
      config.positionOpened ≠ config.positionClosed :=
    Scale.ofBounds_ok_iff (Scale.holds_raw_of_abs_le h.opened) (Scale.holds_raw_of_abs_le h.closed)
  have htilt : ∀ tilt, config.tilt = some tilt →
      ((∃ scale, tilt.scale = .ok scale) ↔ tilt.min ≠ tilt.max) := by
    intro tilt hsection
    obtain ⟨hmin, hmax⟩ := h.tilt tilt hsection
    exact Scale.ofBounds_ok_iff (Scale.holds_raw_of_abs_le hmin) (Scale.holds_raw_of_abs_le hmax)
  constructor
  · exact fun hscales => ⟨hposition.1 hscales.position,
      fun tilt hsection => (htilt tilt hsection).1 (hscales.tilt tilt hsection)⟩
  · exact fun hranges => ⟨hposition.2 hranges.1,
      fun tilt hsection => (htilt tilt hsection).2 (hranges.2 tilt hsection)⟩

namespace Encoder

/-- What an order asks for is what a decoder makes of its payload on a channel, and what the order
assumes if it is optimistic. -/
structure Echoed (decoder : Decoder) (channel : Channel) (optimistic : Bool) (change : Change)
    (order : Order) : Prop where
  decoded : decoder.decode channel order.message.payload = .ok change
  assumed : order.assumed = if optimistic then some change else none

section
variable (hencoder : ofConfig config = .ok encoder) (hdecoder : Decoder.ofConfig config = .ok decoder)
  (hsmall : config.SmallBounds)
include hencoder hdecoder hsmall

theorem echoed_position (hvalue : config.valueTemplate = none)
    (hposition : config.positionTemplate = none) (htopic : config.setPositionTopic.isSome = true)
    (hfar : 100 ≤ |config.positionOpened.toInt - config.positionClosed.toInt|) (target : Percent) :
    ∃ order, encoder.encode (.setPosition target) = .ok order ∧
      Echoed decoder .position config.isOptimistic (.positionFeedback target) order := by
  obtain ⟨topic, htopic⟩ := Option.isSome_iff_exists.1 htopic
  obtain ⟨hconfig, hscale⟩ := parts_of_ok hencoder
  obtain ⟨hscale', -, htemplate⟩ := Decoder.scales_of_ok hdecoder
  have hsame : encoder.position = decoder.position := Except.ok.inj (hscale.symm.trans hscale')
  have hback := Scale.percent_raw_value hsmall.opened hsmall.closed hfar hscale' target
  refine ⟨⟨encoder.message topic (toString (encoder.position.value target).toInt),
    assumeIf encoder.isOptimistic (.positionFeedback target)⟩, ?_, ?_, ?_⟩
  · simp only [encode, moveTo, hconfig, htopic, hposition]; rfl
  · rw [hsame, Decoder.decode, Decoder.render_of_plain (htemplate.trans hvalue)]
    refine bind_eq_ok.2 ⟨_, rfl, bind_eq_ok.2 ⟨_, Decoder.number_raw _, ?_⟩⟩
    rw [hback]
  · rw [isOptimistic, hconfig]; rfl

theorem echoed_tilt {tilt : TiltSection} (hsection : config.tilt = some tilt)
    (htopic : tilt.commandTopic.isSome = true) (hfar : 100 ≤ |tilt.max.toInt - tilt.min.toInt|)
    (target : Percent) :
    ∃ order, encoder.encode (.setTilt target) = .ok order ∧
      Echoed decoder .tilt tilt.isOptimistic (.tilt target) order := by
  obtain ⟨topic, htopic⟩ := Option.isSome_iff_exists.1 htopic
  obtain ⟨hscale, htilt⟩ := tilt_shared hencoder hdecoder hsection
  obtain ⟨hmin, hmax⟩ := hsmall.tilt tilt hsection
  have hback := Scale.percent_raw_value hmin hmax (by rwa [abs_sub_comm]) hscale target
  refine ⟨encoder.tiltOrder tilt topic (decoder.tilt.value target) target, ?_, ?_, rfl⟩
  · simp only [encode, requireTilt, htilt, htopic]; rfl
  · have hread := decoder.decode_raw_tilt (decoder.tilt.value target)
    rwa [hback] at hread

end

/-- A configuration with small bounds and without templates has an encoder if its ranges are not empty,
and then a decoder too, which understands the echo of each order to go to a position or to a tilt as
the order was meant, if a percentage is worth at least one raw step. -/
theorem orders_echoed (hsmall : config.SmallBounds) (hvalue : config.valueTemplate = none)
    (hposition : config.positionTemplate = none) (target : Percent) :
    ((∃ encoder, ofConfig config = .ok encoder) ↔
      config.positionOpened ≠ config.positionClosed ∧
        ∀ tilt, config.tilt = some tilt → tilt.min ≠ tilt.max) ∧
    ∀ encoder, ofConfig config = .ok encoder →
      ∃ decoder, Decoder.ofConfig config = .ok decoder ∧
        (config.setPositionTopic.isSome = true →
          100 ≤ |config.positionOpened.toInt - config.positionClosed.toInt| →
          ∃ order, encoder.encode (.setPosition target) = .ok order ∧
            Echoed decoder .position config.isOptimistic (.positionFeedback target) order) ∧
        ∀ tilt, config.tilt = some tilt → tilt.commandTopic.isSome = true →
          100 ≤ |tilt.max.toInt - tilt.min.toInt| →
          ∃ order, encoder.encode (.setTilt target) = .ok order ∧
            Echoed decoder .tilt tilt.isOptimistic (.tilt target) order := by
  refine ⟨?_, fun encoder hencoder => ?_⟩
  · rw [← hsmall.hasScales_iff]
    exact ⟨fun ⟨_, h⟩ => hasScales_of_ok h, ofConfig_of_scales⟩
  · obtain ⟨decoder, hdecoder⟩ := Decoder.ofConfig_of_scales (hasScales_of_ok hencoder)
    refine ⟨decoder, hdecoder, fun htopic hfar => ?_, fun tilt hsection htopic hfar => ?_⟩
    · exact echoed_position hencoder hdecoder hsmall hvalue hposition htopic hfar target
    · exact echoed_tilt hencoder hdecoder hsmall hsection htopic hfar target

/-- A blind whose motor counts backwards, with slats that are mounted the other way round. -/
theorem orders_echoed_blind :
    let slats : TiltSection :=
      { TiltSection.default with commandTopic := some "t", min := -90, max := 90, inverted := true }
    let config : Config :=
      { Config.named "blind" with
        setPositionTopic := some "p", positionOpened := -20, positionClosed := 337, tilt := some slats }
    let target : Percent := ⟨37, by decide⟩
    config.SmallBounds ∧ config.valueTemplate = none ∧ config.positionTemplate = none ∧
    ∃ encoder decoder, ofConfig config = .ok encoder ∧ Decoder.ofConfig config = .ok decoder ∧
      (∃ order, encoder.encode (.setPosition target) = .ok order ∧
        Echoed decoder .position config.isOptimistic (.positionFeedback target) order) ∧
      ∃ order, encoder.encode (.setTilt target) = .ok order ∧
        Echoed decoder .tilt slats.isOptimistic (.tilt target) order := by
  intro slats config target
  have hsmall : config.SmallBounds := by
    refine ⟨by decide, by decide, fun tilt hsection => ?_⟩
    cases hsection
    exact ⟨by decide, by decide⟩
  have h := orders_echoed hsmall rfl rfl target
  obtain ⟨encoder, hencoder⟩ := h.1.2 ⟨by decide, fun tilt hsection => by cases hsection; decide⟩
  obtain ⟨decoder, hdecoder, hposition, htilt⟩ := h.2 encoder hencoder
  exact ⟨hsmall, rfl, rfl, encoder, decoder, hencoder, hdecoder, hposition rfl (by decide),
    htilt slats rfl rfl (by decide)⟩

/-! ### The ends of the tilt -/

/-- An order to open or to close the tilt assumes what a decoder with the same scale makes of its
payload. -/
theorem echoed_end {tilt : TiltSection} (htilt : encoder.tilt = some (tilt, decoder.tilt))
    (htopic : tilt.commandTopic.isSome = true) {command : Command}
    (hcommand : command ∈ [Command.openTilt, .closeTilt]) :
    ∃ order tilted, encoder.encode command = .ok order ∧
      Echoed decoder .tilt tilt.isOptimistic (.tilt tilted) order := by
  obtain ⟨topic, htopic⟩ := Option.isSome_iff_exists.1 htopic
  have hechoed : ∀ v, Echoed decoder .tilt tilt.isOptimistic
      (.tilt (decoder.tilt.percent (Scale.raw v)))
      (encoder.tiltOrder tilt topic v (decoder.tilt.percent (Scale.raw v))) :=
    fun v => ⟨decoder.decode_raw_tilt v, rfl⟩
  rcases List.mem_pair.1 hcommand with rfl | rfl
  · refine ⟨_, _, ?_, hechoed tilt.openedValue⟩
    simp only [encode, requireTilt, htilt, htopic]; rfl
  · refine ⟨_, _, ?_, hechoed tilt.closedValue⟩
    simp only [encode, requireTilt, htilt, htopic]; rfl

/-- For every valid configuration with an optimistic tilt that has a topic for commands, whatever its
bounds and the raw values of its ends: the orders to open and to close the tilt assume a change, and the
payload they publish is decoded as that very change if the device sends it back. -/
theorem tilt_ends_echoed (hvalid : config.validate = .ok ()) {tilt : TiltSection}
    (hsection : config.tilt = some tilt) (htopic : tilt.commandTopic.isSome = true)
    (hoptimistic : tilt.isOptimistic = true) :
    ∃ encoder tracker, ofConfig config = .ok encoder ∧ Tracker.ofConfig config = .ok tracker ∧
      ∀ command ∈ [Command.openTilt, .closeTilt], ∃ order change,
        encoder.encode command = .ok order ∧ order.assumed = some change ∧
        tracker.decoder.decode .tilt order.message.payload = .ok change := by
  obtain ⟨encoder, hencoder⟩ := ofConfig_of_valid hvalid
  obtain ⟨decoder, hdecoder⟩ := Decoder.ofConfig_of_valid hvalid
  obtain ⟨-, htilt⟩ := tilt_shared hencoder hdecoder hsection
  refine ⟨encoder, _, hencoder, Tracker.ofConfig_of_decoder hdecoder, fun command hcommand => ?_⟩
  obtain ⟨order, tilted, horder, hechoed⟩ := echoed_end htilt htopic hcommand
  refine ⟨order, .tilt tilted, horder, ?_, hechoed.decoded⟩
  rw [hechoed.assumed, if_pos hoptimistic]

/-- Slats that are opened with the largest integer of 64 bits, which is no binary number, and closed with
a negative value below their range. -/
theorem tilt_ends_echoed_slats :
    let slats : TiltSection :=
      { TiltSection.default with
        commandTopic := some "t", openedValue := Int64.maxValue, closedValue := -9007199254740993
        min := 7, max := 9007199254740993, inverted := true }
    let config : Config := { Config.named "blind" with tilt := some slats }
    config.validate = .ok () ∧ config.tilt = some slats ∧ slats.commandTopic.isSome = true ∧
    slats.isOptimistic = true ∧
    ∃ encoder tracker, ofConfig config = .ok encoder ∧ Tracker.ofConfig config = .ok tracker ∧
      ∀ command ∈ [Command.openTilt, .closeTilt], ∃ order change,
        encoder.encode command = .ok order ∧ order.assumed = some change ∧
        tracker.decoder.decode .tilt order.message.payload = .ok change := by
  intro slats config
  have hvalid : config.validate = .ok () := eq_ok_of_isOk (by decide +kernel)
  exact ⟨hvalid, rfl, rfl, rfl, tilt_ends_echoed hvalid rfl rfl rfl⟩

end Encoder

end CoverControl
