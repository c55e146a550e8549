import CoverControl.Config.Features
import CoverControl.Proofs.Changes

/-!
# Features and commands

The hub learns from the features of a configuration which commands its cover accepts, and the encoder
of the same configuration finds out for itself, command by command. Both say the same
(`features_agree`): a command needs a topic, and a cover supports it if the topic is there.

An encoder answers in one of three ways (`Answers`): it has no topic for the command, the template for
positions fails, or there is an order, published to the topic of the command. Which of them it is depends
on the configuration alone, so each way is told by its condition.
-/

namespace CoverControl

variable {config : Config} {encoder : Encoder} {command : Command} {answer : Except Failure Order}

/-! ### Features -/

theorem Features.land_bit_iff (features : Features) (command : Command) :
    features.bits &&& command.bit = command.bit ↔ features.supports command = true := by
  obtain ⟨openClose, setPosition, tilt⟩ := features
  cases openClose <;> cases setPosition <;> cases tilt <;> cases command <;>
    simp [bits, supports, Command.bit]

namespace Config

theorem supports_eq (config : Config) (command : Command) :
    config.features.supports command = (config.topicOf command).isSome := by
  cases command <;> rfl

/-- The template for positions fails on the target of a command. -/
def Unrendered (config : Config) (command : Command) (fault : TemplateFault) : Prop :=
  ∃ target template, command = .setPosition target ∧ config.positionTemplate = some template ∧
    template.render target = .error fault

theorem Unrendered.unique {fault fault' : TemplateFault} (h : config.Unrendered command fault)
    (h' : config.Unrendered command fault') : fault = fault' := by
  obtain ⟨target, template, rfl, htemplate, hrender⟩ := h
  obtain ⟨_, _, ⟨⟩, htemplate', hrender'⟩ := h'
  rw [htemplate] at htemplate'
  cases htemplate'
  exact Except.error.inj (hrender.symm.trans hrender')

/-- Whether a command is assumed to succeed; stopping assumes nothing. -/
def trusts (config : Config) : Command → Bool
  | .openCover | .closeCover | .setPosition _ => config.isOptimistic
  | .stopCover => false
  | .openTilt | .closeTilt | .setTilt _ => config.tilt.any (·.isOptimistic)

/-- An order is published to the topic of its command as the configuration has it, and assumes a change
if the command is assumed to succeed. -/
structure Suits (config : Config) (command : Command) (order : Order) : Prop where
  topic : config.topicOf command = some order.message.topic
  qos : order.message.qos = config.qos
  retain : order.message.retain = config.retain
  assumed : order.assumed.isSome = config.trusts command

end Config

/-! ### Answers -/

namespace Encoder

/-- What an encoder of a configuration answers to a command. -/
inductive Answers (config : Config) (command : Command) : Except Failure Order → Prop where
  | unsupported (htopic : config.topicOf command = none) :
      Answers config command (.error (.unsupported command.name))
  | unrendered {topic : String} {fault : TemplateFault} (htopic : config.topicOf command = some topic)
      (hfault : config.Unrendered command fault) : Answers config command (.error (.template fault))
  | order {order : Order} (hrendered : ∀ fault, ¬config.Unrendered command fault)
      (hsuits : config.Suits command order) : Answers config command (.ok order)

theorem trusts_eq (h : ofConfig config = .ok encoder) (command : Command) :
    encoder.trusts command = config.trusts command := by
  have htilt : encoder.isTiltOptimistic = config.tilt.any (·.isOptimistic) := by
    rw [isTiltOptimistic, ← tilt_eq_of_ok h]
    cases encoder.tilt <;> rfl
  cases command <;> simp [trusts, Config.trusts, isOptimistic, config_of_ok h, htilt]

theorem require_none {topic : Option String} (h : topic = none) :
    require command topic = .error (.unsupported command.name) := by
  rw [h]; rfl

theorem require_some {topic : Option String} {text : String} (h : topic = some text) :
    require command topic = .ok text := by
  rw [h]; rfl

/-- The payload that sends a cover to a position. -/
def positionPayload (encoder : Encoder) (target : Percent) : Except Failure String :=
  match encoder.config.positionTemplate with
  | some template => (template.render target).mapError .template
  | none => .ok (toString (encoder.position.value target).toInt)

theorem encode_setPosition {topic : String} (target : Percent)
    (htopic : encoder.config.setPositionTopic = some topic) :
    encoder.encode (.setPosition target) = (encoder.positionPayload target).map fun payload =>
      ⟨encoder.message topic payload,
        assumeIf encoder.isOptimistic (.positionFeedback target)⟩ := by
  rw [encode, moveTo, positionPayload, require_some htopic]
  cases encoder.config.positionTemplate with
  | none => rfl
  | some template => cases hrender : template.render target <;> simp only [hrender] <;> rfl

theorem positionPayload_error_iff {target : Percent} {failure : Failure} :
    encoder.positionPayload target = .error failure ↔
      ∃ fault, failure = .template fault ∧ encoder.config.Unrendered (.setPosition target) fault := by
  unfold positionPayload Config.Unrendered
  cases encoder.config.positionTemplate with
  | none => simp
  | some template => cases hrender : template.render target <;> simp [Except.mapError, hrender, eq_comm]

section
variable (h : ofConfig config = .ok encoder)
include h

/-- What a tilt command needs is there if its topic is. -/
theorem requireTilt_cases (command : Command) :
    config.tiltCommandTopic = none ∧
        encoder.requireTilt command = .error (.unsupported command.name) ∨
      ∃ tilt scale topic, config.tiltCommandTopic = some topic ∧
        encoder.requireTilt command = .ok (tilt, scale, topic) := by
  rw [Config.tiltCommandTopic, ← tilt_eq_of_ok h, requireTilt]
  cases encoder.tilt with
  | none => exact .inl ⟨rfl, rfl⟩
  | some pair =>
    obtain ⟨tilt, scale⟩ := pair
    cases htopic : tilt.commandTopic with
    | none => exact .inl ⟨htopic, by simp only [htopic]; rfl⟩
    | some topic => exact .inr ⟨tilt, scale, topic, htopic, by simp only [htopic]; rfl⟩

theorem encode_of_no_topic (htopic : config.topicOf command = none) :
    encoder.encode command = .error (.unsupported command.name) := by
  have hconfig := config_of_ok h
  cases command with
  | openCover | closeCover | stopCover | setPosition target =>
    rw [← hconfig] at htopic
    exact bind_eq_error.2 (.inl (require_none htopic))
  | openTilt | closeTilt | setTilt target =>
    rcases requireTilt_cases h _ with ⟨-, hrequire⟩ | ⟨tilt, scale, topic, hsome, -⟩
    · exact bind_eq_error.2 (.inl hrequire)
    · cases htopic.symm.trans hsome

theorem encode_of_unrendered {topic : String} {fault : TemplateFault}
    (htopic : config.topicOf command = some topic) (hfault : config.Unrendered command fault) :
    encoder.encode command = .error (.template fault) := by
  -- only a command to a position has a template that can fail
  obtain ⟨target, -, rfl, -⟩ := id hfault
  rw [← config_of_ok h] at htopic hfault
  rw [encode_setPosition target htopic, positionPayload_error_iff.2 ⟨fault, rfl, hfault⟩]
  rfl

theorem encode_of_rendered {topic : String} (htopic : config.topicOf command = some topic)
    (hrendered : ∀ fault, ¬config.Unrendered command fault) :
    ∃ order payload, encoder.encode command = .ok order ∧
      order.message = encoder.message topic payload := by
  have hconfig := config_of_ok h
  cases command with
  | openCover | closeCover | stopCover =>
    rw [← hconfig] at htopic
    exact ⟨_, _, bind_eq_ok.2 ⟨topic, require_some htopic, rfl⟩, rfl⟩
  | setPosition target =>
    rw [← hconfig] at htopic
    cases hpayload : encoder.positionPayload target with
    | ok payload => exact ⟨_, payload, by rw [encode_setPosition target htopic, hpayload]; rfl, rfl⟩
    | error failure =>
      obtain ⟨fault, -, hfault⟩ := positionPayload_error_iff.1 hpayload
      rw [hconfig] at hfault
      exact absurd hfault (hrendered fault)
  | openTilt | closeTilt | setTilt target =>
    rcases requireTilt_cases h _ with ⟨hnone, -⟩ | ⟨tilt, scale, topic', hsome, hrequire⟩
    · cases htopic.symm.trans hnone
    · cases htopic.symm.trans hsome
      exact ⟨_, _, bind_eq_ok.2 ⟨_, hrequire, rfl⟩, rfl⟩

theorem encode_answers (command : Command) : Answers config command (encoder.encode command) := by
  cases htopic : config.topicOf command with
  | none =>
    rw [encode_of_no_topic h htopic]
    exact .unsupported htopic
  | some topic =>
    by_cases hfault : ∃ fault, config.Unrendered command fault
    · obtain ⟨fault, hfault⟩ := hfault
      rw [encode_of_unrendered h htopic hfault]
      exact .unrendered htopic hfault
    · rw [not_exists] at hfault
      obtain ⟨order, payload, horder, hmessage⟩ := encode_of_rendered h htopic hfault
      have hassumed := isSome_assumed horder
      rw [trusts_eq h] at hassumed
      have hconfig := config_of_ok h
      rw [horder]
      refine .order hfault ⟨?_, ?_, ?_, hassumed⟩ <;> rw [hmessage]
      · exact htopic
      · rw [message, hconfig]
      · rw [message, hconfig]

end

/-! ### Agreement -/

/-- What a configuration tells of a command, and the answer of an encoder to it. -/
structure Agrees (config : Config) (command : Command) (answer : Except Failure Order) : Prop where
  unsupported : ∀ name, answer = .error (.unsupported name) ↔
    config.features.supports command = false ∧ name = command.name
  template : ∀ fault, answer = .error (.template fault) ↔
    config.features.supports command = true ∧ config.Unrendered command fault
  accepted : config.features.supports command = true → (∀ fault, ¬config.Unrendered command fault) →
    ∃ order, answer = .ok order ∧ config.Suits command order ∧
      Topic.checkPublished order.message.topic = .ok ()
  bit : config.features.bits &&& command.bit = command.bit ↔
    ∀ name, answer ≠ .error (.unsupported name)

theorem Answers.agrees (h : Answers config command answer) (htopics : config.TopicsValid) :
    Agrees config command answer := by
  cases h with
  | unsupported htopic =>
    have hlacks : config.features.supports command = false := by
      rw [config.supports_eq, htopic]; rfl
    refine ⟨fun name => ?_, fun fault => ?_, fun hsupports => ?_, ?_⟩
    · simp [hlacks, eq_comm]
    · simp [hlacks]
    · rw [hlacks] at hsupports; cases hsupports
    · simp [Features.land_bit_iff, hlacks]
  | @unrendered topic fault htopic hfault =>
    have hsupports : config.features.supports command = true := by
      rw [config.supports_eq, htopic]; rfl
    refine ⟨fun name => ?_, fun fault' => ?_, fun _ hrendered => ?_, ?_⟩
    · simp [hsupports]
    · constructor
      · rintro ⟨⟩
        exact ⟨hsupports, hfault⟩
      · rintro ⟨-, hfault'⟩
        rw [hfault.unique hfault']
    · exact absurd hfault (hrendered fault)
    · simp [Features.land_bit_iff, hsupports]
  | order hrendered hsuits =>
    have hsupports : config.features.supports command = true := by
      rw [config.supports_eq, hsuits.topic]; rfl
    refine ⟨fun name => ?_, fun fault => ?_, fun _ _ => ?_, ?_⟩
    · simp [hsupports]
    · simp [hrendered]
    · exact ⟨_, rfl, hsuits, htopics.published _ _ hsuits.topic⟩
    · simp [Features.land_bit_iff, hsupports]

/-- Every valid configuration has an encoder, whose answer to each command agrees with the features: a
command is not supported if and only if the features lack it, which the number for the hub shows by its
bit; a template fails if and only if it is asked and does not render; and all other commands have an order
that is published to their topic with the quality of service and the retain flag of the configuration,
and that assumes a change if and only if such commands are assumed to succeed. -/
theorem features_agree (hvalid : config.validate = .ok ()) :
    ∃ encoder, ofConfig config = .ok encoder ∧
      ∀ command, Agrees config command (encoder.encode command) := by
  obtain ⟨encoder, hencoder⟩ := ofConfig_of_valid hvalid
  exact ⟨encoder, hencoder, fun command =>
    (encode_answers hencoder command).agrees (Config.topicsValid_of_valid hvalid)⟩

/-- A blind that cannot be opened as a whole, that does not go below 20, and that has slats. -/
theorem features_agree_blind :
    let render : Percent → Except TemplateFault String := fun target =>
      if target.value < 20 then .error ⟨"too low"⟩ else .ok target.text
    let slats : TiltSection := { TiltSection.default with commandTopic := some "t" }
    let config : Config :=
      { Config.named "blind" with
        setPositionTopic := some "p", positionTemplate := some ⟨render⟩, stateTopic := some "s"
        qos := .exactlyOnce, tilt := some slats }
    config.validate = .ok () ∧ config.features.bits = 244 ∧
    ∃ encoder, ofConfig config = .ok encoder ∧
      encoder.encode .openCover = .error (.unsupported "open") ∧
      encoder.encode (.setPosition .closed) = .error (.template ⟨"too low"⟩) ∧
      (∃ order, encoder.encode (.setPosition .opened) = .ok order ∧ order.message.topic = "p" ∧
        order.message.qos = .exactlyOnce ∧ order.assumed = none) ∧
      ∃ order, encoder.encode .closeTilt = .ok order ∧ order.message.topic = "t" ∧
        order.assumed.isSome = true := by
  intro render slats config
  have hvalid : config.validate = .ok () := eq_ok_of_isOk (by decide +kernel)
  obtain ⟨encoder, hencoder, hagrees⟩ := features_agree hvalid
  have hrendered : ∀ fault, ¬config.Unrendered (.setPosition .opened) fault := by
    rintro fault ⟨target, template, htarget, htemplate, hfault⟩
    cases htarget; cases htemplate; cases hfault
  have hslats : ∀ fault, ¬config.Unrendered .closeTilt fault := by
    rintro fault ⟨target, template, htarget, -⟩
    cases htarget
  obtain ⟨moved, hmoved, hsuits, -⟩ := (hagrees (.setPosition .opened)).accepted rfl hrendered
  obtain ⟨tilted, htilted, hsuits', -⟩ := (hagrees .closeTilt).accepted rfl hslats
  refine ⟨hvalid, rfl, encoder, hencoder, ?_, ?_, ⟨moved, hmoved, ?_, hsuits.qos, ?_⟩,
    tilted, htilted, ?_, hsuits'.assumed⟩
  · exact ((hagrees .openCover).unsupported _).2 ⟨rfl, rfl⟩
  · exact ((hagrees _).template _).2 ⟨rfl, .closed, ⟨render⟩, rfl, rfl, rfl⟩
  · exact (Option.some.inj hsuits.topic).symm
  · have hnothing : moved.assumed.isSome = false := hsuits.assumed
    simpa using hnothing
  · exact (Option.some.inj hsuits'.topic).symm

end Encoder

end CoverControl
