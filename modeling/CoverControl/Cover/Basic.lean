import CoverControl.Config.Features
import CoverControl.Decoder
import CoverControl.Encoder
import CoverControl.Journal
import CoverControl.Listeners

/-!
# Covers

A cover joins the parts: it decodes the feedback of its device into a state, encodes commands for
the device, and announces each change of the state to its listeners.
-/

namespace CoverControl

structure Cover where
  entityId : String
  encoder : Encoder
  tracker : Tracker
  listeners : Listeners
  /-- The filters it is subscribed to, in the order of subscription. -/
  activeTopics : List String

/-- An announced change: the snapshot after it and the calls it led to. -/
structure Notice where
  change : Change
  snapshot : Snapshot
  calls : List Listeners.Call
deriving Repr

namespace Cover

def config (cover : Cover) : Config := cover.encoder.config

def state (cover : Cover) : State := cover.tracker.state

/-- The state as the hub is shown it. -/
def exposedState (cover : Cover) : String :=
  if cover.state.available then cover.state.status.name else Snapshot.unavailable

def snapshot (cover : Cover) : Snapshot where
  entityId := cover.entityId
  name := cover.config.name
  state := cover.exposedState
  position := cover.state.position
  tilt := cover.state.tilt
  assumed := cover.encoder.isOptimistic
  features := cover.config.features.bits
  deviceClass := cover.config.deviceClass
  attributes := cover.state.attributes

/-- A new cover of a valid configuration, without subscriptions and listeners. -/
def create (entityId : String) (config : Config) : Except Failure Cover := do
  config.validate.mapError .config
  let encoder ← (Encoder.ofConfig config).mapError .config
  let tracker ← (Tracker.ofConfig config).mapError .config
  .ok ⟨entityId, encoder, tracker, .empty, []⟩

/-- What is reported when a cover comes to be. -/
def creationEntry (cover : Cover) : Journal.Entry :=
  .created cover.entityId cover.encoder.isOptimistic cover.config.features.bits

/-- Announces a change that was just made. -/
def announce (cover : Cover) (change : Change) : Notice :=
  ⟨change, cover.snapshot, cover.listeners.announce change cover.snapshot⟩

/-- Makes a change and announces it if it altered the state. -/
def applyChange (cover : Cover) (change : Change) : Cover × List Notice :=
  let (tracker, altered) := cover.tracker.apply change
  let cover := { cover with tracker := tracker }
  (cover, if altered then [cover.announce change] else [])

end Cover

end CoverControl
