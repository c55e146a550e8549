import CoverControl.Change

/-!
# State of a cover

What is known about one cover. `State.apply` makes a change and tells whether it altered anything;
attributes are merged into those already known.
-/

namespace CoverControl

structure State where
  status : Status
  position : Option Percent
  tilt : Option Percent
  available : Bool
  attributes : Json.Object
deriving Repr, Inhabited

namespace State

/-- A state in which nothing is known but whether the cover is available. -/
def initial (available : Bool) : State := ⟨.unknown, none, none, available, []⟩

/-- Whether the cover is closed, if that is known. -/
def isClosed (state : State) : Option Bool := state.status.isClosed

/-- Merges fields into the attributes; a value equal to the old one is left alone. -/
def mergeAttributes : List (String × Json.Value) → Json.Object → Json.Object × Bool
  | [], attributes => (attributes, false)
  | (key, value) :: fields, attributes =>
    if (attributes.get? key).any (·.same value) then mergeAttributes fields attributes
    else ((mergeAttributes fields (attributes.insert key value)).1, true)

mutual

/-- Makes a change, and tells whether it altered the state. -/
def apply : Change → State → State × Bool
  | .status status, state => ({ state with status := status }, state.status != status)
  | .position position, state =>
    ({ state with position := some position }, state.position != some position)
  | .tilt tilt, state => ({ state with tilt := some tilt }, state.tilt != some tilt)
  | .availability available, state =>
    ({ state with available := available }, state.available != available)
  | .attributes fields, state =>
    let (attributes, altered) := mergeAttributes fields state.attributes
    ({ state with attributes := attributes }, altered)
  | .batch changes, state => applyAll changes state

/-- Makes changes one after the other, and tells whether any of them altered the state. -/
def applyAll : List Change → State → State × Bool
  | [], state => (state, false)
  | change :: changes, state =>
    let (state, altered) := apply change state
    let (state, alteredLater) := applyAll changes state
    (state, altered || alteredLater)

end

end State

end CoverControl
