import CoverControl.Change
import CoverControl.DeviceClass

/-!
# Listeners

Callbacks that want to hear of changes, each of one kind. Every callback has an id of its own,
counted from 1 and never given again, by which it is removed. When a change is announced, each single
change in it calls the callbacks of its kind, in order; afterwards the callbacks for the whole state
are called once with a snapshot.
-/

namespace CoverControl

/-- What the hub is shown of a cover. -/
structure Snapshot where
  entityId : String
  name : String
  state : String
  position : Option Percent
  tilt : Option Percent
  /-- Whether the state is assumed, not reported. -/
  assumed : Bool
  /-- The feature bits. -/
  features : Nat
  deviceClass : Option DeviceClass
  attributes : Json.Object
deriving Repr

/-- The state shown of a cover that cannot be reached. -/
def Snapshot.unavailable : String := "unavailable"

def Snapshot.isAvailable (snapshot : Snapshot) : Bool := snapshot.state != unavailable

namespace Listeners

/-- What a callback wants to hear of. -/
inductive Kind where
  | state
  | status
  | position
  | tilt
  | availability
  | attributes
deriving DecidableEq, Repr

/-- All kinds, in the order in which a callback is looked for. -/
def Kind.all : List Kind := [state, status, position, tilt, availability, attributes]

def Kind.name : Kind → String
  | state => "state"
  | status => "status"
  | position => "position"
  | tilt => "tilt"
  | availability => "availability"
  | attributes => "attributes"

/-- What a callback is called with. -/
inductive News where
  | state (snapshot : Snapshot)
  | status (status : Status)
  | position (position : Percent)
  | tilt (tilt : Percent)
  | availability (available : Bool)
  | attributes (fields : Json.Object)
deriving Repr

def News.kind : News → Kind
  | state _ => .state
  | status _ => .status
  | position _ => .position
  | tilt _ => .tilt
  | availability _ => .availability
  | attributes _ => .attributes

/-- One call of one callback. -/
structure Call where
  id : Nat
  news : News
deriving Repr

end Listeners

open Listeners in
/-- The callbacks of one cover; `issued` is the last id that was given. -/
structure Listeners where
  issued : Nat
  entries : List (Nat × Kind)
deriving Repr

namespace Listeners

def empty : Listeners := ⟨0, []⟩

/-- Adds a callback and returns its id. -/
def add (listeners : Listeners) (kind : Kind) : Listeners × Nat :=
  let id := listeners.issued + 1
  (⟨id, listeners.entries ++ [(id, kind)]⟩, id)

/-- Removes the callback of a kind with an id, and tells whether there was one. -/
def removeOf (listeners : Listeners) (id : Nat) (kind : Kind) : Listeners × Bool :=
  ({ listeners with entries := listeners.entries.filter (· != (id, kind)) },
    listeners.entries.contains (id, kind))

/-- Looks for a callback to remove kind by kind, up to the first that has one with the id. -/
def removeFrom (id : Nat) : List Kind → Listeners → Listeners × Bool
  | [], listeners => (listeners, false)
  | kind :: kinds, listeners =>
    let (rest, found) := listeners.removeOf id kind
    if found then (rest, true) else removeFrom id kinds rest

/-- Removes the callback with an id, and tells whether there was one. -/
def remove (listeners : Listeners) (id : Nat) : Listeners × Bool := removeFrom id Kind.all listeners

/-- Removes all callbacks; their ids stay taken. -/
def clear (listeners : Listeners) : Listeners := { listeners with entries := [] }

def count (listeners : Listeners) : Nat := listeners.entries.length

/-- The ids of the callbacks of a kind. -/
def idsOf (listeners : Listeners) (kind : Kind) : List Nat :=
  (listeners.entries.filter fun (_, k) => k == kind).map (·.1)

/-- Calls the callbacks that want to hear of a piece of news. -/
def tell (listeners : Listeners) (news : News) : List Call :=
  (listeners.idsOf news.kind).map fun id => ⟨id, news⟩

mutual

/-- The calls for the single changes in a change. -/
def tellChange (listeners : Listeners) : Change → List Call
  | .status status => listeners.tell (.status status)
  | .position position => listeners.tell (.position position)
  | .tilt tilt => listeners.tell (.tilt tilt)
  | .availability available => listeners.tell (.availability available)
  | .attributes fields => listeners.tell (.attributes fields)
  | .batch changes => tellChanges listeners changes

def tellChanges (listeners : Listeners) : List Change → List Call
  | [] => []
  | change :: changes => tellChange listeners change ++ tellChanges listeners changes

end

/-- Announces a change and the snapshot after it. -/
def announce (listeners : Listeners) (change : Change) (snapshot : Snapshot) : List Call :=
  listeners.tellChange change ++ listeners.tell (.state snapshot)

/-- How the id of a callback shows in messages. -/
def idText (id : Nat) : String := "Sub(" ++ toString id ++ ")"

/-- How listeners show in messages. -/
def describe (listeners : Listeners) : String :=
  "CallbackRegistry \x7b callback_count: " ++ toString listeners.count ++ " \x7d"

end Listeners

end CoverControl
