import CoverControl.Router

/-!
# Rosters

A roster knows handlers by the keys of those who made them. The handler of a key may go; a new one
made for the key later is a different handler, and the number of the old one is never given again.
-/

namespace CoverControl

structure Roster (κ : Type) where
  /-- How many handlers were made so far. -/
  made : Nat
  /-- The handlers alive. -/
  alive : List (κ × Handler)
  /-- The handlers of all keys, alive or not, the latest first. -/
  known : List (κ × Handler)
deriving Repr

namespace Roster

variable {κ : Type} [DecidableEq κ]

def empty : Roster κ := ⟨0, [], []⟩

/-- Makes a new handler for a key. -/
def make (roster : Roster κ) (key : κ) : Roster κ × Handler :=
  let handler := roster.made + 1
  (⟨handler, (key, handler) :: roster.alive, (key, handler) :: roster.known⟩, handler)

/-- The handler alive for a key; a new one is made if there is none. -/
def live (roster : Roster κ) (key : κ) : Roster κ × Handler :=
  match roster.alive.lookup key with
  | some handler => (roster, handler)
  | none => roster.make key

/-- The last handler of a key, alive or not; a new one is made if there never was one. -/
def last (roster : Roster κ) (key : κ) : Roster κ × Handler :=
  match roster.known.lookup key with
  | some handler => (roster, handler)
  | none => roster.make key

/-- Takes the handler of a key off the list of those alive. -/
def drop (roster : Roster κ) (key : κ) : Roster κ × Option Handler :=
  ({ roster with alive := roster.alive.filter fun (k, _) => k != key }, roster.alive.lookup key)

/-- The key a handler was made for. -/
def keyOf (roster : Roster κ) (handler : Handler) : Option κ :=
  (roster.known.find? fun (_, h) => h == handler).map (·.1)

end Roster

end CoverControl
