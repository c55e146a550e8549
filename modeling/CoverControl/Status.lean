import CoverControl.Json.Record

/-!
# Status of a cover

Whether a cover is known to be open or closed. Movement is not tracked.
-/

namespace CoverControl

inductive Status where
  | unknown
  | opened
  | closed
deriving DecidableEq, Repr, Inhabited

namespace Status

/-- The name of a status at the hub. -/
def name : Status → String
  | unknown => "unknown"
  | opened => "open"
  | closed => "closed"

/-- Whether the cover is closed, if that is known. -/
def isClosed : Status → Option Bool
  | unknown => none
  | opened => some false
  | closed => some true

def all : List Status := [unknown, opened, closed]

/-- Reads a status from its name. -/
def reader : Json.Reader Status := Json.readVariant (all.map fun status => (status.name, status))

end Status

end CoverControl
