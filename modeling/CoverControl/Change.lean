import CoverControl.Json.Value
import CoverControl.Percent
import CoverControl.Status

/-!
# Changes

What feedback or an assumed command changes about a cover: one of its values, some attributes, or
several changes in a row. `Change.leaves` lists the single changes of a nested one from left to
right.
-/

namespace CoverControl

inductive Change where
  | status (status : Status)
  | position (position : Percent)
  | tilt (tilt : Percent)
  | availability (available : Bool)
  | attributes (fields : Json.Object)
  | batch (changes : List Change)
deriving Repr, Inhabited

namespace Change

/-- A position together with the status that it implies: only the fully closed one is closed. -/
def positionFeedback (position : Percent) : Change :=
  .batch [.position position, .status (if position.isClosed then .closed else .opened)]

mutual

/-- The single changes of a change, from left to right. -/
def leaves : Change → List Change
  | .batch changes => leavesOfAll changes
  | change => [change]

def leavesOfAll : List Change → List Change
  | [] => []
  | change :: changes => change.leaves ++ leavesOfAll changes

end

end Change

end CoverControl
