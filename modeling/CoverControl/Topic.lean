/-!
# Topics and filters

Topics are split into levels at each slash. A topic that is published to has no wildcards; a filter
that is subscribed to may have `+` for one level and, as its last level, `#` for all further ones.
-/

namespace CoverControl.Topic

inductive Fault where
  | empty
  | containsNul
  | wildcard
  | plusInLevel
  | hashNotLast
deriving DecidableEq, Repr

def Fault.message : Fault → String
  | empty => "topic is empty"
  | containsNul => "topic contains NUL"
  | wildcard => "wildcards are not allowed in publish topics"
  | plusInLevel => "'+' must occupy a whole level"
  | hashNotLast => "'#' must be the last level"

/-- The levels of a topic; the empty topic has one, empty level. -/
def split : List Char → List (List Char)
  | [] => [[]]
  | c :: cs =>
    if c = '/' then [] :: split cs
    else match split cs with
      | [] => [[c]]
      | level :: levels => (c :: level) :: levels

def levels (topic : String) : List (List Char) := split topic.toList

/-- Checks a topic that messages are published to. -/
def checkPublished (topic : String) : Except Fault Unit :=
  if topic = "" then .error .empty
  else if '\x00' ∈ topic.toList then .error .containsNul
  else if '+' ∈ topic.toList ∨ '#' ∈ topic.toList then .error .wildcard
  else .ok ()

/-- Checks that wildcards stand alone in their levels, `#` only in the last one. -/
def checkLevels : List (List Char) → Except Fault Unit
  | [] => .ok ()
  | level :: levels =>
    if '+' ∈ level ∧ level ≠ ['+'] then .error .plusInLevel
    else if '#' ∈ level ∧ (level ≠ ['#'] ∨ levels ≠ []) then .error .hashNotLast
    else checkLevels levels

/-- Checks a filter that is subscribed to. -/
def checkFilter (filter : String) : Except Fault Unit :=
  if filter = "" then .error .empty
  else if '\x00' ∈ filter.toList then .error .containsNul
  else checkLevels (levels filter)

/-- Whether the levels of a topic match those of a filter. -/
def levelsMatch : List (List Char) → List (List Char) → Bool
  | f :: fs, ts =>
    if f = ['#'] then true
    else match ts with
      | [] => false
      | t :: ts => (f == ['+'] || f == t) && levelsMatch fs ts
  | [], ts => ts.isEmpty

/-- Whether a filter receives the messages of a topic. -/
def accepts (filter topic : String) : Bool := levelsMatch (levels filter) (levels topic)

end CoverControl.Topic
