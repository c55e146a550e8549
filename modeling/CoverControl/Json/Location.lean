import CoverControl.Decimal.Numeral

/-!
# Locations at the end of messages

The message of a fault may end in its place in the text, as " at line 3 column 14" does. Texts are
taken apart from their ends here, so they are given backwards, the last character first.
-/

namespace CoverControl.Json

/-- Splits a number off the end of a text. -/
def numberAtEnd? (cs : List Char) : Option (Nat × List Char) :=
  let digits := cs.takeWhile Char.isDigit
  if digits.isEmpty then none
  else some (Decimal.ofDigits digits.reverse, cs.dropWhile Char.isDigit)

/-- Splits a word off the end of a text. -/
def wordAtEnd? (word : String) (cs : List Char) : Option (List Char) :=
  let word := word.toList.reverse
  if word.isPrefixOf cs then some (cs.drop word.length) else none

/-- Splits a location off the end of a message: what stands before it, the line and the column. -/
def splitLocation? (message : String) : Option (String × Nat × Nat) := do
  let (column, cs) ← numberAtEnd? message.toList.reverse
  let cs ← wordAtEnd? " column " cs
  let (line, cs) ← numberAtEnd? cs
  let cs ← wordAtEnd? " at line " cs
  some (String.ofList cs.reverse, line, column)

/-- A message without the location it ends in, if that is in line zero: lines count from one, so
such a location is no place. A column has 64 bits. -/
def dropNowhere (message : String) : String :=
  match splitLocation? message with
  | some (text, 0, column) => if column < Nat.pow 2 64 then text else message
  | _ => message

end CoverControl.Json
