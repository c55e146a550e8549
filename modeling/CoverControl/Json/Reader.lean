import CoverControl.Json.Numeral

/-!
# Reading JSON values

A reader takes what it wants off the front of a text and returns the rest, or the first fault it
meets. Containers nest at most `depthLimit` deep; `readValue` recurses on the depth that is left,
and the loop over the elements of one container on a bound that its text cannot exceed.
-/

namespace CoverControl.Json

/-- Drops the four characters that may stand between tokens. -/
def skipBlanks (cs : List Char) : List Char :=
  cs.dropWhile fun c => c == ' ' || c == '\t' || c == '\n' || c == '\r'

/-- Takes the letters of a word off the front. -/
def readWord : List Char → List Char → Except Fault (List Char)
  | [], cs => .ok cs
  | _ :: _, [] => .error .endOfValue
  | w :: ws, c :: cs => if c = w then readWord ws cs else .error .badWord

/-! ### Strings -/

def hexDigit? (c : Char) : Option Nat :=
  if c.isDigit then some (c.toNat - '0'.toNat)
  else if 'a' ≤ c ∧ c ≤ 'f' then some (c.toNat - 'a'.toNat + 10)
  else if 'A' ≤ c ∧ c ≤ 'F' then some (c.toNat - 'A'.toNat + 10)
  else none

/-- The number of four hexadecimal digits. -/
def hexUnit? (a b c d : Char) : Option Nat := do
  let a ← hexDigit? a
  let b ← hexDigit? b
  let c ← hexDigit? c
  let d ← hexDigit? d
  some (((a * 16 + b) * 16 + c) * 16 + d)

/-- Why an escape that lacks four characters fails: the text ends within its four bytes, or one
of them is no digit. -/
def shortEscapeFault (cs : List Char) : Fault :=
  if (String.ofList cs).utf8ByteSize < 4 then .endOfString else .badEscape

/-- The character that a letter behind a backslash stands for. -/
def escaped? : Char → Option Char
  | '"' => some '"'
  | '\\' => some '\\'
  | '/' => some '/'
  | 'b' => some '\x08'
  | 'f' => some '\x0c'
  | 'n' => some '\n'
  | 'r' => some '\r'
  | 't' => some '\t'
  | _ => none

def isLeading (unit : Nat) : Bool := decide (0xd800 ≤ unit ∧ unit < 0xdc00)

def isTrailing (unit : Nat) : Bool := decide (0xdc00 ≤ unit ∧ unit < 0xe000)

/-- The character of a surrogate pair. -/
def paired (leading trailing : Nat) : Char :=
  Char.ofNat (0x10000 + (leading - 0xd800) * 0x400 + (trailing - 0xdc00))

/-- Reads a string behind its opening quote. `leading` is the first half of a surrogate pair whose
second half must follow; `done` holds the characters so far, the last one first. -/
def readStringFrom (leading : Option Nat) (done : List Char) : Reader String
  | [] | ['\\'] => .error .endOfString
  | '\\' :: 'u' :: a :: b :: c :: d :: cs =>
    match hexUnit? a b c d, leading with
    | none, _ => .error .badEscape
    | some unit, none =>
      if isTrailing unit then .error .unpairedSurrogate
      else if isLeading unit then readStringFrom (some unit) done cs
      else readStringFrom none (Char.ofNat unit :: done) cs
    | some unit, some first =>
      if isTrailing unit then readStringFrom none (paired first unit :: done) cs
      else .error .unpairedSurrogate
  | '\\' :: 'u' :: cs => .error (shortEscapeFault cs)
  | '\\' :: c :: cs =>
    match leading, escaped? c with
    | some _, _ => .error .halfSurrogatePair
    | none, none => .error .badEscape
    | none, some c => readStringFrom none (c :: done) cs
  | c :: cs =>
    if leading.isSome then .error .halfSurrogatePair
    else if c = '"' then .ok (String.ofList done.reverse, cs)
    else if c.toNat < 0x20 then .error .controlCharacter
    else readStringFrom none (c :: done) cs

def readString : Reader String := readStringFrom none []

/-! ### Elements of containers -/

/-- What follows in a container: its end, or one more element. -/
inductive Next where
  | closed (rest : List Char)
  | element (rest : List Char)

/-- Looks for the next element of an array; before all but the first there is a comma. -/
def nextItem (first : Bool) (cs : List Char) : Except Fault Next :=
  match skipBlanks cs with
  | [] => .error .endOfArray
  | ']' :: cs => .ok (.closed cs)
  | c :: cs =>
    if first then .ok (.element (c :: cs))
    else if c = ',' then
      match skipBlanks cs with
      | [] => .error .endOfValue
      | ']' :: _ => .error .finalComma
      | cs => .ok (.element cs)
    else .error .noCommaInArray

/-- Looks for the next key of an object and stops behind its opening quote. -/
def nextKey (first : Bool) (cs : List Char) : Except Fault Next :=
  match skipBlanks cs with
  | [] => .error .endOfObject
  | '\x7d' :: cs => .ok (.closed cs)
  | c :: cs =>
    if first then if c = '"' then .ok (.element cs) else .error .keyNotString
    else if c = ',' then
      match skipBlanks cs with
      | [] => .error .endOfValue
      | '"' :: cs => .ok (.element cs)
      | '\x7d' :: _ => .error .finalComma
      | _ => .error .keyNotString
    else .error .noCommaInObject

/-- Takes the colon between a key and its value off the front. -/
def readColon (cs : List Char) : Except Fault (List Char) :=
  match skipBlanks cs with
  | [] => .error .endOfObject
  | ':' :: cs => .ok cs
  | _ => .error .noColon

/-- Reads the items of an array, at most `bound` of them, up to its end. -/
def readItems {α : Type} (read : Reader α) : Nat → Bool → Reader (List α)
  | 0, _, _ => .error .endOfArray
  | bound + 1, first, cs => do
    match ← nextItem first cs with
    | .closed cs => .ok ([], cs)
    | .element cs =>
      let (item, cs) ← read cs
      let (items, cs) ← readItems read bound false cs
      .ok (item :: items, cs)

/-- Reads the fields of an object, at most `bound` of them, up to its end. -/
def readFields {α : Type} (read : Reader α) : Nat → Bool → Reader (List (String × α))
  | 0, _, _ => .error .endOfObject
  | bound + 1, first, cs => do
    match ← nextKey first cs with
    | .closed cs => .ok ([], cs)
    | .element cs =>
      let (key, cs) ← readString cs
      let cs ← readColon cs
      let (value, cs) ← read cs
      let (fields, cs) ← readFields read bound false cs
      .ok ((key, value) :: fields, cs)

/-! ### Values -/

/-- How deep containers may nest. -/
def depthLimit : Nat := 127

/-- Reads a value with at most `depth` containers around its parts. -/
def readValue : Nat → Reader Value
  | depth, cs =>
    match skipBlanks cs with
    | [] => .error .endOfValue
    | 'n' :: cs => (readWord ['u', 'l', 'l'] cs).map fun cs => (.null, cs)
    | 't' :: cs => (readWord ['r', 'u', 'e'] cs).map fun cs => (.bool true, cs)
    | 'f' :: cs => (readWord ['a', 'l', 's', 'e'] cs).map fun cs => (.bool false, cs)
    | '"' :: cs => (readString cs).map fun (text, cs) => (.string text, cs)
    | '-' :: cs => (Numeral.read true cs).map fun (number, cs) => (.number number, cs)
    | '[' :: cs =>
      match depth with
      | 0 => .error .tooDeep
      | depth + 1 =>
        (readItems (readValue depth) (cs.length + 1) true cs).map
          fun (items, cs) => (.array items, cs)
    | '\x7b' :: cs =>
      match depth with
      | 0 => .error .tooDeep
      | depth + 1 =>
        (readFields (readValue depth) (cs.length + 1) true cs).map
          fun (fields, cs) => (.object (Object.ofList fields), cs)
    | c :: cs =>
      if c.isDigit then (Numeral.read false (c :: cs)).map fun (number, cs) => (.number number, cs)
      else .error .noValue

/-- Reads a whole text: nothing but blanks may follow what is read. -/
def readText {α : Type} (read : Reader α) (text : String) : Except Fault α := do
  let (value, cs) ← read text.toList
  if skipBlanks cs = [] then .ok value else .error .moreText

/-- The value of a JSON text. -/
def Value.parse (text : String) : Except Fault Value := readText (readValue depthLimit) text

end CoverControl.Json
