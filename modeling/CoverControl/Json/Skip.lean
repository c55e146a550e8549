import CoverControl.Json.Reader

/-!
# Skipping JSON values

A value that nobody asked for is skipped and not read. Skipping asks for less than reading: numbers
may be of any size, surrogates need no partner, and containers nest as deep as the text allows.
-/

namespace CoverControl.Json

/-- Skips a string behind its opening quote. -/
def skipString : List Char → Except Fault (List Char)
  | [] | ['\\'] => .error .endOfString
  | '\\' :: 'u' :: a :: b :: c :: d :: cs =>
    if (hexUnit? a b c d).isSome then skipString cs else .error .badEscape
  | '\\' :: 'u' :: cs => .error (shortEscapeFault cs)
  | '\\' :: c :: cs => if (escaped? c).isSome then skipString cs else .error .badEscape
  | c :: cs =>
    if c = '"' then .ok cs
    else if c.toNat < 0x20 then .error .controlCharacter
    else skipString cs

/-- Skips an exponent behind its mark. -/
def skipExponent (cs : List Char) : Except Fault (List Char) :=
  let (_, cs) := Decimal.splitSign cs
  if cs.takeWhile Char.isDigit = [] then .error .badNumber else .ok (cs.dropWhile Char.isDigit)

/-- Skips what may follow the digits of a numeral. -/
def skipTail : List Char → Except Fault (List Char)
  | 'e' :: cs | 'E' :: cs => skipExponent cs
  | cs => .ok cs

/-- Skips a numeral behind its sign. -/
def skipNumeral (cs : List Char) : Except Fault (List Char) :=
  match cs.takeWhile Char.isDigit, cs.dropWhile Char.isDigit with
  | [], _ | '0' :: _ :: _, _ => .error .badNumber
  | _, '.' :: cs =>
    if cs.takeWhile Char.isDigit = [] then .error .badNumber
    else skipTail (cs.dropWhile Char.isDigit)
  | _, cs => skipTail cs

/-- Skips items up to the end of an array. Unlike in reading, a value must follow each comma. -/
def skipItems (skip : List Char → Except Fault (List Char)) :
    Nat → Bool → List Char → Except Fault (List Char)
  | 0, _, _ => .error .endOfArray
  | bound + 1, first, cs =>
    match skipBlanks cs with
    | [] => .error .endOfArray
    | ']' :: cs => .ok cs
    | c :: cs =>
      if first then do
        let cs ← skip (c :: cs)
        skipItems skip bound false cs
      else if c = ',' then do
        let cs ← skip cs
        skipItems skip bound false cs
      else .error .noCommaInArray

/-- Skips a key, its colon and its value. -/
def skipField (skip : List Char → Except Fault (List Char)) (cs : List Char) :
    Except Fault (List Char) :=
  match skipBlanks cs with
  | [] => .error .endOfObject
  | '"' :: cs => do
    let cs ← skipString cs
    let cs ← readColon cs
    skip cs
  | _ => .error .keyNotString

/-- Skips fields up to the end of an object. -/
def skipFields (skip : List Char → Except Fault (List Char)) :
    Nat → Bool → List Char → Except Fault (List Char)
  | 0, _, _ => .error .endOfObject
  | bound + 1, first, cs =>
    match skipBlanks cs with
    | [] => .error .endOfObject
    | '\x7d' :: cs => .ok cs
    | c :: cs =>
      if first then do
        let cs ← skipField skip (c :: cs)
        skipFields skip bound false cs
      else if c = ',' then do
        let cs ← skipField skip cs
        skipFields skip bound false cs
      else .error .noCommaInObject

/-- Skips a value with at most `depth` containers around its parts. -/
def skipValue : Nat → List Char → Except Fault (List Char)
  | depth, cs =>
    match skipBlanks cs with
    | [] => .error .endOfValue
    | 'n' :: cs => readWord ['u', 'l', 'l'] cs
    | 't' :: cs => readWord ['r', 'u', 'e'] cs
    | 'f' :: cs => readWord ['a', 'l', 's', 'e'] cs
    | '"' :: cs => skipString cs
    | '-' :: cs => skipNumeral cs
    | '[' :: cs =>
      match depth with
      | 0 => .error .tooDeep
      | depth + 1 => skipItems (skipValue depth) (cs.length + 1) true cs
    | '\x7b' :: cs =>
      match depth with
      | 0 => .error .tooDeep
      | depth + 1 => skipFields (skipValue depth) (cs.length + 1) true cs
    | c :: cs => if c.isDigit then skipNumeral (c :: cs) else .error .noValue

/-- Skips a value; its text bounds how deep it can nest. -/
def skip (cs : List Char) : Except Fault (List Char) := skipValue cs.length cs

end CoverControl.Json
