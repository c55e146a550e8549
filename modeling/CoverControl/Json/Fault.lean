import CoverControl.Json.Location
import CoverControl.Json.Value
import CoverControl.Text.Quoted

/-!
# What can be wrong with a JSON text

Every way in which reading a JSON text fails, with its message. A text can end too early, break
the grammar, or be well formed and not hold the data that was asked for.
-/

namespace CoverControl.Json

/-- What was found in the place of the data that was asked for. -/
inductive Found where
  | null
  | bool (value : Bool)
  | number (value : Number)
  | string (value : String)
  | array
  | object
deriving DecidableEq, Repr

def Found.message : Found → String
  | null => "null"
  | bool value => "boolean `" ++ toString value ++ "`"
  | number (.int value) => "integer `" ++ toString value ++ "`"
  | number (.float value) => "floating point `" ++ (Number.float value).render ++ "`"
  | string value => "string " ++ Text.quote value
  | array => "sequence"
  | object => "map"

inductive Fault where
  | endOfValue
  | endOfString
  | endOfObject
  | endOfArray
  | noValue
  | badWord
  | noColon
  | noCommaInObject
  | noCommaInArray
  | keyNotString
  | finalComma
  | moreText
  | badNumber
  | numberTooLarge
  | badEscape
  | halfSurrogatePair
  | unpairedSurrogate
  | controlCharacter
  | tooDeep
  | wrongType (found : Found) (expected : String)
  | wrongValue (found : Found) (expected : String)
  | unknownVariant (name : String) (variants : List String)
  | repeatedField (name : String)
  /-- The data breaks a rule; the reason may name a place. -/
  | rejected (reason : String)
deriving DecidableEq, Repr

/-- The three kinds of fault. -/
inductive Fault.Category where
  | early
  | grammar
  | data
deriving DecidableEq, Repr

namespace Fault

def category : Fault → Category
  | endOfValue | endOfString | endOfObject | endOfArray => .early
  | wrongType _ _ | wrongValue _ _ | unknownVariant _ _ | repeatedField _ | rejected _ => .data
  | _ => .grammar

private def ticked (s : String) : String := "`" ++ s ++ "`"

def message : Fault → String
  | endOfValue => "EOF while parsing a value"
  | endOfString => "EOF while parsing a string"
  | endOfObject => "EOF while parsing an object"
  | endOfArray => "EOF while parsing a list"
  | noValue => "expected value"
  | badWord => "expected ident"
  | noColon => "expected `:`"
  | noCommaInObject => "expected `,` or `\x7d`"
  | noCommaInArray => "expected `,` or `]`"
  | keyNotString => "key must be a string"
  | finalComma => "trailing comma"
  | moreText => "trailing characters"
  | badNumber => "invalid number"
  | numberTooLarge => "number out of range"
  | badEscape => "invalid escape"
  | halfSurrogatePair => "unexpected end of hex escape"
  | unpairedSurrogate => "lone leading surrogate in hex escape"
  | controlCharacter => "control character (\\u0000-\\u001F) found while parsing a string"
  | tooDeep => "recursion limit exceeded"
  | wrongType found expected => "invalid type: " ++ found.message ++ ", expected " ++ expected
  | wrongValue found expected => "invalid value: " ++ found.message ++ ", expected " ++ expected
  | unknownVariant name variants =>
    "unknown variant " ++ ticked name ++ ", expected one of "
      ++ ", ".intercalate (variants.map ticked)
  | repeatedField name => "duplicate field " ++ ticked name
  | rejected reason => dropNowhere reason

end Fault

end CoverControl.Json
