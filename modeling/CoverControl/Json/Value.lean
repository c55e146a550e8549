import CoverControl.Decimal.Layout

/-!
# JSON values

Values of a JSON text. A number is an integer or a binary floating-point number, and the two kinds
never equal each other. An object is a list of fields in ascending order of their keys, each key
once; `Object.insert` keeps it so.
-/

namespace CoverControl.Json

inductive Number where
  | int (value : Int)
  | float (value : Binary64)
deriving DecidableEq, Repr

inductive Value where
  | null
  | bool (value : Bool)
  | number (value : Number)
  | string (value : String)
  | array (items : List Value)
  | object (fields : List (String × Value))
deriving Repr, Inhabited

abbrev Object := List (String × Value)

/-- Integers by value, floating-point numbers numerically: the two zeros are the same. -/
def Number.same : Number → Number → Bool
  | int a, int b => a == b
  | float a, float b => a.eq b
  | _, _ => false

mutual

/-- Equality of values: numbers by `Number.same`, all else by structure. -/
def Value.same : Value → Value → Bool
  | .null, .null => true
  | .bool a, .bool b => a == b
  | .number a, .number b => a.same b
  | .string a, .string b => a == b
  | .array as, .array bs => sameItems as bs
  | .object as, .object bs => sameFields as bs
  | _, _ => false

def sameItems : List Value → List Value → Bool
  | [], [] => true
  | a :: as, b :: bs => a.same b && sameItems as bs
  | _, _ => false

def sameFields : List (String × Value) → List (String × Value) → Bool
  | [], [] => true
  | (k, a) :: as, (l, b) :: bs => k == l && a.same b && sameFields as bs
  | _, _ => false

end

namespace Object

def get? (key : String) : Object → Option Value
  | [] => none
  | (k, v) :: fields => if k = key then some v else get? key fields

/-- Sets a field: a new key goes to its place in the order, an old one keeps it. -/
def insert (key : String) (value : Value) : Object → Object
  | [] => [(key, value)]
  | (k, v) :: fields =>
    if key < k then (key, value) :: (k, v) :: fields
    else if k = key then (key, value) :: fields
    else (k, v) :: insert key value fields

/-- The object with the given fields; of a repeated key the last one counts. -/
def ofList (fields : List (String × Value)) : Object :=
  fields.foldl (fun object (key, value) => insert key value object) []

def keys (object : Object) : List String := object.map (·.1)

end Object

/-- How floating-point numbers are written: without an exponent if their decimal exponent is
from -5 to 15, always with a point or an exponent, a tie going to the even digit. -/
def numberLayout : Decimal.Layout := ⟨.toEven, ".0", some (-5, 15)⟩

/-- The JSON text of a number. -/
def Number.render : Number → String
  | int value => toString value
  | float value => numberLayout.render value

end CoverControl.Json
