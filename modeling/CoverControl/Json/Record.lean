import CoverControl.Json.Skip

/-!
# Reading data of a known shape

Readers for data whose shape is known: small numbers, flags, texts, words from a list, and records.
A reader that finds another kind of value names it in its fault.

A record is read from an object or from an array. In an object each field may appear once, under
its name or an alias, and unknown fields are skipped; in an array the fields come in their order,
and the last ones may be missing. Fields that do not appear keep the value they had.
-/

namespace CoverControl.Json

/-- The fault of finding another value than the expected one, or the fault in that value. -/
def mismatch (expected : String) (cs : List Char) : Fault :=
  let wrong := fun found => Fault.wrongType found expected
  match skipBlanks cs with
  | [] => .endOfValue
  | '"' :: cs => match readString cs with
    | .ok (text, _) => wrong (.string text)
    | .error fault => fault
  | '[' :: _ => wrong .array
  | '\x7b' :: _ => wrong .object
  | cs => match readValue 0 cs with
    | .ok (.null, _) => wrong .null
    | .ok (.bool value, _) => wrong (.bool value)
    | .ok (.number number, _) => wrong (.number number)
    | .ok _ => .noValue
    | .error fault => fault

/-- Reads an integer that satisfies a bound. -/
def readInteger (expected : String) (fits : Int → Bool) (cs : List Char) :
    Except Fault (Int × List Char) :=
  let cs := skipBlanks cs
  let check : Number × List Char → Except Fault (Int × List Char)
    | (.int value, cs) =>
      if fits value then .ok (value, cs) else .error (.wrongValue (.number (.int value)) expected)
    | (.float value, _) => .error (.wrongType (.number (.float value)) expected)
  match cs with
  | '-' :: cs => Numeral.read true cs >>= check
  | c :: _ => if c.isDigit then Numeral.read false cs >>= check else .error (mismatch expected cs)
  | [] => .error .endOfValue

/-- Reads an unsigned integer of eight bits. -/
def readByte : Reader Nat := fun cs =>
  (readInteger "u8" (fun i => decide (0 ≤ i ∧ i < 256)) cs).map fun (i, cs) => (i.toNat, cs)

/-- Reads a signed integer of 64 bits. -/
def readInt64 : Reader Int64 := fun cs =>
  (readInteger "i64" (fun i => decide (Int64.minValue.toInt ≤ i ∧ i ≤ Int64.maxValue.toInt)) cs).map
    fun (i, cs) => (Int64.ofInt i, cs)

def readBool : Reader Bool := fun cs =>
  match skipBlanks cs with
  | 't' :: cs => (readWord ['r', 'u', 'e'] cs).map fun cs => (true, cs)
  | 'f' :: cs => (readWord ['a', 'l', 's', 'e'] cs).map fun cs => (false, cs)
  | cs => .error (mismatch "a boolean" cs)

def readTextValue : Reader String := fun cs =>
  match skipBlanks cs with
  | '"' :: cs => readString cs
  | cs => .error (mismatch "a string" cs)

/-- Reads null as nothing and all else with the given reader. -/
def readOptional {α : Type} (read : Reader α) : Reader (Option α) := fun cs =>
  match skipBlanks cs with
  | 'n' :: cs => (readWord ['u', 'l', 'l'] cs).map fun cs => (none, cs)
  | cs => (read cs).map fun (value, cs) => (some value, cs)

/-- Takes the word null off the front. -/
def readNull (cs : List Char) : Except Fault (List Char) :=
  match skipBlanks cs with
  | 'n' :: cs => readWord ['u', 'l', 'l'] cs
  | cs => .error (mismatch "unit" cs)

/-- Reads an object, whatever its fields are. -/
def readObject : Reader Object := fun cs =>
  match skipBlanks cs with
  | '\x7b' :: cs =>
    (readFields (readValue (depthLimit - 1)) (cs.length + 1) true cs).map
      fun (fields, cs) => (.ofList fields, cs)
  | cs => .error (mismatch "a map" cs)

/-- The object of a JSON text. -/
def Object.parse (text : String) : Except Fault Object := readText readObject text

/-! ### Words from a list -/

/-- The value that a name stands for. -/
def lookUp {α : Type} (variants : List (String × α)) (name : String) : Except Fault α :=
  match variants.lookup name with
  | some value => .ok value
  | none => .error (.unknownVariant name (variants.map (·.1)))

/-- Reads the only key of an object that stands for a variant. -/
def readVariantKey : Reader String := fun cs =>
  match skipBlanks cs with
  | [] => .error .endOfObject
  | '"' :: cs => readString cs
  | '\x7d' :: _ => .error .noValue
  | _ => .error .keyNotString

/-- Reads one of the listed names, as a string or as the only key of an object that holds null. -/
def readVariant {α : Type} (variants : List (String × α)) : Reader α := fun cs =>
  match skipBlanks cs with
  | [] => .error .endOfValue
  | '"' :: cs => do
    let (name, cs) ← readString cs
    let value ← lookUp variants name
    .ok (value, cs)
  | '\x7b' :: cs => do
    let (name, cs) ← readVariantKey cs
    let value ← lookUp variants name
    let cs ← readColon cs
    let cs ← readNull cs
    match skipBlanks cs with
    | [] => .error .endOfObject
    | '\x7d' :: cs => .ok (value, cs)
    | _ => .error .noValue
  | _ => .error .noValue

/-! ### Records -/

/-- A field of a record `ρ`: its name, other names for it, and how its value is read and set. -/
structure Field (ρ : Type) where
  name : String
  aliases : List String
  read : Reader (ρ → ρ)

/-- A field whose values are read by `read` and put into the record by `set`. -/
def Field.of {ρ α : Type} (name : String) (read : Reader α) (set : α → ρ → ρ)
    (aliases : List String) : Field ρ :=
  ⟨name, aliases, fun cs => (read cs).map fun (value, cs) => (set value, cs)⟩

def Field.isNamed {ρ : Type} (field : Field ρ) (key : String) : Bool :=
  field.name == key || field.aliases.contains key

/-- Reads the fields of a record up to the end of an object; `seen` lists those already read. -/
def readKeyed {ρ : Type} (fields : List (Field ρ)) :
    Nat → Bool → List String → ρ → Reader ρ
  | 0, _, _, _, _ => .error .endOfObject
  | bound + 1, first, seen, record, cs => do
    match ← nextKey first cs with
    | .closed cs => .ok (record, cs)
    | .element cs =>
      let (key, cs) ← readString cs
      match fields.find? (·.isNamed key) with
      | none =>
        let cs ← readColon cs
        let cs ← skip cs
        readKeyed fields bound false seen record cs
      | some field =>
        if seen.contains field.name then .error (.repeatedField field.name)
        else
          let cs ← readColon cs
          let (set, cs) ← field.read cs
          readKeyed fields bound false (field.name :: seen) (set record) cs

/-- Checks that an array ends when all fields of a record are read. -/
def readArrayEnd (cs : List Char) : Except Fault (List Char) :=
  match skipBlanks cs with
  | [] => .error .endOfArray
  | ']' :: cs => .ok cs
  | ',' :: cs => match skipBlanks cs with
    | ']' :: _ => .error .finalComma
    | _ => .error .moreText
  | _ => .error .moreText

/-- Reads the fields of a record in their order up to the end of an array. -/
def readListed {ρ : Type} : List (Field ρ) → Bool → ρ → Reader ρ
  | [], _, record, cs => (readArrayEnd cs).map fun cs => (record, cs)
  | field :: fields, first, record, cs => do
    match ← nextItem first cs with
    | .closed cs => .ok (record, cs)
    | .element cs =>
      let (set, cs) ← field.read cs
      readListed fields false (set record) cs

/-- Reads a record, starting from the values in `record`. -/
def readRecord {ρ : Type} (expected : String) (fields : List (Field ρ)) (record : ρ) :
    Reader ρ := fun cs =>
  match skipBlanks cs with
  | '[' :: cs => readListed fields true record cs
  | '\x7b' :: cs => readKeyed fields (cs.length + 1) true [] record cs
  | cs => .error (mismatch expected cs)

end CoverControl.Json
