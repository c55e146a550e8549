import CoverControl.Text.Shape

/-!
# Quoted texts

How messages show a text: between double quotes, with a backslash before quotes and backslashes,
short escapes for the common control characters, and the code point in hexadecimal for every other
character that has no shape of its own.
-/

namespace CoverControl.Text

/-- A code point in hexadecimal, lower case, without leading zeros. -/
def hex (code : Nat) : String := String.ofList (Nat.toDigits 16 code)

/-- How one character is written inside quotes. -/
def escape (c : Char) : String :=
  match c with
  | '"' => "\\\""
  | '\\' => "\\\\"
  | '\n' => "\\n"
  | '\r' => "\\r"
  | '\t' => "\\t"
  | '\x00' => "\\0"
  | c => if isShapeless c then "\\u\x7b" ++ hex c.toNat ++ "\x7d" else String.singleton c

/-- A text between double quotes. -/
def quote (s : String) : String := "\"" ++ String.join (s.toList.map escape) ++ "\""

end CoverControl.Text
