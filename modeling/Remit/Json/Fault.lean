import Remit.Text.Basic

/-!
# Faults of JSON text

Why a text is not JSON, and where. A place is counted from zero; lines and columns from one.
-/

namespace Remit.Json

/-- Why a text is not JSON. -/
inductive Problem where
  | byteOrderMark
  | expectingValue
  | expectingName
  | expectingColon
  | expectingComma
  | extraData
  | unterminatedString
  | controlCharacter
  | invalidEscape
  | invalidUnicodeEscape
deriving DecidableEq

/-- The reason in words. -/
def Problem.message : Problem → Text
  | .byteOrderMark => "Unexpected UTF-8 BOM (decode using utf-8-sig)"
  | .expectingValue => "Expecting value"
  | .expectingName => "Expecting property name enclosed in double quotes"
  | .expectingColon => "Expecting ':' delimiter"
  | .expectingComma => "Expecting ',' delimiter"
  | .extraData => "Extra data"
  | .unterminatedString => "Unterminated string starting at"
  | .controlCharacter => "Invalid control character at"
  | .invalidEscape => "Invalid \\escape"
  | .invalidUnicodeEscape => "Invalid \\uXXXX escape"

/-- A place in a text. -/
structure Place where
  line : Nat
  column : Nat
  index : Nat
deriving DecidableEq

/-- The place of the `index`-th code point. -/
def Place.of (t : Text) (index : Nat) : Place :=
  let before := t.take index
  let lines := (before.filter fun (c : CodePoint) => c == '\n').length
  let columns := (before.reverse.takeWhile fun (c : CodePoint) => c != '\n').length
  ⟨lines + 1, columns + 1, index⟩

/-- Why a text could not be read as JSON. -/
inductive Fault where
  | syntaxError (problem : Problem) (place : Place)
  /-- A whole number has more digits than are read. -/
  | tooManyDigits (count : Nat)
deriving DecidableEq

/-- The fault in words. -/
def Fault.message : Fault → Text
  | .syntaxError problem place =>
    problem.message ++ ": line " ++ Text.ofNat place.line ++ " column " ++ Text.ofNat place.column ++ " (char " ++
      Text.ofNat place.index ++ ")"
  | .tooManyDigits count =>
    "Exceeds the limit (4300 digits) for integer string conversion: value has " ++ Text.ofNat count ++
      " digits; use sys.set_int_max_str_digits() to increase the limit"

end Remit.Json
