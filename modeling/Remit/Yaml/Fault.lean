import Remit.Settings.Document

/-!
# Faults of YAML

Why a text could not be read as a document. Most faults only say that it is none. A scalar of an allowed form can still be
wrong in itself, and such a fault is passed on as a failure of its own.
-/

namespace Remit.Yaml

/-- Why a text could not be read as a document. -/
inductive Fault where
  | notYaml
  /-- A numeral that is not one, and its base. -/
  | badNumeral (base : Nat) (numeral : Text)
  | badDecimal (numeral : Text)
  /-- A numeral without any digit. -/
  | noNumeral
  /-- A whole number with too many digits. -/
  | tooManyDigits (count : Nat)
  /-- A place of a number is worth more than any decimal. -/
  | floatOverflow
  /-- A word that stands for no truth value. -/
  | unknownWord (word : Text)
  | notTimestamp
  /-- A part of a date or time is out of range. -/
  | dateField (reason : Text)
  /-- An escape names a number beyond the last code point. -/
  | codePointRange
  | codePointOverflow
deriving DecidableEq

/-- A failure to understand a value. -/
def refusal (reason : Text) : Document.Fault := .failure ⟨.invalidValue, "ValueError", [.text reason]⟩

/-- A failure because a number is too large. -/
def overflow (reason : Text) : Document.Fault := .failure ⟨.other, "OverflowError", [.text reason]⟩

/-- The fault of the document that a fault is. -/
def Fault.ofDocument : Fault → Document.Fault
  | .notYaml => .noDocument "<yaml error>"
  | .badNumeral base numeral =>
    refusal ("invalid literal for int() with base " ++ Text.ofNat base ++ ": " ++ Text.quoted numeral)
  | .badDecimal numeral => refusal ("could not convert string to float: " ++ Text.quoted numeral)
  | .noNumeral => .failure ⟨.other, "IndexError", ["string index out of range"]⟩
  | .tooManyDigits count => refusal (Json.Fault.tooManyDigits count).message
  | .floatOverflow => overflow Error.floatOverflow.message
  | .unknownWord word => .failure ⟨.missingKey, "KeyError", [.text word]⟩
  | .notTimestamp => .failure ⟨.other, "AttributeError", []⟩
  | .dateField reason => refusal reason
  | .codePointRange => refusal "chr() arg not in range(0x110000)"
  | .codePointOverflow => overflow "Python int too large to convert to C int"

end Remit.Yaml
