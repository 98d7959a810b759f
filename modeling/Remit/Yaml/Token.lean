import Remit.Text.Basic

/-!
# Tokens of a document

What a configuration document consists of. Indentation shows as the starts and ends of blocks.
-/

namespace Remit.Yaml

/-- A line in front of a document that tells how it is to be read. -/
inductive Directive where
  /-- The version of the language; only its first number counts. -/
  | version (major : Nat)
  /-- A short name for the start of tags. -/
  | tag (handle start : Text)
  | unknown
deriving DecidableEq

/-- A token. -/
inductive Token where
  | directive (d : Directive)
  | documentStart
  | documentEnd
  | sequenceStart
  | mappingStart
  | blockEnd
  | openBracket
  | closeBracket
  | openBrace
  | closeBrace
  | entry
  | comma
  | key
  | value
  | alias (name : Text)
  | anchor (name : Text)
  | tag (handle : Option Text) (suffix : Text)
  /-- A text; a plain one stands without quotes and outside of a block of text. -/
  | scalar (isPlain : Bool) (content : Text)
deriving DecidableEq

end Remit.Yaml
