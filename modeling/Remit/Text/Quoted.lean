import Remit.Bytes
import Remit.Text.Basic
import Remit.Text.Unprintable

/-!
# Quoted text

Text and bytes as they are shown inside a message: between single quotes, or between double quotes when the content
holds a single quote and no double one. A backslash, the quote in use, the three common controls and everything
unprintable are escaped.
-/

namespace Remit.Text

/-- The quote that encloses a content holding `single` or `double` quotes. -/
def enclosingQuote (single double : Bool) : CodePoint := if single && !double then '"' else '\''

/-- The escape of a common control, if the code point is one. -/
def shortEscape? (n : Nat) : Option Text :=
  if n = 0x0a then some "\\n" else if n = 0x0d then some "\\r"
  else if n = 0x09 then some "\\t" else none

/-- One code point inside quoted text. -/
def quoteOne (quote c : CodePoint) : Text :=
  if c = quote || c = '\\' then ['\\', c]
  else match shortEscape? c.val with
    | some escape => escape
    | none =>
      if !isUnprintable c.val then [c]
      else if c.val < 0x100 then "\\x" ++ hexPadded 2 c.val
      else if c.val < 0x10000 then "\\u" ++ hexPadded 4 c.val
      else "\\U" ++ hexPadded 8 c.val

/-- A text in quotes. -/
def quoted (t : Text) : Text :=
  let quote := enclosingQuote (t.contains '\'') (t.contains '"')
  quote :: t.flatMap (quoteOne quote) ++ [quote]

/-- One byte inside quoted bytes; only printable ASCII stands for itself. -/
def quoteByte (quote : CodePoint) (b : UInt8) : Text :=
  let c : CodePoint := Fin.ofNat _ b.toNat
  if c = quote || c = '\\' then ['\\', c]
  else match shortEscape? c.val with
    | some escape => escape
    | none => if 0x20 ≤ c.val && c.val < 0x7f then [c] else "\\x" ++ hexPadded 2 c.val

/-- A byte string in quotes. -/
def quotedBytes (bs : Bytes) : Text :=
  let quote := enclosingQuote (bs.contains 0x27) (bs.contains 0x22)
  (CodePoint.ofChar 'b') :: quote :: bs.flatMap (quoteByte quote) ++ [quote]

end Remit.Text
