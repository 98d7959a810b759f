import Remit.Text.Basic
import Remit.Text.Capitals
import Remit.Text.CaseContext
import Remit.Text.SmallLetters

/-!
# Upper and lower case

In lower case every capital becomes its small letter. Two rules go beyond a table: a dotted capital I becomes two code
points, and a capital sigma becomes the final form where it ends a word. In upper case every small letter becomes its
capitals, wherever it stands.
-/

namespace Remit.Text

/-- Does a word go on in this direction: is the first code point that is not read across a letter with case? -/
def meetsLetter (t : Text) : Bool :=
  match t.dropWhile fun c => isCaseIgnorable c.val with
  | [] => false
  | c :: _ => isCased c.val

/-- The small form of one code point between the text before it, nearest first, and the text after it. -/
def lowerOne (before : Text) (c : CodePoint) (after : Text) : Text :=
  if c.val = 0x130 then [Fin.ofNat _ 0x69, Fin.ofNat _ 0x307]
  else if c.val = 0x3a3 then
    if meetsLetter before && !meetsLetter after then [Fin.ofNat _ 0x3c2] else [Fin.ofNat _ 0x3c3]
  else [Fin.ofNat _ (smallLetter c.val)]

/-- Lower case of what follows `before`, which stands in reverse; `done` holds the result so far, in reverse. -/
def lowerFrom (before done : Text) : Text → Text
  | [] => done.reverse
  | c :: after => lowerFrom (c :: before) ((lowerOne before c after).reverse ++ done) after

/-- Text in lower case. -/
def lower (t : Text) : Text := lowerFrom [] [] t

/-- Text in upper case. -/
def upper (t : Text) : Text := t.flatMap fun c => (capitals c.val).map (Fin.ofNat _)

end Remit.Text
