import Remit.Text.Basic

/-!
# Places in a document

Text from some place on, with the place counted in code points, lines and columns. A byte order mark takes no column.
-/

namespace Remit.Yaml

/-- Does the code point end a line? -/
def isBreak (c : CodePoint) : Bool :=
  c = '\n' || c = '\r' || c.val = 0x85 || c.val = 0x2028 || c.val = 0x2029

/-- Is the code point a space, a tab or the end of a line? -/
def isGap (c : CodePoint) : Bool := c = ' ' || c = '\t' || isBreak c

/-- The byte order mark. -/
def byteOrderMark : CodePoint := Fin.ofNat _ 0xfeff

/-- May the code point stand in a document? Controls, surrogates and the last two of the basic plane may not. -/
def isPrintable (c : CodePoint) : Bool :=
  let n := c.val
  n == 0x09 || n == 0x0a || n == 0x0d || (0x20 ≤ n && n ≤ 0x7e) || n == 0x85 || (0xa0 ≤ n && n ≤ 0xd7ff) ||
    (0xe000 ≤ n && n ≤ 0xfffd) || 0x10000 ≤ n

/-- Text from a place on. -/
structure Source where
  rest : Text
  index : Nat
  line : Nat
  column : Nat

namespace Source

/-- The start of a document. -/
def of (t : Text) : Source := ⟨t, 0, 0, 0⟩

/-- The code point that stands `n` places ahead. -/
def peek (s : Source) (n : Nat := 0) : Option CodePoint := s.rest[n]?

/-- Does a class hold of the next code point? At the end it does not. -/
def isAt (s : Source) (p : CodePoint → Bool) : Bool := (s.peek.map p).getD false

/-- Is there a gap, or the end, `n` places ahead? -/
def gapAt (s : Source) (n : Nat := 0) : Bool := (s.peek n).all isGap

/-- Is there the end of a line, or of all, at the place? -/
def lineEnds (s : Source) : Bool := s.peek.all isBreak

/-- Is there a space, the end of a line, or the end of all, at the place? -/
def wordEnds (s : Source) : Bool := s.peek.all fun (c : CodePoint) => c = ' ' || isBreak c

/-- The place behind the next code point. -/
def next (s : Source) : Source :=
  match s.rest with
  | [] => s
  | c :: rest =>
    if isBreak c && !(c = '\r' && rest.head? = some '\n') then ⟨rest, s.index + 1, s.line + 1, 0⟩
    else if c = byteOrderMark then { s with rest, index := s.index + 1 }
    else { s with rest, index := s.index + 1, column := s.column + 1 }

/-- The place `n` code points further on. -/
def skip : (n : Nat) → Source → Source
  | 0, s => s
  | n + 1, s => skip n s.next

/-- The code points of a class at the place, and the place behind them. -/
def takeWhile (p : CodePoint → Bool) (s : Source) : Text × Source :=
  let run := s.rest.takeWhile p
  (run, s.skip run.length)

/-- The place behind the code points of a class. -/
def dropWhile (p : CodePoint → Bool) (s : Source) : Source := (s.takeWhile p).2

/-- The place behind spaces. -/
def dropSpaces (s : Source) : Source := s.dropWhile (· = ' ')

/-- The place behind a comment, if one starts here. -/
def dropComment (s : Source) : Source := if s.isAt (· = '#') then s.dropWhile fun c => !isBreak c else s

/-- The end of a line, as it counts in a text, and the place behind it. All but two of the marks count as the same one;
nothing is taken where no line ends. -/
def takeBreak (s : Source) : Text × Source :=
  match s.rest with
  | [] => ([], s)
  | c :: rest =>
    if c.val = 0x2028 ∨ c.val = 0x2029 then ([c], s.next)
    else if isBreak c then ("\n", if c = '\r' ∧ rest.head? = some '\n' then s.next.next else s.next)
    else ([], s)

/-- Do three equal marks stand at the place, with a gap behind them? -/
def isAtMark (mark : Char) (s : Source) : Bool := s.rest.take 3 == List.replicate 3 (CodePoint.ofChar mark) && s.gapAt 3

/-- Does a mark that separates documents stand at the place? -/
def isAtSeparator (s : Source) : Bool := s.isAtMark '-' || s.isAtMark '.'

end Source

end Remit.Yaml
