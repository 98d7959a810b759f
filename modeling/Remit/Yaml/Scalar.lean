import Remit.Yaml.Fault
import Remit.Yaml.Source

/-!
# Texts of a document

Plain, quoted and block texts. Each of them may run over several lines; a single line end inside is folded into a
space, and the lines of a literal block are kept.
-/

namespace Remit.Yaml

/-- A text that was read, and the place behind it. -/
abbrev Scanned := Text × Source

namespace Source

/-! ## Plain texts -/

/-- Does a plain text go on with the code point at the head of what is left? Inside brackets it is ended by marks of
lists, and a colon ends it where a value may follow. -/
def plainGoesOn (inFlow : Bool) : Text → Bool
  | [] => false
  | c :: rest =>
    let valueFollows := rest.head?.all fun d => isGap d || (inFlow && Text.isOneOf ",[]\x7b\x7d" d)
    !(isGap c || (c = ':' && valueFollows) || (inFlow && Text.isOneOf ",?[]\x7b\x7d" c))

/-- The length of the plain text at the head. -/
def plainLength (inFlow : Bool) : Text → Nat
  | [] => 0
  | c :: rest => if plainGoesOn inFlow (c :: rest) then plainLength inFlow rest + 1 else 0

/-- The ends of empty lines and the spaces in front of a plain text that goes on; a separator of documents stops it. -/
def plainBreaks : (fuel : Nat) → (breaks : Text) → Source → Option Text × Source
  | 0, breaks, s => (some breaks, s)
  | fuel + 1, breaks, s =>
    if s.isAt (· = ' ') then plainBreaks fuel breaks s.next
    else if s.isAt isBreak then
      let (mark, s) := s.takeBreak
      if s.isAtSeparator then (none, s) else plainBreaks fuel (breaks ++ mark) s
    else (some breaks, s)

/-- What stands between two lines of a text: a plain line end is a space unless empty lines follow. -/
def joinLines (mark breaks : Text) : Text :=
  if mark ≠ "\n" then mark ++ breaks else if breaks.isEmpty then " " else breaks

/-- The gap behind a part of a plain text: what it becomes in the text, and whether it held the end of a line. -/
def plainGap (s : Source) : Text × Bool × Source :=
  let (spaces, s) := s.takeWhile (· = ' ')
  if s.isAt isBreak then
    let (mark, s) := s.takeBreak
    if s.isAtSeparator then ([], true, s)
    else match plainBreaks (s.rest.length + 1) [] s with
      | (none, s) => ([], true, s)
      | (some breaks, s) => (joinLines mark breaks, true, s)
  else (spaces, false, s)

/-- Reads a plain text on from `done`; `gap` stands between it and what follows. The second result tells whether a line
ended after its last part, the way it was left. -/
def plainFrom (inFlow : Bool) (indent : Int) :
    (fuel : Nat) → (done gap : Text) → (brokeLine : Bool) → Source → Text × Bool × Source
  | 0, done, _, brokeLine, s => (done, brokeLine, s)
  | fuel + 1, done, gap, brokeLine, s =>
    let size := if s.isAt (· = '#') then 0 else plainLength inFlow s.rest
    if size = 0 then (done, brokeLine, s)
    else
      let done := done ++ gap ++ s.rest.take size
      let (gap, brokeLine, s) := (s.skip size).plainGap
      if gap.isEmpty || s.isAt (· = '#') || (!inFlow && (s.column : Int) < indent) then (done, brokeLine, s)
      else plainFrom inFlow indent fuel done gap brokeLine s

/-- Reads a plain text, and tells whether it left off behind the end of a line. -/
def plain (inFlow : Bool) (indent : Int) (s : Source) : Text × Bool × Source :=
  plainFrom inFlow indent (s.rest.length + 1) [] [] false s

/-! ## Quoted texts -/

/-- The code point that a letter behind a backslash stands for. -/
def escape? (c : CodePoint) : Option CodePoint :=
  let table : List (Char × Nat) :=
    [('0', 0), ('a', 7), ('b', 8), ('t', 9), ('\t', 9), ('n', 10), ('v', 11), ('f', 12), ('r', 13), ('e', 0x1b),
     (' ', 0x20), ('"', 0x22), ('\\', 0x5c), ('/', 0x2f), ('N', 0x85), ('_', 0xa0), ('L', 0x2028), ('P', 0x2029)]
  (table.find? fun e => CodePoint.ofChar e.1 = c).map fun e => Fin.ofNat _ e.2

/-- How many hexadecimal digits follow a letter behind a backslash. -/
def escapeWidth? (c : CodePoint) : Option Nat :=
  if c = 'x' then some 2 else if c = 'u' then some 4 else if c = 'U' then some 8 else none

/-- The value of hexadecimal digits. -/
def hexValue? (t : Text) : Option Nat :=
  t.foldl (fun n c => n.bind fun n => (CodePoint.hexDigit? c).map fun d => 16 * n + d) (some 0)

/-- The code point of a number that was written as an escape. -/
def escapedCodePoint (n : Nat) : Except Fault CodePoint :=
  if h : n < 0x110000 then .ok ⟨n, h⟩
  else if n < 2 ^ 31 then .error .codePointRange
  else .error .codePointOverflow

/-- The ends of empty lines inside a quoted text. A separator of documents may not stand there. -/
def quotedBreaks : (fuel : Nat) → (breaks : Text) → Source → Except Fault Scanned
  | 0, _, _ => .error .notYaml
  | fuel + 1, breaks, s =>
    if s.isAtSeparator then .error .notYaml
    else
      let s := s.dropWhile fun c => c = ' ' || c = '\t'
      if s.isAt isBreak then
        let (mark, s) := s.takeBreak
        quotedBreaks fuel (breaks ++ mark) s
      else .ok (breaks, s)

/-- What a backslash starts, at the place behind it. -/
def quotedEscape (s : Source) : Except Fault Scanned :=
  match s.peek with
  | none => .error .notYaml
  | some c =>
    match escape? c with
    | some d => .ok ([d], s.next)
    | none =>
      match escapeWidth? c with
      | some width =>
        let digits := s.next.rest.take width
        match (if digits.length = width then hexValue? digits else none) with
        | none => .error .notYaml
        | some n => do return ([← escapedCodePoint n], s.next.skip width)
      | none =>
        if isBreak c then quotedBreaks (s.rest.length + 1) [] s.takeBreak.2 else .error .notYaml

/-- The next part of a quoted text that starts with `c`: a gap, an escape or a run of other code points. -/
def quotedPart (double : Bool) (c : CodePoint) (s : Source) : Except Fault Scanned :=
  if isGap c then
    let (spaces, s) := s.takeWhile fun c => c = ' ' || c = '\t'
    if s.isAt isBreak then
      let (mark, s) := s.takeBreak
      do
        let (breaks, s) ← quotedBreaks (s.rest.length + 1) [] s
        return (joinLines mark breaks, s)
    else .ok (spaces, s)
  else if double && c = '\\' then s.next.quotedEscape
  else
    let (part, s) := s.takeWhile fun c => !(isGap c || Text.isOneOf "\"'\\" c)
    .ok (if part.isEmpty then ([c], s.next) else (part, s))

/-- Reads a quoted text on from `done`, after its first quote. Only between double quotes a backslash counts; between
single ones a quote is written twice. -/
def quotedFrom (double : Bool) : (fuel : Nat) → (done : Text) → Source → Except Fault Scanned
  | 0, _, _ => .error .notYaml
  | fuel + 1, done, s =>
    match s.peek with
    | none => .error .notYaml
    | some c =>
      if double && c = '"' then .ok (done, s.next)
      else if !double && c = '\'' then
        if s.peek 1 = some c then quotedFrom double fuel (done ++ [c]) (s.skip 2) else .ok (done, s.next)
      else do
        let (part, s) ← s.quotedPart double c
        quotedFrom double fuel (done ++ part) s

/-- Reads a quoted text from its first quote on. -/
def quoted (double : Bool) (s : Source) : Except Fault Scanned := s.next.quotedFrom double (s.rest.length + 1) []

/-! ## Blocks of text -/

/-- What the head of a block says of the line ends behind its last line. -/
inductive Chomping where
  | clip
  | keep
  | strip
deriving DecidableEq

/-- The mark of chomping at the place. -/
def chomping? (s : Source) : Option Chomping :=
  if s.isAt (· = '+') then some .keep else if s.isAt (· = '-') then some .strip else none

/-- The digit at the place that says how far a block is indented; zero is refused. -/
def blockDigit (s : Source) : Except Fault (Option Nat × Source) :=
  match s.peek with
  | none => .ok (none, s)
  | some c =>
    if CodePoint.isAsciiDigit c then
      if c = '0' then .error .notYaml else .ok (some (c.val - 48), s.next)
    else .ok (none, s)

/-- The head of a block: chomping and indentation in either order, and a comment. -/
def blockHead (s : Source) : Except Fault (Chomping × Option Nat × Source) := do
  let (chomping, width, s) ← match s.chomping? with
    | some chomping => do
      let (width, s) ← s.next.blockDigit
      pure (chomping, width, s)
    | none => do
      let (width, s) ← s.blockDigit
      match width, s.chomping? with
      | some _, some chomping => pure (chomping, width, s.next)
      | _, _ => pure (Chomping.clip, width, s)
  if !s.wordEnds then .error .notYaml
  else
    let s := s.dropSpaces.dropComment
    if s.lineEnds then return (chomping, width, s.takeBreak.2) else .error .notYaml

/-- The empty lines at the start of a block, and its greatest indentation so far. -/
def blockStart : (fuel : Nat) → (breaks : Text) → (widest : Nat) → Source → Text × Nat × Source
  | 0, breaks, widest, s => (breaks, widest, s)
  | fuel + 1, breaks, widest, s =>
    if s.isAt (· = ' ') then blockStart fuel breaks (max widest s.next.column) s.next
    else if s.isAt isBreak then
      let (mark, s) := s.takeBreak
      blockStart fuel (breaks ++ mark) widest s
    else (breaks, widest, s)

/-- The place behind spaces, but at most at a column. -/
def dropIndent (indent : Nat) (s : Source) : Source :=
  let spaces := (s.rest.takeWhile fun (c : CodePoint) => c = ' ').length
  s.skip (min spaces (indent - s.column))

/-- The ends of empty lines inside a block, and the place at the indentation of the next line. -/
def blockBreaks (indent : Nat) : (fuel : Nat) → (breaks : Text) → Source → Scanned
  | 0, breaks, s => (breaks, s)
  | fuel + 1, breaks, s =>
    let s := s.dropIndent indent
    if s.isAt isBreak then
      let (mark, s) := s.takeBreak
      blockBreaks indent fuel (breaks ++ mark) s
    else (breaks, s)

/-- Is there a line of a block at the place? -/
def isAtLine (indent : Nat) (s : Source) : Bool := s.column == indent && s.peek.isSome

/-- What stands between two lines of a block, of which the first one starts with something else than a gap if `isFlush`
says so. In a folded block such a line end is a space in front of another such line. -/
def betweenLines (folded isFlush : Bool) (mark breaks : Text) (s : Source) : Text :=
  if folded && mark = "\n" && isFlush && !s.isAt (fun c => c = ' ' || c = '\t') then
    (if breaks.isEmpty then " " else breaks)
  else mark ++ breaks

/-- Reads the lines of a block on from `done`, at the start of a line: the text, the end of its last line, and the ends
of the empty lines behind that. -/
def blockLines (folded : Bool) (indent : Nat) :
    (fuel : Nat) → (done : Text) → Source → Text × Text × Text × Source
  | 0, done, s => (done, [], [], s)
  | fuel + 1, done, s =>
    let isFlush := !s.isAt fun c => c = ' ' || c = '\t'
    let (line, s) := s.takeWhile fun c => !isBreak c
    let (mark, s) := s.takeBreak
    let (breaks, s) := blockBreaks indent (s.rest.length + 1) [] s
    if s.isAtLine indent then
      blockLines folded indent fuel (done ++ line ++ betweenLines folded isFlush mark breaks s) s
    else (done ++ line, mark, breaks, s)

/-- Reads a block of text from its mark on, inside a block at a column. -/
def block (folded : Bool) (outer : Int) (s : Source) : Except Fault Scanned := do
  let (chomping, width, s) ← s.next.blockHead
  let least := (max (outer + 1) 1).toNat
  let (breaks, indent, s) := match width with
    | none =>
      let (breaks, widest, s) := s.blockStart (s.rest.length + 1) [] 0
      (breaks, max least widest, s)
    | some width =>
      let indent := least + width - 1
      let (breaks, s) := blockBreaks indent (s.rest.length + 1) [] s
      (breaks, indent, s)
  let (content, mark, breaks, s) :=
    if s.isAtLine indent then blockLines folded indent (s.rest.length + 1) breaks s else ([], [], breaks, s)
  return match chomping with
    | .strip => (content, s)
    | .clip => (content ++ mark, s)
    | .keep => (content ++ mark ++ breaks, s)

end Source

end Remit.Yaml
