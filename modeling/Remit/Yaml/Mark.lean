import Remit.Yaml.Fault
import Remit.Yaml.Source
import Remit.Yaml.Token

/-!
# Names, tags and directives

The short marks of a document: names of anchors, tags of values, and the directives in front of a document.
-/

namespace Remit.Yaml

/-- May the code point stand in a name? -/
def isNamePart (c : CodePoint) : Bool :=
  CodePoint.isAsciiLetter c || CodePoint.isAsciiDigit c || c = '-' || c = '_'

/-- May the code point stand in a tag? -/
def isTagPart (c : CodePoint) : Bool :=
  CodePoint.isAsciiLetter c || CodePoint.isAsciiDigit c || Text.isOneOf "-;/?:@&=+$,_.!~*'()[]" c

namespace Source

/-- The name behind the mark of an anchor or an alias. -/
def name (s : Source) : Except Fault (Text × Source) :=
  let (name, s) := s.next.takeWhile isNamePart
  if name.isEmpty || !(s.peek.all fun c => isGap c || Text.isOneOf "?:,]\x7d%@`" c) then .error .notYaml
  else .ok (name, s)

/-- The byte of an escape at the place, a percent sign and two digits. -/
def tagEscape? (s : Source) : Option UInt8 :=
  match s.rest with
  | c :: a :: b :: _ =>
    if c = '%' then
      match CodePoint.hexDigit? a, CodePoint.hexDigit? b with
      | some high, some low => some (UInt8.ofNat (16 * high + low))
      | _, _ => none
    else none
  | _ => none

/-- The bytes of escapes in a row, and the place behind them. A percent sign that starts no escape is refused. -/
def tagEscapes : (fuel : Nat) → (bytes : Bytes) → Source → Except Fault (Bytes × Source)
  | 0, bytes, s => .ok (bytes, s)
  | fuel + 1, bytes, s =>
    if s.isAt (· = '%') then
      match s.tagEscape? with
      | some b => tagEscapes fuel (bytes ++ [b]) (s.skip 3)
      | none => .error .notYaml
    else .ok (bytes, s)

/-- Reads the text of a tag on from `done`. Escapes have to spell UTF-8. -/
def tagTextFrom : (fuel : Nat) → (done : Text) → Source → Except Fault (Text × Source)
  | 0, done, s => .ok (done, s)
  | fuel + 1, done, s =>
    let (part, s) := s.takeWhile isTagPart
    if s.isAt (· = '%') then do
      let (bytes, s) ← s.tagEscapes (s.rest.length + 1) []
      match Utf8.decode bytes with
      | .ok escaped => tagTextFrom fuel (done ++ part ++ escaped) s
      | .error _ => .error .notYaml
    else .ok (done ++ part, s)

/-- The text of a tag, which is not empty. -/
def tagText (s : Source) : Except Fault (Text × Source) := do
  let (t, after) ← s.tagTextFrom (s.rest.length + 1) []
  if after.index = s.index then .error .notYaml else return (t, after)

/-- The short name that starts a tag: a mark alone, or a name between two marks. -/
def tagHandle (s : Source) : Except Fault (Text × Source) :=
  if !s.isAt (· = '!') then .error .notYaml
  else if s.peek 1 = some ' ' then .ok ("!", s.next)
  else
    let (name, after) := s.next.takeWhile isNamePart
    if after.isAt (· = '!') then .ok ("!" ++ name ++ "!", after.next) else .error .notYaml

/-- A tag, which a gap has to follow. -/
def tag (s : Source) : Except Fault (Token × Source) := do
  let (token, s) ← match s.peek 1 with
    | none => pure (Token.tag none "!", s.next)
    | some c =>
      if c = '<' then do
        let (suffix, s) ← (s.skip 2).tagText
        if s.isAt (· = '>') then pure (Token.tag none suffix, s.next) else .error .notYaml
      else if isGap c then pure (Token.tag none "!", s.next)
      else
        let word := s.next.rest.takeWhile fun (c : CodePoint) => !(c = ' ' || isBreak c)
        if word.contains '!' then do
          let (handle, s) ← s.tagHandle
          let (suffix, s) ← s.tagText
          pure (Token.tag (some handle) suffix, s)
        else do
          let (suffix, s) ← s.next.tagText
          pure (Token.tag (some "!") suffix, s)
  if s.wordEnds then return (token, s) else .error .notYaml

/-- A number of a version. -/
def versionNumber (s : Source) : Except Fault (Nat × Source) :=
  let (digits, s) := s.takeWhile CodePoint.isAsciiDigit
  if digits.isEmpty then .error .notYaml else .ok (digits.foldl (fun n c => 10 * n + (c.val - 48)) 0, s)

/-- What a directive of a name says. -/
def directiveOf (name : Text) (s : Source) : Except Fault (Directive × Source) :=
  if name = "YAML" then do
    let (major, s) ← s.dropSpaces.versionNumber
    if !s.isAt (· = '.') then .error .notYaml
    else
      let (_, s) ← s.next.versionNumber
      if s.wordEnds then return (.version major, s) else .error .notYaml
  else if name = "TAG" then do
    let (handle, s) ← s.dropSpaces.tagHandle
    if !s.isAt (· = ' ') then .error .notYaml
    else
      let (start, s) ← s.dropSpaces.tagText
      if s.wordEnds then return (.tag handle start, s) else .error .notYaml
  else .ok (.unknown, s.dropWhile fun c => !isBreak c)

/-- A directive, to the end of its line. -/
def directive (s : Source) : Except Fault (Directive × Source) := do
  let (name, s) := s.next.takeWhile isNamePart
  if name.isEmpty || !s.wordEnds then .error .notYaml
  else
    let (d, s) ← s.directiveOf name
    let s := s.dropSpaces.dropComment
    if s.lineEnds then return (d, s.takeBreak.2) else .error .notYaml

end Source

end Remit.Yaml
