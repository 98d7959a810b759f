import Remit.Yaml.Mark
import Remit.Yaml.Scalar

/-!
# The tokens of a document

Splits a document into tokens. Outside of brackets, blocks start and end with the indentation of what they hold. What
may turn out to be a key is kept in mind with its place among the tokens until a colon shows that it is one; such a key
stands on one line and is not longer than 1024 code points.
-/

namespace Remit.Yaml

/-- Something that may turn out to be a key. -/
structure PossibleKey where
  /-- How many tokens stand in front of it. -/
  position : Nat
  /-- Nothing else can stand there. -/
  isRequired : Bool
  index : Nat
  line : Nat
  column : Nat

/-- How far a document is read. -/
structure Reading where
  source : Source
  /-- The tokens so far, the last one first. -/
  tokens : List Token := []
  /-- How many brackets are open. -/
  depth : Nat := 0
  /-- The column of the innermost block, and those of the blocks around it; -1 outside of all. -/
  indent : Int := -1
  outer : List Int := []
  /-- May a key start here? -/
  keyAllowed : Bool := true
  /-- What may be a key, with the number of brackets around it. -/
  keys : List (Nat × PossibleKey) := []

namespace Reading

/-- Adds a token. -/
def push (t : Token) (r : Reading) : Reading := { r with tokens := t :: r.tokens }

/-- Adds a token in front of those from a position on. -/
def insertAt (position : Nat) (t : Token) (r : Reading) : Reading :=
  let after := r.tokens.length - position
  { r with tokens := r.tokens.take after ++ t :: r.tokens.drop after }

/-- Inside brackets indentation does not count. -/
def inFlow (r : Reading) : Bool := r.depth != 0

/-- Moves the place on. -/
def moveTo (s : Source) (r : Reading) : Reading := { r with source := s }

/-! ## Keys -/

/-- Can what was kept in mind no longer be a key here? -/
def isStale (r : Reading) (k : PossibleKey) : Bool :=
  k.line != r.source.line || k.index + 1024 < r.source.index

/-- Forgets what can no longer be a key. -/
def dropStale (r : Reading) : Except Fault Reading :=
  if r.keys.any fun k => r.isStale k.2 && k.2.isRequired then .error .notYaml
  else .ok { r with keys := r.keys.filter fun k => !r.isStale k.2 }

/-- Forgets what might be a key between the same brackets. -/
def dropKey (r : Reading) : Except Fault Reading :=
  match r.keys.lookup r.depth with
  | some k =>
    if k.isRequired then .error .notYaml else .ok { r with keys := r.keys.filter fun k => k.1 != r.depth }
  | none => .ok r

/-- Keeps in mind that a key may start here. -/
def noteKey (r : Reading) : Except Fault Reading :=
  if r.keyAllowed then do
    let isRequired := !r.inFlow && r.indent == r.source.column
    let r ← r.dropKey
    let k : PossibleKey := ⟨r.tokens.length, isRequired, r.source.index, r.source.line, r.source.column⟩
    return { r with keys := (r.depth, k) :: r.keys }
  else .ok r

/-! ## Blocks -/

/-- Ends the blocks that are indented further than a column. -/
def endBlocks (column : Int) : (outer : List Int) → Reading → Reading
  | [], r => r
  | i :: outer, r =>
    if column < r.indent then endBlocks column outer { r with indent := i, outer, tokens := .blockEnd :: r.tokens }
    else r

/-- Ends the blocks that the indentation of a column ends; none inside brackets. -/
def unwind (column : Int) (r : Reading) : Reading := if r.inFlow then r else endBlocks column r.outer r

/-- Starts a block at a column, in front of the token at a position, if no block is indented as far. -/
def startBlock (t : Token) (column position : Nat) (r : Reading) : Reading :=
  if r.indent < column then
    { r.insertAt position t with indent := column, outer := r.indent :: r.outer }
  else r

/-! ## Tokens -/

/-- Goes on to the next token: over spaces, comments and line ends. Outside of brackets a key may start a line. -/
def skipGaps : (fuel : Nat) → Reading → Reading
  | 0, r => r
  | fuel + 1, r =>
    let s := r.source.dropSpaces.dropComment
    if s.isAt isBreak then
      skipGaps fuel { r with source := s.takeBreak.2, keyAllowed := r.keyAllowed || !r.inFlow }
    else r.moveTo s

/-- A token that is a mark of one code point. -/
def mark (t : Token) (r : Reading) : Reading := (r.push t).moveTo r.source.next

/-- The start of something between brackets. -/
def openFlow (t : Token) (r : Reading) : Except Fault Reading := do
  let r ← r.noteKey
  return { r.mark t with depth := r.depth + 1, keyAllowed := true }

/-- The end of something between brackets. -/
def closeFlow (t : Token) (r : Reading) : Except Fault Reading := do
  let r ← r.dropKey
  if r.depth = 0 then .error .notYaml else return { r.mark t with depth := r.depth - 1, keyAllowed := false }

/-- A comma. -/
def comma (r : Reading) : Except Fault Reading := do
  let r ← r.dropKey
  return { r.mark .comma with keyAllowed := true }

/-- The mark of an item of a list. -/
def entry (r : Reading) : Except Fault Reading := do
  if !r.inFlow && !r.keyAllowed then .error .notYaml
  else
    let r := if r.inFlow then r else r.startBlock .sequenceStart r.source.column r.tokens.length
    let r ← r.dropKey
    return { r.mark .entry with keyAllowed := true }

/-- The mark of a key. -/
def key (r : Reading) : Except Fault Reading := do
  if !r.inFlow && !r.keyAllowed then .error .notYaml
  else
    let r := if r.inFlow then r else r.startBlock .mappingStart r.source.column r.tokens.length
    let r ← r.dropKey
    return { r.mark .key with keyAllowed := !r.inFlow }

/-- The mark of a value. What was kept in mind in front of it is its key. -/
def value (r : Reading) : Except Fault Reading :=
  match r.keys.lookup r.depth with
  | some k =>
    let r := { r with keys := r.keys.filter fun k => k.1 != r.depth }
    let r := r.insertAt k.position .key
    let r := if r.inFlow then r else r.startBlock .mappingStart k.column k.position
    .ok { r.mark .value with keyAllowed := false }
  | none =>
    if !r.inFlow && !r.keyAllowed then .error .notYaml
    else do
      let r := if r.inFlow then r else r.startBlock .mappingStart r.source.column r.tokens.length
      let r ← { r with keyAllowed := !r.inFlow }.dropKey
      return r.mark .value

/-- A token that may be a key, and the place behind it. -/
def content (read : Source → Except Fault (Token × Source)) (r : Reading) : Except Fault Reading := do
  let r ← r.noteKey
  let (t, s) ← read r.source
  return { (r.push t).moveTo s with keyAllowed := false }

/-- A plain text. A key may follow where it left off behind the end of a line. -/
def plain (r : Reading) : Except Fault Reading := do
  let r ← r.noteKey
  let (t, brokeLine, s) := r.source.plain r.inFlow (r.indent + 1)
  return { (r.push (.scalar true t)).moveTo s with keyAllowed := brokeLine }

/-- A block of text. -/
def block (folded : Bool) (r : Reading) : Except Fault Reading := do
  let r ← r.dropKey
  let (t, s) ← r.source.block folded r.indent
  return { (r.push (.scalar false t)).moveTo s with keyAllowed := true }

/-- A separator of documents. -/
def separator (t : Token) (r : Reading) : Except Fault Reading := do
  let r ← (r.unwind (-1)).dropKey
  return { (r.push t).moveTo (r.source.skip 3) with keyAllowed := false }

/-- A directive. -/
def directive (r : Reading) : Except Fault Reading := do
  let r ← (r.unwind (-1)).dropKey
  let (d, s) ← r.source.directive
  return { (r.push (.directive d)).moveTo s with keyAllowed := false }

/-- May a plain text start with `c` at the place? -/
def startsPlain (r : Reading) (c : CodePoint) : Bool :=
  !(isGap c || Text.isOneOf "-?:,[]\x7b\x7d#&*!|>'\"%@`" c) ||
    (!r.source.gapAt 1 && (c = '-' || (!r.inFlow && (c = '?' || c = ':'))))

/-- The token that starts with `c`. -/
def token (c : CodePoint) (r : Reading) : Except Fault Reading :=
  let s := r.source
  if c = '%' && s.column == 0 then r.directive
  else if s.column == 0 && s.isAtMark '-' then r.separator .documentStart
  else if s.column == 0 && s.isAtMark '.' then r.separator .documentEnd
  else if c = '[' then r.openFlow .openBracket
  else if c = '\x7b' then r.openFlow .openBrace
  else if c = ']' then r.closeFlow .closeBracket
  else if c = '\x7d' then r.closeFlow .closeBrace
  else if c = ',' then r.comma
  else if c = '-' && s.gapAt 1 then r.entry
  else if c = '?' && (r.inFlow || s.gapAt 1) then r.key
  else if c = ':' && (r.inFlow || s.gapAt 1) then r.value
  else if c = '*' then r.content fun s => do
    let (name, s) ← s.name
    return (.alias name, s)
  else if c = '&' then r.content fun s => do
    let (name, s) ← s.name
    return (.anchor name, s)
  else if c = '!' then r.content Source.tag
  else if c = '|' && !r.inFlow then r.block false
  else if c = '>' && !r.inFlow then r.block true
  else if c = '\'' || c = '"' then r.content fun s => do
    let (t, s) ← s.quoted (c = '"')
    return (.scalar false t, s)
  else if r.startsPlain c then r.plain
  else .error .notYaml

/-- Reads to the end. -/
def run : (fuel : Nat) → Reading → Except Fault (List Token)
  | 0, _ => .error .notYaml
  | fuel + 1, r => do
    let r ← (skipGaps (r.source.rest.length + 1) r).dropStale
    let r := r.unwind r.source.column
    match r.source.peek with
    | none =>
      let r ← (r.unwind (-1)).dropKey
      return r.tokens.reverse
    | some c => run fuel (← r.token c)

end Reading

/-- The tokens of a document, which may start with a byte order mark. -/
def tokens (t : Text) : Except Fault (List Token) :=
  if t.all isPrintable then
    let start := Source.of t
    let start := if start.isAt (· = byteOrderMark) then start.next else start
    Reading.run (t.length + 2) { source := start }
  else .error .notYaml

end Remit.Yaml
