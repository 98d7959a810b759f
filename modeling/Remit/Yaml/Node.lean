import Remit.Yaml.Tag
import Remit.Yaml.Token

/-!
# Nodes

The tree that the tokens of a document spell. Names given to parts of the tree are resolved where they are used, and
entries that a mapping takes over from others are put in front of its own.
-/

namespace Remit.Yaml

/-- A part of a document. -/
inductive Node where
  | scalar (tag : Tag) (content : Text)
  | sequence (tag : Tag) (items : List Node)
  | mapping (tag : Tag) (entries : List (Node × Node))
  /-- A mapping that is to take over entries from something that has none. -/
  | unmergeable

namespace Node

/-- Nothing, where a value might stand. -/
def empty : Node := .scalar .null []

/-- The tag of a node. -/
def tag : Node → Tag
  | .scalar tag _ | .sequence tag _ | .mapping tag _ => tag
  | .unmergeable => .mapping

/-- The entries of a mapping. -/
def entries? : Node → Option (List (Node × Node))
  | .mapping _ entries => some entries
  | _ => none

/-- The entries that the value of a merging key brings in: those of a mapping, or of several, the last one first. -/
def mergedEntries? : Node → Option (List (Node × Node))
  | .mapping _ entries => some entries
  | .sequence _ items => (items.mapM entries?).map fun parts => parts.reverse.flatten
  | .scalar .. | .unmergeable => none

/-- Entries with the merging keys replaced by what they bring in, in front of the others. The key of a default value is
a text here. -/
def merge? (entries : List (Node × Node)) : Option (List (Node × Node)) := do
  let merged ← (entries.filter fun e => e.1.tag = .merge).mapM fun e => mergedEntries? e.2
  let own := (entries.filter fun e => e.1.tag ≠ .merge).map fun e =>
    match e.1 with
    | .scalar .value content => (.scalar .text content, e.2)
    | key => (key, e.2)
  return merged.flatten ++ own

/-- The mapping with the given entries, and those that its merging keys bring in. -/
def ofEntries (tag : Tag) (entries : List (Node × Node)) : Node :=
  match merge? entries with
  | some entries => .mapping tag entries
  | none => .unmergeable

/-! ## From tokens to nodes -/

/-- What is left to read, and the names given so far. A name is taken as soon as the part that it names begins. -/
structure Parsing where
  tokens : List Token
  names : List Text := []
  named : List (Text × Node) := []

namespace Parsing

/-- The next token. -/
def peek (p : Parsing) : Option Token := p.tokens.head?

/-- What is left behind the next token. -/
def next (p : Parsing) : Parsing := { p with tokens := p.tokens.tail }

/-- Is the next token one of several? -/
def isAt (p : Parsing) (tokens : List Token) : Bool := p.peek.any tokens.contains

/-- What is left behind a token that has to come next. -/
def expect (t : Token) (p : Parsing) : Option Parsing := if p.isAt [t] then some p.next else none

end Parsing

/-- Short names for the starts of tags. -/
abbrev Handles := List (Text × Text)

/-- The full name of a tag; `none` if its short name is not known. -/
def tagName? (handles : Handles) (handle : Option Text) (suffix : Text) : Option Text :=
  match handle with
  | none => some suffix
  | some handle => (handles.lookup handle).map (· ++ suffix)

/-- A name and a tag in front of a node, in either order. The tag is given by its full name. -/
def properties? (handles : Handles) (p : Parsing) : Option ((Option Text × Option Text) × Parsing) :=
  match p.tokens with
  | .anchor name :: .tag handle suffix :: tokens | .tag handle suffix :: .anchor name :: tokens =>
    (tagName? handles handle suffix).map fun tag => ((some name, some tag), { p with tokens })
  | .anchor name :: tokens => some ((some name, none), { p with tokens })
  | .tag handle suffix :: tokens =>
    (tagName? handles handle suffix).map fun tag => ((none, some tag), { p with tokens })
  | _ => some ((none, none), p)

/-- The tag of a text. A plain one tells it by its form, and so does any other under the tag without a name. -/
def scalarTag (tag? : Option Text) (isPlain : Bool) (content : Text) : Tag :=
  match tag? with
  | none => if isPlain then Tag.ofPlain content else .text
  | some tag => if tag = "!" then Tag.ofPlain content else Tag.ofName tag

/-- The tag of a collection. -/
def collectionTag (tag? : Option Text) (default : Tag) : Tag :=
  match tag? with
  | none => default
  | some tag => if tag = "!" then default else Tag.ofName tag

/-- Takes a name for a part that begins. Each name is given once. -/
def declare (name? : Option Text) (p : Parsing) : Option Parsing :=
  match name? with
  | none => some p
  | some name => if p.names.contains name then none else some { p with names := name :: p.names }

/-- Gives a name to a node. -/
def define (name? : Option Text) (node : Node) (p : Parsing) : Node × Parsing :=
  match name? with
  | none => (node, p)
  | some name => (node, { p with named := (name, node) :: p.named })

mutual

/-- Reads a node. Blocks start only where `block` says so, and the items of a list may stand at the column of their key
where `flush` says so. -/
def node? (handles : Handles) : (fuel : Nat) → (block flush : Bool) → Parsing → Option (Node × Parsing)
  | 0, _, _, _ => none
  | fuel + 1, block, flush, p =>
    match p.peek with
    | some (.alias name) => (p.named.lookup name).map fun node => (node, p.next)
    | _ => do
      let ((name?, tag?), p) ← properties? handles p
      let p ← declare name? p
      let sequence (r : Option (List Node × Parsing)) : Option (Node × Parsing) :=
        r.map fun (items, p) => define name? (.sequence (collectionTag tag? .sequence) items) p
      let mapping (r : Option (List (Node × Node) × Parsing)) : Option (Node × Parsing) := do
        let (entries, p) ← r
        return define name? (ofEntries (collectionTag tag? .mapping) entries) p
      match p.peek with
      | some (.scalar isPlain content) =>
        return define name? (.scalar (scalarTag tag? isPlain content) content) p.next
      | some .openBracket => sequence (flowItems? handles fuel true p.next)
      | some .openBrace => mapping (flowEntries? handles fuel true p.next)
      | t =>
        if flush && t = some .entry then sequence (flushItems? handles fuel p)
        else if block && t = some .sequenceStart then sequence (blockItems? handles fuel p.next)
        else if block && t = some .mappingStart then mapping (blockEntries? handles fuel p.next)
        else if name?.isSome || tag?.isSome then
          return define name? (.scalar (scalarTag tag? true []) []) p
        else none

/-- Reads a node unless one of the given tokens, or the end of all, comes next. -/
def nodeUnless? (handles : Handles) : (fuel : Nat) → (block flush : Bool) → List Token → Parsing → Option (Node × Parsing)
  | 0, _, _, _, _ => none
  | fuel + 1, block, flush, stops, p =>
    if p.isAt stops then some (empty, p) else node? handles fuel block flush p

/-- Reads the items of a list in a block. -/
def blockItems? (handles : Handles) : (fuel : Nat) → Parsing → Option (List Node × Parsing)
  | 0, _ => none
  | fuel + 1, p =>
    if p.isAt [.entry] then do
      let (item, p) ← nodeUnless? handles fuel true false [.entry, .blockEnd] p.next
      let (items, p) ← blockItems? handles fuel p
      return (item :: items, p)
    else (p.expect .blockEnd).map fun p => ([], p)

/-- Reads the items of a list that stands at the column of its key. -/
def flushItems? (handles : Handles) : (fuel : Nat) → Parsing → Option (List Node × Parsing)
  | 0, _ => none
  | fuel + 1, p =>
    if p.isAt [.entry] then do
      let (item, p) ← nodeUnless? handles fuel true false [.entry, .key, .value, .blockEnd] p.next
      let (items, p) ← flushItems? handles fuel p
      return (item :: items, p)
    else some ([], p)

/-- Reads the entries of a mapping in a block. -/
def blockEntries? (handles : Handles) : (fuel : Nat) → Parsing → Option (List (Node × Node) × Parsing)
  | 0, _ => none
  | fuel + 1, p =>
    let stops : List Token := [.key, .value, .blockEnd]
    if p.isAt [.key] then do
      let (key, p) ← nodeUnless? handles fuel true true stops p.next
      let (value, p) ← if p.isAt [.value] then nodeUnless? handles fuel true true stops p.next else some (empty, p)
      let (entries, p) ← blockEntries? handles fuel p
      return ((key, value) :: entries, p)
    else (p.expect .blockEnd).map fun p => ([], p)

/-- Reads the items of a list in brackets. An entry with a key is a mapping of its own. -/
def flowItems? (handles : Handles) : (fuel : Nat) → (isFirst : Bool) → Parsing → Option (List Node × Parsing)
  | 0, _, _ => none
  | fuel + 1, isFirst, p =>
    if p.isAt [.closeBracket] then some ([], p.next)
    else do
      let p ← if isFirst then some p else p.expect .comma
      if p.isAt [.closeBracket] then return ([], p.next)
      else
        let (item, p) ← if p.isAt [.key] then do
            let (key, p) ← nodeUnless? handles fuel false false [.value, .comma, .closeBracket] p.next
            let (value, p) ← if p.isAt [.value] then nodeUnless? handles fuel false false [.comma, .closeBracket] p.next
              else some (empty, p)
            pure (ofEntries .mapping [(key, value)], p)
          else node? handles fuel false false p
        let (items, p) ← flowItems? handles fuel false p
        return (item :: items, p)

/-- Reads the entries of a mapping in braces. A node without a value is a key with nothing. -/
def flowEntries? (handles : Handles) : (fuel : Nat) → (isFirst : Bool) → Parsing → Option (List (Node × Node) × Parsing)
  | 0, _, _ => none
  | fuel + 1, isFirst, p =>
    if p.isAt [.closeBrace] then some ([], p.next)
    else do
      let p ← if isFirst then some p else p.expect .comma
      if p.isAt [.closeBrace] then return ([], p.next)
      else
        let (entry, p) ← if p.isAt [.key] then do
            let (key, p) ← nodeUnless? handles fuel false false [.value, .comma, .closeBrace] p.next
            let (value, p) ← if p.isAt [.value] then nodeUnless? handles fuel false false [.comma, .closeBrace] p.next
              else some (empty, p)
            pure ((key, value), p)
          else do
            let (key, p) ← node? handles fuel false false p
            pure ((key, empty), p)
        let (entries, p) ← flowEntries? handles fuel false p
        return (entry :: entries, p)

end

/-! ## Documents -/

/-- The directives in front of a document. The version is given once and starts with 1; a short name is given once. -/
def directives? : (hasVersion : Bool) → Handles → List Token → Option (Handles × List Token)
  | hasVersion, handles, .directive d :: tokens =>
    match d with
    | .version major => if hasVersion || major ≠ 1 then none else directives? true handles tokens
    | .tag handle start =>
      if (handles.lookup handle).isSome then none else directives? hasVersion ((handle, start) :: handles) tokens
    | .unknown => directives? hasVersion handles tokens
  | _, handles, tokens => some (handles, tokens)

/-- The short names that every document knows unless it gives them anew. -/
def standardHandles : Handles := [("!", "!"), ("!!", Tag.standard)]

/-- Requires that nothing but ends of documents is left. -/
def ended? (p : Parsing) : Option Unit := if p.tokens.all (· == .documentEnd) then some () else none

/-- A document from its first token on, behind the directives. -/
def content? (handles : Handles) (p : Parsing) : Option Node := do
  let fuel := 3 * p.tokens.length + 16
  let (node, p) ← if p.tokens.isEmpty || p.isAt [.documentStart, .documentEnd] ||
      (match p.peek with
        | some (.directive _) => true
        | _ => false) then some (empty, p)
    else node? handles fuel true false p
  ended? p
  return node

/-- The one document that tokens spell; nothing if there are no tokens. -/
def ofTokens? (tokens : List Token) : Option Node :=
  match tokens with
  | [] => some empty
  | .directive _ :: _ | .documentStart :: _ => do
    let (handles, tokens) ← directives? false [] tokens
    let p ← ({ tokens } : Parsing).expect .documentStart
    content? (handles ++ standardHandles) p
  | _ => do
    let p : Parsing := { tokens }
    let (node, p) ← node? standardHandles (3 * tokens.length + 16) true false p
    ended? p
    return node

end Node

end Remit.Yaml
