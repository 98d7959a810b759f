import Remit.Value

/-!
# Printing JSON

A value as JSON text, on one line or indented. Text is pure ASCII: whatever is not printable ASCII is escaped, beyond
16 bits as a pair of surrogates. Names that are numbers, truth values or nothing are written as the text of them; bytes
and days have no JSON form, nor have numbers of too many digits.
-/

namespace Remit.Json

/-- A 16-bit unit as an escape. -/
def unitEscape (n : Nat) : Text := "\\u" ++ Text.hexPadded 4 n

/-- One code point inside a string. -/
def stringPart (c : CodePoint) : Text :=
  if c = '"' then "\\\"" else if c = '\\' then "\\\\" else if c = '\n' then "\\n" else if c = '\r' then "\\r"
  else if c = '\t' then "\\t" else if c.val = 0x0c then "\\f" else if c.val = 0x08 then "\\b"
  else if 0x20 ≤ c.val ∧ c.val < 0x7f then [c]
  else if c.val < 0x10000 then unitEscape c.val
  else unitEscape (0xd800 + (c.val - 0x10000) / 0x400) ++ unitEscape (0xdc00 + (c.val - 0x10000) % 0x400)

/-- A text as a JSON string. -/
def string (t : Text) : Text := "\"" ++ t.flatMap stringPart ++ "\""

/-- A number as JSON. -/
def number : Binary64 → Text
  | .nan => "NaN"
  | .infinite false => "Infinity"
  | .infinite true => "-Infinity"
  | x => x.text

/-- What cannot be printed: data of a kind that JSON lacks, a name of such a kind, or a number that cannot be shown. -/
inductive Unprintable where
  | data (kind : Text)
  | name (kind : Text)
  | number
deriving DecidableEq

/-- What is said of data that cannot be printed. -/
def Unprintable.message : Unprintable → Text
  | .data kind => "Object of type " ++ kind ++ " is not JSON serializable"
  | .name kind => "keys must be str, int, float, bool or None, not " ++ kind
  | .number =>
    "Exceeds the limit (4300 digits) for integer string conversion; use sys.set_int_max_str_digits() to increase the limit"

/-- A whole number as JSON. -/
def integer (i : Int) : Except Unprintable Text :=
  if (Value.int i).isShowable then .ok (Text.ofInt i) else .error .number

/-- The name under which an entry is printed. -/
def name (v : Value) : Except Unprintable Text :=
  match v with
  | .text t => .ok t
  | .int i => integer i
  | .bool b => .ok (if b then "true" else "false")
  | .null => .ok "null"
  | .float x => .ok (number x)
  | v => .error (.name v.kindName)

/-- What stands between two items and around them: one line, or a new line per item. -/
structure Layout where
  /-- Spaces of one step of indentation; `none` prints on one line. -/
  indent : Option Nat

/-- The line break in front of an item at a depth. -/
def Layout.lineBreak (layout : Layout) (depth : Nat) : Text :=
  match layout.indent with
  | none => []
  | some n => "\n" ++ List.replicate (n * depth) (CodePoint.ofChar ' ')

/-- What stands between two items. -/
def Layout.separator (layout : Layout) (depth : Nat) : Text :=
  match layout.indent with
  | none => ", "
  | some _ => "," ++ layout.lineBreak depth

/-- Items between brackets, at the depth of what holds them. -/
def Layout.enclose (layout : Layout) (depth : Nat) (opening closing : Text) (items : List Text) : Text :=
  if items.isEmpty then opening ++ closing
  else
    opening ++ layout.lineBreak (depth + 1) ++ Text.joinWith (layout.separator (depth + 1)) items ++
      layout.lineBreak depth ++ closing

mutual

/-- Prints a value at a depth. -/
def print (layout : Layout) (depth : Nat) : Value → Except Unprintable Text
  | .null => .ok "null"
  | .bool b => .ok (if b then "true" else "false")
  | .int i => integer i
  | .float x => .ok (number x)
  | .text t => .ok (string t)
  | .list items => (printItems layout (depth + 1) items).map (layout.enclose depth "[" "]")
  | .mapping entries => (printEntries layout (depth + 1) entries).map (layout.enclose depth "\x7b" "\x7d")
  | .bytes b => .error (.data (Value.bytes b).kindName)
  | .date d => .error (.data (Value.date d).kindName)
  | .moment m => .error (.data (Value.moment m).kindName)
  | .other kind .. => .error (.data kind)

/-- Prints the items of a list. -/
def printItems (layout : Layout) (depth : Nat) : List Value → Except Unprintable (List Text)
  | [] => .ok []
  | v :: vs => do
    let first ← print layout depth v
    let rest ← printItems layout depth vs
    return first :: rest

/-- Prints the entries of a mapping. -/
def printEntries (layout : Layout) (depth : Nat) : List (Value × Value) → Except Unprintable (List Text)
  | [] => .ok []
  | (k, v) :: entries => do
    let label ← name k
    let content ← print layout depth v
    let rest ← printEntries layout depth entries
    return (string label ++ ": " ++ content) :: rest

end

/-- A value on one line. -/
def line (v : Value) : Except Unprintable Text := print ⟨none⟩ 0 v

/-- A value with one item to a line, each step indented by two spaces. -/
def indented (v : Value) : Except Unprintable Text := print ⟨some 2⟩ 0 v

end Remit.Json
