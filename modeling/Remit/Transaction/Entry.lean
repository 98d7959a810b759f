import Remit.Transaction.Input
import Remit.Transaction.Output

/-!
# Entries

What a transaction is made of: inputs and outputs, and the blank that both refine, which has no written form. Two
entries are equal if they are of one sort and their fields are equal.
-/

namespace Remit.Transaction

/-- An entry of a transaction, or another value in its place. -/
inductive Entry where
  | input (i : Input)
  | output (o : Output)
  | blank
  | value (v : Value)

/-- Are two rows of fields equal? -/
def fieldsEqual (xs ys : List Value) : Bool := Value.list xs == Value.list ys

instance : BEq Input := ⟨fun i j => fieldsEqual i.fields j.fields⟩
instance : BEq Output := ⟨fun o p => fieldsEqual o.fields p.fields⟩

namespace Entry

/-- The entry on the wire. -/
def draft : Entry → Wire.Draft
  | .input i => i.draft
  | .output o => o.draft
  | .blank => .stopped .notImplemented
  | .value _ => .stopped .noSuchAttribute

/-- The bytes of the entry. -/
def serialized (e : Entry) : Except Error Bytes := e.draft.toExcept

/-- The number of bytes of the entry. -/
def size (e : Entry) : Except Error Nat := e.serialized.map List.length

/-- Are two entries equal? Blanks have no fields that could be compared. -/
def equals : Entry → Entry → Except Error Bool
  | .input i, .input j => .ok (i == j)
  | .output o, .output p => .ok (o == p)
  | .blank, .blank => .error .notImplemented
  | .value v, .value w => .ok (v == w)
  | _, _ => .ok false

/-- Requires that the entry can be hashed: blanks cannot, nor can fields that hold lists or mappings. -/
def checkHashable : Entry → Except Error Unit
  | .input i => if i.fields.all Value.isKey then .ok () else .error .wrongType
  | .output o => if o.fields.all Value.isKey then .ok () else .error .wrongType
  | .blank => .error .notImplemented
  | .value v => if v.isKey then .ok () else .error .wrongType

/-- Do two entries hash equally? Entries that are equal do, and the others are taken not to. -/
def hashEquals (d e : Entry) : Except Error Bool := do
  d.checkHashable
  e.checkHashable
  d.equals e

end Entry

end Remit.Transaction
