import Remit.Transaction.Basic

/-!
# Responses

What a service answers: the script to pay to, or a transaction and the outputs it expects to be funded. An answer is an
object with exactly the fields of its kind. Its hexadecimal texts are decoded one after the other, and the first that
cannot be decoded is reported with the stage of decoding and, for outputs, the position.
-/

namespace Remit

namespace Value

/-- Is one key sorted in front of another? Texts are sorted by code points, byte strings by bytes, numbers by size; other
keys have no order among each other. -/
def sortsBefore? : Value → Value → Option Bool
  | .text t, .text u => some (decide (t.map Fin.val < u.map Fin.val))
  | .bytes b, .bytes c => some (decide (b.map UInt8.toNat < c.map UInt8.toNat))
  | .float x, .float y => some (x.compare? y == some .lt)
  | .float x, w => w.toInt?.map fun i => x.compareInt? i == some .lt
  | v, .float y => v.toInt?.map fun i => y.compareInt? i == some .gt
  | v, w => match v.toInt?, w.toInt? with
    | some i, some j => some (decide (i < j))
    | _, _ => none

/-- Keys in order, unless two of them have no order. -/
def sortKeys? (keys : List Value) : Option (List Value) :=
  if keys.all fun v => keys.all fun w => (sortsBefore? v w).isSome || keys.length < 2 then
    some (keys.mergeSort fun v w => !((sortsBefore? w v).getD false))
  else none

end Value

namespace Payment

/-- A stage of reading an answer. -/
abbrev Stage := String

namespace Response

/-- Decodes a text of the answer. -/
def decodeHex (stage : Stage) (position : Value) (t : Text) : Except Error Bytes :=
  (Hex.decode t).mapError fun fault => .format stage (.hex fault) position

/-- Reports a fault of the wire format at a stage. -/
def atStage {α : Type} (stage : Stage) (position : Value) : Except Error α → Except Error α
  | .ok a => .ok a
  | .error e => if e.isA .serialization then .error (.format stage e position) else .error e

/-- The entries of an answer. -/
def entries : Value → Except Error (List (Value × Value))
  | .mapping entries => .ok entries
  | v => .error (.format "response" (.notAnObject v.kindName) .null)

/-- The field under a name, in the form that `read?` accepts. -/
def field {α : Type} (read? : Value → Option α) (name : Text) (entries : List (Value × Value)) : Except Error α :=
  match (Value.lookup? (.text name) entries).bind read? with
  | some a => .ok a
  | none => .error (.missingField name)

/-- Requires that there are no fields but the named ones. -/
def checkNames (names : List Text) (entries : List (Value × Value)) : Except Error Unit :=
  let others := (entries.map (·.1)).filter fun key => !(names.any fun name => Value.text name == key)
  match Value.sortKeys? others with
  | none => .error .wrongType
  | some [] => .ok ()
  | some others => .error (Error.raised (.unexpectedFields (.list others)))

/-- The items of a list. -/
def items? : Value → Option (List Value)
  | .list items => some items
  | _ => none

end Response

/-- An answer that names the script to pay to. -/
structure DestinationResponse where
  output : Text

namespace DestinationResponse

/-- The answer that a value is. -/
def ofValue (v : Value) : Except Error DestinationResponse := do
  let entries ← Response.entries v
  let output ← Response.field Value.toText? "output" entries
  Response.checkNames ["output"] entries
  return ⟨output⟩

/-- The script to pay to, which is not empty. -/
def lockingScript (r : DestinationResponse) : Except Error Bytes := do
  let script ← Response.decodeHex "parse script hex" .null r.output
  if script.isEmpty then .error .emptyLockingScript else return script

end DestinationResponse

/-- A transaction to complete, and the outputs that are to be funded. -/
structure PaymentTemplate where
  transaction : Transaction
  outputs : List Transaction.Output

/-- An answer that holds a transaction and outputs. -/
structure PaymentResponse where
  transaction : Text
  outputs : List Text

namespace PaymentResponse

/-- The answer that a value is. -/
def ofValue (v : Value) : Except Error PaymentResponse := do
  let entries ← Response.entries v
  let transaction ← Response.field Value.toText? "paymentRequest" entries
  let items ← Response.field Response.items? "outputs" entries
  Response.checkNames ["paymentRequest", "outputs"] entries
  match items.mapM Value.toText? with
  | some outputs => return ⟨transaction, outputs⟩
  | none => .error (.missingField "outputs")

/-- The transaction of the answer. -/
def decodeTransaction (r : PaymentResponse) : Except Error Transaction := do
  let raw ← Response.decodeHex "parse tx hex" .null r.transaction
  Response.atStage "deserialize tx" .null (Transaction.ofBytes raw)

/-- The output that a text at a position holds. -/
def decodeOutput (position : Nat) (t : Text) : Except Error Transaction.Output := do
  let raw ← Response.decodeHex "parse output hex" position t
  Response.atStage "deserialize output" position (Transaction.Output.ofBytes raw)

/-- The outputs that texts from a position on hold. -/
def decodeOutputsFrom : (position : Nat) → List Text → Except Error (List Transaction.Output)
  | _, [] => .ok []
  | position, t :: ts => do
    let output ← decodeOutput position t
    let others ← decodeOutputsFrom (position + 1) ts
    return output :: others

/-- The outputs of the answer. -/
def decodeOutputs (r : PaymentResponse) : Except Error (List Transaction.Output) := decodeOutputsFrom 0 r.outputs

/-- All that the answer holds. -/
def decode (r : PaymentResponse) : Except Error PaymentTemplate := do
  let transaction ← r.decodeTransaction
  let outputs ← r.decodeOutputs
  return ⟨transaction, outputs⟩

end PaymentResponse

end Payment

end Remit
