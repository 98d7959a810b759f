import Remit.Crypto.Sha256
import Remit.Transaction.Entry

/-!
# Transactions

A transaction lists inputs and outputs between a version and a lock time. Its bytes are kept once they are known: those
it was read from, or those that were written when they were first asked for; so is their hash. Adding inputs or outputs
forgets both; assigning a field forgets neither.
-/

namespace Remit

/-- What a transaction holds. -/
structure Transaction.Contents where
  version : Value := .int 1
  locktime : Value := .int 0
  inputs : List Transaction.Input := []
  outputs : List Transaction.Output := []

/-- A transaction. -/
structure Transaction extends Transaction.Contents where
  /-- The bytes, if they are known. -/
  kept? : Option Bytes := none
  /-- The hash of the bytes, if it is known. -/
  keptHash? : Option Bytes := none

namespace Transaction

namespace Contents

/-- Reads what a transaction holds. -/
def reader : Wire.Reader Contents := do
  let version ← Wire.Reader.word 4
  let inputs ← Wire.Reader.repeated Input.reader (← Wire.Reader.compactSize)
  let outputs ← Wire.Reader.repeated Output.reader (← Wire.Reader.compactSize)
  let locktime ← Wire.Reader.word 4
  return { version, inputs, outputs, locktime }

/-- What a transaction holds, on the wire. -/
def draft (c : Contents) : Wire.Draft :=
  .word 4 c.version ++
    (.compactSize c.inputs.length ++ .concat (c.inputs.map Input.draft)) ++
    (.compactSize c.outputs.length ++ .concat (c.outputs.map Output.draft)) ++
    .word 4 c.locktime

/-- Equal versions, lock times, inputs and outputs. -/
instance : BEq Contents where
  beq c d := c.version == d.version && c.locktime == d.locktime && c.inputs == d.inputs && c.outputs == d.outputs

end Contents

/-- Equal contents; the bytes do not matter. -/
instance : BEq Transaction where
  beq s t := s.toContents == t.toContents

/-! ## Looking at the bytes -/

/-- The bytes of the transaction, which it keeps from now on. -/
def raw (tx : Transaction) : Except Error (Bytes × Transaction) :=
  match tx.kept? with
  | some bytes => .ok (bytes, tx)
  | none => do
    let bytes ← tx.draft.toExcept
    return (bytes, { tx with kept? := some bytes })

/-- The hash of bytes, under which a transaction is known. -/
def hashOf (raw : Bytes) : Bytes := Sha256.doubleHash raw

/-- The hash of the transaction, which it keeps from now on, as it does the bytes that were hashed. -/
def hash (tx : Transaction) : Except Error (Bytes × Transaction) :=
  match tx.keptHash? with
  | some hash => .ok (hash, tx)
  | none => do
    let (bytes, tx) ← tx.raw
    let hash := hashOf bytes
    return (hash, { tx with keptHash? := some hash })

/-- A hash as a name: turned around, in hexadecimal. -/
def nameOf (hash : Bytes) : Text := Hex.encode hash.reverse

/-- The name of the transaction. -/
def id (tx : Transaction) : Except Error (Text × Transaction) := do
  let (hash, tx) ← tx.hash
  return (nameOf hash, tx)

/-- The number of bytes of the transaction. -/
def size (tx : Transaction) : Except Error (Nat × Transaction) := do
  let (bytes, tx) ← tx.raw
  return (bytes.length, tx)

/-- A short text that names the transaction. -/
def label (tx : Transaction) : Except Error (Text × Transaction) := do
  let (name, tx) ← tx.id
  return ("Transaction(" ++ name ++ ")", tx)

/-- What the transaction is looked up by in sets and mappings: its hash. -/
def key (tx : Transaction) : Except Error (Bytes × Transaction) := tx.hash

/-! ## Making and changing -/

/-- The transaction that bytes hold; it keeps them. Its name goes into a journal, so it keeps the hash as well. -/
def ofBytes (raw : Bytes) : Except Error Transaction := do
  let contents ← Contents.reader.readAll raw
  let (_, tx) ← Transaction.id { contents with kept? := some raw }
  return tx

/-- The transaction that a hexadecimal text holds, or bytes that spell one. -/
def ofHex : Value → Except Error Transaction
  | .text t => do ofBytes (← (Hex.decode t).mapError .hex)
  | .bytes bs => do ofBytes (← (Hex.decodeBytes bs).mapError .hex)
  | _ => .error .wrongType

/-- Adds inputs and forgets the bytes and the hash. -/
def addInputs (inputs : List Input) (tx : Transaction) : Transaction :=
  { tx with inputs := tx.inputs ++ inputs, kept? := none, keptHash? := none }

/-- Adds outputs and forgets the bytes and the hash. -/
def addOutputs (outputs : List Output) (tx : Transaction) : Transaction :=
  { tx with outputs := tx.outputs ++ outputs, kept? := none, keptHash? := none }

/-! ## Sets -/

/-- Puts a transaction into a set under its key. It is left out if an equal one is there under the same key. -/
def putIn (members : List (Bytes × Transaction)) (entry : Bytes × Transaction) : List (Bytes × Transaction) :=
  if members.any fun m => m.1 == entry.1 && m.2 == entry.2 then members else members ++ [entry]

/-- The set of transactions that are put in one after the other, each under its key. -/
def distinct (entries : List (Bytes × Transaction)) : List (Bytes × Transaction) := entries.foldl putIn []

/-! ## Amounts -/

/-- The sum of two amounts. -/
def addAmounts (sum amount : Value) : Except Error Value :=
  match sum, amount with
  | .float x, .float y => .ok (.float (x.add y))
  | .float x, v | v, .float x =>
    match v.toInt? with
    | none => .error .wrongType
    | some i =>
      match Binary64.ofInt? i with
      | none => .error .floatOverflow
      | some y => .ok (.float (x.add y))
  | v, w =>
    match v.toInt?, w.toInt? with
    | some i, some j => .ok (.int (i + j))
    | _, _ => .error .wrongType

/-- What the outputs amount to. -/
def outputSum (tx : Transaction) : Except Error Value :=
  tx.outputs.foldlM (fun sum o => addAmounts sum o.amount) (.int 0)

end Transaction

end Remit
