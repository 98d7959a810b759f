import Remit.Script
import Remit.Wire.Cursor

/-!
# Transaction outputs

An output holds an amount that whoever can satisfy its script may spend. Its fields hold whatever a caller put there;
they are checked when the output is written. An output also travels alone, and then nothing may follow it.
-/

namespace Remit.Transaction

/-- An output: an amount and the script that locks it. -/
structure Output where
  amount : Value
  script : Value

/-- The versions of the wire protocol that can be read. -/
def protocolVersions : List Value := [.int 1]

/-- The versions of transactions whose outputs can be read. -/
def transactionVersions : List Value := [.int 1, .int 2]

/-- Requires that both versions can be read; the protocol is looked at first. -/
def checkVersions (protocol transaction : Value) : Except Error Unit :=
  if !protocolVersions.contains protocol then .error (Error.raised (.serialization (.unsupportedProtocol protocol)))
  else if !transactionVersions.contains transaction then
    .error (Error.raised (.serialization (.unsupportedTransaction transaction)))
  else .ok ()

namespace Output

/-- An output that pays to the hash of a public key. -/
def payPubkeyHash (amount : Value) (hash : Bytes) : Except Error Output := do
  return ⟨amount, ← Script.payPubkeyHash hash⟩

/-- Reads an output. -/
def reader : Wire.Reader Output := do
  let amount ← Wire.Reader.word 8
  let script ← Wire.Reader.varBytes
  return ⟨amount, script⟩

/-- Reads an output of the given versions. -/
def readerOf (protocol transaction : Value) : Wire.Reader Output := do
  Wire.Reader.ofExcept (checkVersions protocol transaction)
  reader

/-- An output that stands alone. -/
def ofBytes (raw : Bytes) (protocol : Value := .int 1) (transaction : Value := .int 1) : Except Error Output :=
  (readerOf protocol transaction).readAll raw

/-- The output on the wire. -/
def draft (o : Output) : Wire.Draft := .word 8 o.amount ++ .varBytes o.script

/-- The bytes of the output. -/
def raw (o : Output) : Except Error Bytes := o.draft.toExcept

/-- Does the output pay to the hash of a public key? -/
def isPayPubkeyHash (o : Output) : Except Error Bool := Script.isPayPubkeyHashValue o.script

/-- The fields in order. -/
def fields (o : Output) : List Value := [o.amount, o.script]

/-- A short text that shows the output. -/
def label (o : Output) : Except Error Text :=
  match o.script with
  | .bytes script => do return "Output(" ++ (← o.amount.inWords) ++ ", " ++ Hex.encode script ++ ")"
  | _ => .error .wrongType

end Output

end Remit.Transaction
