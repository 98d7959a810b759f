import Remit.Wire.Cursor

/-!
# Transaction inputs

An input spends the output at a position of an earlier transaction. Its fields hold whatever a caller put there; they
are checked when the input is written.
-/

namespace Remit.Transaction

/-- An input: the hash of the transaction it spends from, the position of the output there, the script that unlocks
it, and a sequence number. -/
structure Input where
  hash : Value
  position : Value
  script : Value := .bytes []
  sequence : Value := .int 0xffffffff

namespace Input

/-- Reads an input. -/
def reader : Wire.Reader Input := do
  let hash ← Wire.Reader.take 32
  let position ← Wire.Reader.word 4
  let script ← Wire.Reader.varBytes
  let sequence ← Wire.Reader.word 4
  return ⟨hash, position, script, sequence⟩

/-- The input on the wire. -/
def draft (i : Input) : Wire.Draft :=
  .raw i.hash ++ .word 4 i.position ++ .varBytes i.script ++ .word 4 i.sequence

/-- The output that the input spends: the hash with its bytes turned around, and the position. -/
def outpoint (i : Input) : Except Error Text :=
  match i.hash with
  | .bytes hash => do return Hex.encode hash.reverse ++ ":" ++ (← i.position.inWords)
  | _ => .error .wrongType

/-- Does the input create new coins, so that it spends nothing? -/
def isCoinbase (i : Input) : Bool := i.hash == .bytes (List.replicate 32 0)

/-- The fields in order. -/
def fields (i : Input) : List Value := [i.hash, i.position, i.script, i.sequence]

/-- A short text that names the input. -/
def label (i : Input) : Except Error Text := do return "Input(" ++ (← i.outpoint) ++ ")"

end Input

end Remit.Transaction
