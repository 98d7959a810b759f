import Remit.Wire.Cursor

/-!
# Steps

What can be done at a cursor: reading or writing one item of a kind, raw bytes, and asking whether nothing is left.
-/

namespace Remit.Wire

/-- The kinds of items on the wire. -/
inductive Item where
  | int32
  | word (width : Nat)
  | compactSize
  | varBytes
deriving DecidableEq

namespace Item

/-- Reads an item. -/
def reader : Item → Reader Value
  | .int32 => do return .int (← Reader.int32)
  | .word width => do return .int (← Reader.word width)
  | .compactSize => do return .int (← Reader.compactSize)
  | .varBytes => do return .bytes (← Reader.varBytes)

/-- The item that a value is, on the wire. -/
def draft (v : Value) : Item → Draft
  | .int32 => .int32 v
  | .word width => .word width v
  | .compactSize => .compactSize v
  | .varBytes => .varBytes v

end Item

/-- What is done at a cursor. -/
inductive Step where
  | take (size : Value)
  | put (bytes : Value)
  | read (item : Item)
  | write (item : Item) (v : Value)
  | ensureConsumed

namespace Cursor

/-- Does a step. What it reads is its result. -/
def perform (c : Cursor) : Step → Except Error Value × Cursor
  | .take size =>
    let (result, c) := c.readSize size
    (result.map .bytes, c)
  | .put bytes => done (c.write (.raw bytes))
  | .read item => c.read item.reader
  | .write item v => done (c.write (item.draft v))
  | .ensureConsumed => done c.ensureConsumed
where
  /-- The outcome of a step without a result. -/
  done (outcome : Except Error Unit × Cursor) : Except Error Value × Cursor :=
    (outcome.1.map fun _ => .null, outcome.2)

end Cursor

end Remit.Wire
