import Remit.Wire.Draft
import Remit.Wire.Reader

/-!
# Cursors

A buffer with one place in it, at which bytes are read and written. Reading moves the place on; writing replaces what
stands behind it and extends the buffer where that ends.
-/

namespace Remit.Wire

/-- A buffer cut in two at its cursor. -/
structure Cursor where
  before : Bytes
  after : Bytes
deriving DecidableEq

namespace Cursor

/-- The buffer with the cursor at its start. -/
def ofBytes (bs : Bytes) : Cursor := ⟨[], bs⟩

/-- The whole buffer. -/
def buffer (c : Cursor) : Bytes := c.before ++ c.after

/-- How many bytes stand before the cursor. -/
def position (c : Cursor) : Nat := c.before.length

/-- How many bytes are left. -/
def remaining (c : Cursor) : Nat := c.after.length

/-- Runs a reader at the cursor. -/
def read {α : Type} (item : Reader α) (c : Cursor) : Except Error α × Cursor :=
  let (result, rest) := item.run c.after
  (result, ⟨c.before ++ c.after.take (c.after.length - rest.length), rest⟩)

/-- Writes a draft at the cursor, also the bytes of one that was stopped. -/
def write (d : Draft) (c : Cursor) : Except Error Unit × Cursor :=
  (match d.stop? with
    | some e => .error e
    | none => .ok (),
    ⟨c.before ++ d.bytes, c.after.drop d.bytes.length⟩)

/-- The least number that a size may be. -/
def minSize : Int := -2 ^ 63

/-- The next bytes, as many as a value says. A negative size takes all that is left. -/
def readSize (size : Value) (c : Cursor) : Except Error Bytes × Cursor :=
  match Draft.order? size with
  | none => (.error .wrongType, c)
  | some order =>
    if order c.remaining == some .gt then
      (.error (Error.raised (.serialization (.endOfData size c.remaining))), c)
    else match size.toInt? with
      | none => (.error .wrongType, c)
      | some (.ofNat n) => c.read (Reader.take n)
      | some n => if n < minSize then (.error .indexOverflow, c) else c.read (Reader.take c.remaining)

/-- Requires that nothing is left. -/
def ensureConsumed (c : Cursor) : Except Error Unit × Cursor := c.read Reader.done

end Cursor

end Remit.Wire
