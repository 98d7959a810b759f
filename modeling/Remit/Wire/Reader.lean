import Remit.Error

/-!
# Readers

A reader takes bytes from the front of what is left. Whatever it took stays taken when it fails later on. How many bytes
are left is looked at before any are taken, since the number that is asked for may itself have been read.
-/

namespace Remit.Wire

/-- A reader: from the bytes that are left to a result, or an error, and the bytes that are left then. -/
abbrev Reader (α : Type) := ExceptT Error (StateM Bytes) α

namespace Reader

/-- The next `n` bytes. Nothing is taken if there are fewer. -/
def take (n : Nat) : Reader Bytes := fun rest =>
  let front := rest.take n
  if front.length = n then (.ok front, rest.drop n) else (.error (.serialization (.endOfData n rest.length)), rest)

/-- A result that takes no bytes. -/
def ofExcept {α : Type} (result : Except Error α) : Reader α := fun rest => (result, rest)

/-- The number that `width` bytes spell, least significant first. Any other number of bytes spells none. -/
def unpack (width : Nat) (bs : Bytes) : Except Error Nat :=
  if bs.length = width then .ok (Bytes.toNatLE bs) else .error .misfit

/-- The next `width` bytes as a number, least significant first. -/
def word (width : Nat) : Reader Nat := do ofExcept (unpack width (← take width))

/-- The next four bytes as a signed number. -/
def int32 : Reader Int := do
  let n ← word 4
  return if n < 2 ^ 31 then n else n - 2 ^ 32

/-- A number in one, three, five or nine bytes. The first byte is the number, or says how wide it is. No form is
refused, also where a shorter one would do. -/
def compactSize : Reader Nat := do
  let tag ← word 1
  if tag < 253 then return tag
  else if tag = 253 then word 2
  else if tag = 254 then word 4
  else word 8

/-- Bytes behind their number. -/
def varBytes : Reader Bytes := do take (← compactSize)

/-- The results of a reader run `n` times. -/
def repeated {α : Type} (item : Reader α) : (n : Nat) → Reader (List α)
  | 0 => pure []
  | n + 1 => do
    let first ← item
    let rest ← repeated item n
    return first :: rest

/-- Requires that nothing is left. -/
def done : Reader Unit := fun rest =>
  if rest.isEmpty then (.ok (), rest) else (.error (.serialization (.trailing rest.length)), rest)

/-- The result of a reader that has to use up all bytes. -/
def readAll {α : Type} (item : Reader α) (bs : Bytes) : Except Error α :=
  (item <* done).run bs |>.1

end Reader

end Remit.Wire
