import Remit.Error

/-!
# Drafts

What a record looks like on the wire, as far as its fields can be written. A draft that was stopped keeps the bytes
that came before the error, and nothing is added to it.
-/

namespace Remit.Wire

/-- Bytes of a record, and the error that stopped the writing if there was one. -/
structure Draft where
  bytes : Bytes
  stop? : Option Error

namespace Draft

/-- A draft without bytes. -/
def empty : Draft := ⟨[], none⟩

/-- A finished draft. -/
def of (bs : Bytes) : Draft := ⟨bs, none⟩

/-- A draft that an error stopped at once. -/
def stopped (e : Error) : Draft := ⟨[], some e⟩

instance : Append Draft where
  append d e := match d.stop? with
    | some _ => d
    | none => ⟨d.bytes ++ e.bytes, e.stop?⟩

/-- One draft after the other. -/
def concat (drafts : List Draft) : Draft := drafts.foldr (· ++ ·) empty

/-- The bytes of a finished draft. -/
def toExcept (d : Draft) : Except Error Bytes :=
  match d.stop? with
  | some e => .error e
  | none => .ok d.bytes

/-- Bytes as they are. -/
def raw : Value → Draft
  | .bytes b => of b
  | _ => stopped .wrongType

/-- A number from 0 to `256 ^ width - 1` in `width` bytes. -/
def word (width : Nat) (v : Value) : Draft :=
  match v.toInt? with
  | some (.ofNat n) => if n < 256 ^ width then of (Bytes.ofNatLE width n) else stopped .misfit
  | _ => stopped .misfit

/-- A signed number in four bytes. -/
def int32 (v : Value) : Draft :=
  match v.toInt? with
  | some i => if -2 ^ 31 ≤ i ∧ i < 2 ^ 31 then of (Bytes.ofNatLE 4 (i % 2 ^ 32).toNat) else stopped .misfit
  | none => stopped .misfit

/-- How a value compares with an integer, for values that are numbers. Not-a-number is below and above nothing. -/
def order? : Value → Option (Int → Option Ordering)
  | .bool b => some fun i => some (compare (b.toNat : Int) i)
  | .int n => some fun i => some (compare n i)
  | .float x => some x.compareInt?
  | _ => none

/-- A number in the shortest of the four forms. The form is chosen by size alone, and its mark is written before the
number is looked at any closer. -/
def compactSize (v : Value) : Draft :=
  match order? v with
  | none => stopped .wrongType
  | some order =>
    let isAtMost (i : Int) : Bool := order i == some .lt || order i == some .eq
    if order 253 == some .lt then word 1 v
    else if isAtMost 0xffff then of [253] ++ word 2 v
    else if isAtMost 0xffffffff then of [254] ++ word 4 v
    else of [255] ++ word 8 v

/-- Bytes behind their number. The number of parts is written also of data that are no bytes. -/
def varBytes (v : Value) : Draft :=
  match v.length? with
  | none => stopped .wrongType
  | some n => compactSize n ++ raw v

end Draft

end Remit.Wire
