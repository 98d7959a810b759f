import Remit.Instances

/-!
# Bytes

Byte strings, and the numbers they spell: words of a fixed width with the least significant byte first, as
records on the wire hold them, and numbers of any length with the most significant byte first, as keys hold them.
-/

namespace Remit

/-- A byte string. -/
abbrev Bytes := List UInt8

namespace Bytes

/-- The lowest `width` bytes of `n`, least significant first. -/
def ofNatLE : (width : Nat) → (n : Nat) → Bytes
  | 0, _ => []
  | width + 1, n => UInt8.ofNat (n % 256) :: ofNatLE width (n / 256)

/-- The number that bytes spell, least significant first. -/
def toNatLE : Bytes → Nat
  | [] => 0
  | b :: bs => b.toNat + 256 * toNatLE bs

/-- The lowest `width` bytes of `n`, most significant first. -/
def ofNatBE (width n : Nat) : Bytes := (ofNatLE width n).reverse

/-- The number that bytes spell, most significant first. -/
def toNatBE (bs : Bytes) : Nat := bs.foldl (fun n b => 256 * n + b.toNat) 0

/-- How many bytes `n` needs; none for zero. -/
def widthOf (n : Nat) : Nat := if n = 0 then 0 else n.log2 / 8 + 1

/-- `n` without leading zero bytes, most significant first. -/
def minimalBE (n : Nat) : Bytes := ofNatBE (widthOf n) n

@[simp] theorem length_ofNatLE (width n : Nat) : (ofNatLE width n).length = width := by
  induction width generalizing n with
  | zero => rfl
  | succ width ih => simp [ofNatLE, ih]

@[simp] theorem length_ofNatBE (width n : Nat) : (ofNatBE width n).length = width := by
  simp [ofNatBE]

/-- Reading a word back gives the number it was made of, less what did not fit. -/
theorem toNatLE_ofNatLE (width n : Nat) : toNatLE (ofNatLE width n) = n % 256 ^ width := by
  induction width generalizing n with
  | zero => simp [ofNatLE, toNatLE, Nat.mod_one]
  | succ width ih =>
    have h : (UInt8.ofNat (n % 256)).toNat = n % 256 := by simp
    rw [ofNatLE, toNatLE, ih, h, Nat.pow_succ', Nat.mod_mul]

/-- A word is below the power of 256 that its length allows. -/
theorem toNatLE_lt (bs : Bytes) : toNatLE bs < 256 ^ bs.length := by
  induction bs with
  | nil => simp [toNatLE]
  | cons b bs ih =>
    have := b.toNat_lt
    simp only [toNatLE, List.length_cons, Nat.pow_succ']
    omega

/-- Writing a word that was read gives the same bytes. -/
theorem ofNatLE_toNatLE (bs : Bytes) : ofNatLE bs.length (toNatLE bs) = bs := by
  induction bs with
  | nil => rfl
  | cons b bs ih =>
    have hb := b.toNat_lt
    have h₁ : (b.toNat + 256 * toNatLE bs) % 256 = b.toNat := by omega
    have h₂ : (b.toNat + 256 * toNatLE bs) / 256 = toNatLE bs := by omega
    simp [toNatLE, ofNatLE, h₁, h₂, ih]

end Bytes

end Remit
