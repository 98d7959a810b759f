import Remit.Bytes
import Remit.Proofs.Number.Radix

/-!
# Bytes as numbers

Bytes are digits in base 256. A word of fixed width is read back from the number that it spells, and the least bytes
that spell a number are its digits.
-/

namespace Remit.Bytes

theorem map_ofNat_map_toNat (bs : Bytes) : (bs.map UInt8.toNat).map UInt8.ofNat = bs := by
  rw [List.map_map]
  exact List.map_id'' (fun _ => UInt8.ofNat_toNat) bs

theorem map_toNat_map_ofNat {ds : List ℕ} (h : ∀ d ∈ ds, d < 256) : (ds.map UInt8.ofNat).map UInt8.toNat = ds := by
  have hid : ∀ d ∈ ds, (UInt8.toNat ∘ UInt8.ofNat) d = id d := fun d hd => UInt8.toNat_ofNat_of_lt (h d hd)
  rw [List.map_map, List.map_congr_left hid, List.map_id]

theorem toNat_lt_of_mem (bs : Bytes) : ∀ d ∈ bs.map UInt8.toNat, d < 256 := by
  intro d hd
  obtain ⟨b, -, rfl⟩ := List.mem_map.mp hd
  exact b.toNat_lt

/-! ## Words -/

theorem toNatLE_eq_ofDigits (bs : Bytes) : toNatLE bs = Nat.ofDigits 256 (bs.map UInt8.toNat) := by
  induction bs with
  | nil => rfl
  | cons b bs ih => rw [toNatLE, List.map_cons, Nat.ofDigits_cons, ih]

theorem toNatBE_eq_value (bs : Bytes) : toNatBE bs = Radix.value 256 (bs.map UInt8.toNat) := by
  rw [Radix.value_eq_foldl, List.foldl_map, toNatBE]

/-- The order of the bytes is all that differs. -/
theorem toNatBE_eq_toNatLE_reverse (bs : Bytes) : toNatBE bs = toNatLE bs.reverse := by
  rw [toNatBE_eq_value, toNatLE_eq_ofDigits, Radix.value, List.map_reverse]

theorem toNatBE_lt (bs : Bytes) : toNatBE bs < 256 ^ bs.length := by
  rw [toNatBE_eq_toNatLE_reverse, ← bs.length_reverse]
  exact toNatLE_lt _

theorem ofNatBE_toNatBE (bs : Bytes) : ofNatBE bs.length (toNatBE bs) = bs := by
  rw [ofNatBE, toNatBE_eq_toNatLE_reverse, ← bs.length_reverse, ofNatLE_toNatLE, List.reverse_reverse]

theorem toNatBE_ofNatBE (width n : ℕ) : toNatBE (ofNatBE width n) = n % 256 ^ width := by
  rw [toNatBE_eq_toNatLE_reverse, ofNatBE, List.reverse_reverse, toNatLE_ofNatLE]

/-! ## Least bytes -/

theorem widthOf_eq_length_digits (n : ℕ) : widthOf n = (Nat.digits 256 n).length := by
  rcases Nat.eq_zero_or_pos n with rfl | hn
  · rfl
  have hne := Nat.ne_of_gt hn
  have hpow (k : ℕ) : 256 ^ k = 2 ^ (8 * k) := by rw [Nat.pow_mul]
  have hlow : n.log2 / 8 < (Nat.digits 256 n).length := by
    rw [Nat.lt_digits_length_iff (by decide), hpow, ← Nat.le_log2 hne]
    omega
  have hhigh : (Nat.digits 256 n).length ≤ n.log2 / 8 + 1 := by
    rw [← Nat.not_lt, Nat.lt_digits_length_iff (by decide), hpow, ← Nat.le_log2 hne]
    omega
  rw [widthOf, if_neg hne]
  omega

theorem minimalBE_eq (n : ℕ) : minimalBE n = (Nat.digits 256 n).reverse.map UInt8.ofNat := by
  have hdigits : ((Nat.digits 256 n).map UInt8.ofNat).map UInt8.toNat = Nat.digits 256 n :=
    map_toNat_map_ofNat fun d hd => Nat.digits_lt_base (by decide) hd
  have hn : toNatLE ((Nat.digits 256 n).map UInt8.ofNat) = n := by
    rw [toNatLE_eq_ofDigits, hdigits, Nat.ofDigits_digits]
  have hbytes := ofNatLE_toNatLE ((Nat.digits 256 n).map UInt8.ofNat)
  rw [hn, List.length_map, ← widthOf_eq_length_digits] at hbytes
  rw [minimalBE, ofNatBE, hbytes, List.map_reverse]

theorem toNatBE_minimalBE (n : ℕ) : toNatBE (minimalBE n) = n := by
  rw [minimalBE, toNatBE_ofNatBE, widthOf_eq_length_digits]
  exact Nat.mod_eq_of_lt (Nat.lt_base_pow_length_digits (by decide))

theorem length_minimalBE_le {width n : ℕ} (h : n < 256 ^ width) : (minimalBE n).length ≤ width := by
  rw [minimalBE, length_ofNatBE, widthOf_eq_length_digits, ← Nat.not_lt, Nat.lt_digits_length_iff (by decide)]
  exact Nat.not_le.mpr h

end Remit.Bytes
