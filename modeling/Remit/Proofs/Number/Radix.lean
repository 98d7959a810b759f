import Mathlib.Data.List.TakeWhile
import Mathlib.Data.Nat.Digits.Lemmas

/-!
# Change of base

Digits, the most significant one first, are some zeros and the digits of a number. Digits of one base are written in
another one by keeping the zeros and the number. Nothing is lost on the way: written in the first base again, they are
what they were.
-/

namespace Remit.Radix

/-- The number of zeros in front. -/
def zeros (ds : List ℕ) : ℕ := (ds.takeWhile (· == 0)).length

/-- The number that digits stand for. -/
def value (b : ℕ) (ds : List ℕ) : ℕ := Nat.ofDigits b ds.reverse

/-- Some zeros, and then the digits of a number. -/
def numeral (b zeros n : ℕ) : List ℕ := List.replicate zeros 0 ++ (Nat.digits b n).reverse

/-- The digits in base `c` that stand for the same as digits in base `b`. -/
def convert (b c : ℕ) (ds : List ℕ) : List ℕ := numeral c (zeros ds) (value b ds)

variable {b c : ℕ} {ds : List ℕ}

/-- The number is what comes out when digits are read from the left. -/
theorem value_eq_foldl (b : ℕ) (ds : List ℕ) : value b ds = ds.foldl (fun n d => b * n + d) 0 := by
  rw [value, Nat.ofDigits_eq_foldr, List.foldr_reverse]
  apply congrArg (fun f => ds.foldl f 0)
  funext n d
  exact Nat.add_comm _ _

/-! ## Numerals -/

theorem lt_of_mem_numeral (hb : 1 < b) {z n d : ℕ} (h : d ∈ numeral b z n) : d < b := by
  rcases List.mem_append.mp h with hd | hd
  · rw [List.eq_of_mem_replicate hd]
    exact Nat.zero_lt_of_lt hb
  · exact Nat.digits_lt_base hb (List.mem_reverse.mp hd)

@[simp] theorem value_numeral (b z n : ℕ) : value b (numeral b z n) = n := by
  rw [value, numeral, List.reverse_append, List.reverse_reverse, List.reverse_replicate,
    Nat.ofDigits_append_replicate_zero, Nat.ofDigits_digits]

/-- The digits of a number do not begin with a zero. -/
theorem takeWhile_digits (b n : ℕ) : (Nat.digits b n).reverse.takeWhile (· == 0) = [] := by
  rcases Nat.eq_zero_or_pos n with rfl | hn
  · rw [Nat.digits_zero, List.reverse_nil, List.takeWhile_nil]
  · have hlast := Nat.getLast_digit_ne_zero b (Nat.ne_of_gt hn)
    rw [List.takeWhile_eq_nil_iff]
    intro _
    simpa [List.getLast_eq_getElem] using hlast

@[simp] theorem zeros_numeral (b z n : ℕ) : zeros (numeral b z n) = z := by
  have hz : ∀ d ∈ List.replicate z 0, (d == 0) = true := by
    intro d hd
    rw [List.eq_of_mem_replicate hd, beq_self_eq_true]
  rw [zeros, numeral, List.takeWhile_append_of_pos hz, takeWhile_digits, List.append_nil, List.length_replicate]

/-- Digits are their zeros and the digits of their number. -/
theorem numeral_zeros_value (hb : 1 < b) (h : ∀ d ∈ ds, d < b) : numeral b (zeros ds) (value b ds) = ds := by
  have hzero : ∀ d ∈ ds.takeWhile (· == 0), d = 0 := by
    intro d hd
    simpa using List.mem_takeWhile_imp hd
  have hzeros : ds.takeWhile (· == 0) = List.replicate (zeros ds) 0 := List.eq_replicate_iff.mpr ⟨rfl, hzero⟩
  have hsplit : ds = List.replicate (zeros ds) 0 ++ ds.dropWhile (· == 0) := by
    rw [← hzeros, List.takeWhile_append_dropWhile]
  have hvalue : value b ds = Nat.ofDigits b (ds.dropWhile (· == 0)).reverse := by
    rw [value, hsplit, List.reverse_append, List.reverse_replicate, Nat.ofDigits_append_replicate_zero, ← hsplit]
  have hdigits : Nat.digits b (value b ds) = (ds.dropWhile (· == 0)).reverse := by
    rw [hvalue]
    apply Nat.digits_ofDigits b hb
    · intro d hd
      exact h d ((List.dropWhile_suffix _).subset (List.mem_reverse.mp hd))
    · intro hne
      rw [List.getLast_reverse]
      simpa using List.head_dropWhile_not (· == 0) (List.reverse_ne_nil_iff.mp hne)
  rw [numeral, hdigits, List.reverse_reverse, ← hsplit]

/-! ## Conversion -/

theorem lt_of_mem_convert (hc : 1 < c) {d : ℕ} (h : d ∈ convert b c ds) : d < c := lt_of_mem_numeral hc h

/-- Converted there and back, digits are what they were. -/
theorem convert_convert (hb : 1 < b) (h : ∀ d ∈ ds, d < b) (c : ℕ) : convert c b (convert b c ds) = ds := by
  rw [convert, convert, zeros_numeral, value_numeral, numeral_zeros_value hb h]

theorem convert_ne_nil (hb : 1 < b) (h : ∀ d ∈ ds, d < b) (hne : ds ≠ []) (c : ℕ) : convert b c ds ≠ [] := by
  intro hnil
  apply hne
  rw [← convert_convert hb h c, hnil, convert, value, List.reverse_nil, Nat.ofDigits_nil, numeral, Nat.digits_zero]
  rfl

end Remit.Radix
