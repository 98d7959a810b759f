import Mathlib.Data.List.Basic
import Remit.Text.Basic

/-!
# Decimal numbers in texts

A decimal number is written in ASCII digits, and different numbers are written differently. Where a number stands in
front of other text, nothing marks its end: the same text is also a number of fewer or more digits in front of another
text. What is read depends on that border alone.
-/

namespace Remit

namespace CodePoint

theorem val_ofChar (c : Char) : (ofChar c).val = c.toNat := by
  have hc : c.toNat < 0x110000 := by
    obtain h | h := c.valid
    · exact Nat.lt_trans h (by decide)
    · exact h.2
  exact Nat.mod_eq_of_lt hc

theorem ofChar_injective : Function.Injective ofChar := fun c d h =>
  Char.toNat_inj.mp (by rw [← val_ofChar, h, val_ofChar])

theorem isAsciiDigit_ofChar {c : Char} (h : c.isDigit = true) : (ofChar c).isAsciiDigit = true := by
  rw [Char.isDigit, Bool.and_eq_true, decide_eq_true_eq, decide_eq_true_eq] at h
  rw [isAsciiDigit, isBetween, val_ofChar, Bool.and_eq_true, decide_eq_true_eq, decide_eq_true_eq]
  exact h

end CodePoint

namespace Text

theorem ofNat_injective : Function.Injective ofNat := by
  intro m n h
  have hd : Nat.toDigits 10 m = Nat.toDigits 10 n := List.map_injective_iff.mpr CodePoint.ofChar_injective h
  rw [← Nat.ofDigitChars_ten_toDigits (n := m), hd, Nat.ofDigitChars_ten_toDigits]

theorem all_isAsciiDigit_ofNat (n : Nat) : (ofNat n).all CodePoint.isAsciiDigit = true := by
  rw [ofNat, List.all_map, List.all_eq_true]
  exact fun c hc => CodePoint.isAsciiDigit_ofChar (Nat.isDigit_of_mem_toDigits (by decide) (Nat.le_refl 10) hc)

/-- Does the text begin with a decimal digit? -/
def startsWithDigit (t : Text) : Bool := t.head?.any CodePoint.isAsciiDigit

/-- A number is all the digits at the start of a text, unless more of them follow. -/
theorem takeWhile_ofNat_append (n : Nat) {t : Text} (ht : t.startsWithDigit = false) :
    (ofNat n ++ t).takeWhile CodePoint.isAsciiDigit = ofNat n := by
  rw [List.takeWhile_append_of_pos (List.all_eq_true.mp (all_isAsciiDigit_ofNat n))]
  cases t with
  | nil => rw [List.takeWhile_nil, List.append_nil]
  | cons c t => rw [List.takeWhile_cons_of_neg (Bool.not_eq_true _ ▸ ht), List.append_nil]

/-- A number and the text behind it are told apart if it is known how many digits there are, or if no digit follows. -/
theorem ofNat_append_inj {m n : Nat} {t u : Text} (h : ofNat m ++ t = ofNat n ++ u)
    (hd : (ofNat m).length = (ofNat n).length ∨ t.startsWithDigit = false ∧ u.startsWithDigit = false) :
    m = n ∧ t = u := by
  have hmn : ofNat m = ofNat n := by
    obtain hl | ⟨ht, hu⟩ := hd
    · exact List.append_inj_left h hl
    · rw [← takeWhile_ofNat_append m ht, h, takeWhile_ofNat_append n hu]
  rw [hmn] at h
  exact ⟨ofNat_injective hmn, List.append_cancel_left h⟩

end Text

end Remit
