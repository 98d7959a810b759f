import Mathlib.Algebra.GroupWithZero.Nat
import Mathlib.Data.Nat.Init
import Remit.Proofs.Text.Decimal

/-!
# Padded numbers in texts

Numbers that are padded to one width end in one place, and their texts are in the order of the numbers. So are the texts
of several such numbers with marks behind them, if the numbers are compared one after the other.
-/

namespace Remit

/-- Lists of one length are compared before what stands behind them. -/
theorem append_lt_append_iff {α : Type} [LT α] [Std.Irrefl (α := α) (· < ·)] {a b s t : List α}
    (h : a.length = b.length) : a ++ s < b ++ t ↔ a < b ∨ a = b ∧ s < t := by
  induction a generalizing b with
  | nil =>
    obtain rfl := List.eq_nil_of_length_eq_zero h.symm
    simp
  | cons x a ih =>
    cases b with
    | nil => cases h
    | cons y b =>
      simp only [List.cons_append, List.cons_lt_cons_iff, ih (Nat.succ.inj h), List.cons.injEq, and_or_left, or_assoc,
        and_assoc]

theorem append_lt_append_left_iff {α : Type} [LT α] [Std.Irrefl (α := α) (· < ·)] {a s t : List α} :
    a ++ s < a ++ t ↔ s < t := by
  rw [append_lt_append_iff rfl, or_iff_right (List.lt_irrefl a), and_iff_right rfl]

namespace Text

variable {width m n : Nat} {t u : Text}

/-! ## One number -/

theorem ofNat_of_lt_ten {d : Nat} (h : d < 10) : ofNat d = [⟨48 + d, by omega⟩] := by
  rw [ofNat, Nat.toDigits_of_lt_base h, List.map_singleton, List.singleton_inj]
  apply Fin.ext
  rw [CodePoint.val_ofChar, Nat.toNat_digitChar_of_lt_ten h]

theorem ofNat_append_ofNat {n d : Nat} (hn : 0 < n) (hd : d < 10) : ofNat n ++ ofNat d = ofNat (10 * n + d) := by
  rw [ofNat, ofNat, ofNat, ← List.map_append, Nat.toDigits_append_toDigits (by decide) hn hd]

theorem length_ofNat_le_iff (hw : 0 < width) : (ofNat n).length ≤ width ↔ n < 10 ^ width := by
  rw [ofNat, List.length_map, Nat.length_toDigits_le_iff (by decide) hw]

theorem length_decimalPadded (hw : 0 < width) (h : n < 10 ^ width) : (decimalPadded width n).length = width := by
  have hle := (length_ofNat_le_iff hw).mpr h
  rw [decimalPadded, List.length_append, List.length_replicate, Nat.sub_add_cancel hle]

/-- A number of enough digits is not padded. -/
theorem decimalPadded_eq_ofNat (hw : 0 < width) (h : 10 ^ width ≤ n) : decimalPadded (width + 1) n = ofNat n := by
  have hlt : width < (ofNat n).length := Nat.lt_of_not_le fun hle => absurd ((length_ofNat_le_iff hw).mp hle) (by omega)
  have hzero : width + 1 - (ofNat n).length = 0 := by omega
  rw [decimalPadded, hzero, List.replicate_zero, List.nil_append]

theorem decimalPadded_zero (hw : 0 < width) : decimalPadded width 0 = List.replicate width (CodePoint.ofChar '0') := by
  obtain ⟨width, rfl⟩ := Nat.exists_eq_add_of_le' hw
  rw [List.replicate_succ']
  rfl

/-- The last digit of a padded number stands behind the others, and these are padded to a digit less. -/
theorem decimalPadded_succ (hw : 0 < width) (n : Nat) :
    decimalPadded (width + 1) n = decimalPadded width (n / 10) ++ ofNat (n % 10) := by
  have hlast : (ofNat (n % 10)).length = 1 := by
    rw [ofNat_of_lt_ten (Nat.mod_lt n (by decide)), List.length_singleton]
  obtain hn | hn := Nat.lt_or_ge n 10
  · rw [Nat.mod_eq_of_lt hn] at hlast
    rw [Nat.div_eq_of_lt hn, Nat.mod_eq_of_lt hn, decimalPadded_zero hw, decimalPadded, hlast, Nat.add_sub_cancel]
  · have hsplit : ofNat n = ofNat (n / 10) ++ ofNat (n % 10) := by
      rw [ofNat_append_ofNat (Nat.div_pos hn (by decide)) (Nat.mod_lt n (by decide)), Nat.div_add_mod]
    rw [decimalPadded, decimalPadded, hsplit, List.length_append, hlast, Nat.add_sub_add_right, List.append_assoc]

/-- The first digit that differs decides. -/
theorem decimalPadded_lt_of_lt (hw : 0 < width) (hn : n < 10 ^ width) (h : m < n) :
    decimalPadded width m < decimalPadded width n := by
  induction width, hw using Nat.le_induction generalizing m n with
  | base =>
    have hm : m < 10 := Nat.lt_trans h hn
    rw [decimalPadded, decimalPadded, ofNat_of_lt_ten hm, ofNat_of_lt_ten hn]
    exact .rel (Nat.add_lt_add_left h 48)
  | succ width hw ih =>
    rw [Nat.pow_succ] at hn
    have hlength : (decimalPadded width (m / 10)).length = (decimalPadded width (n / 10)).length := by
      rw [length_decimalPadded hw (by omega), length_decimalPadded hw (by omega)]
    rw [decimalPadded_succ hw, decimalPadded_succ hw, append_lt_append_iff hlength]
    obtain hlt | ⟨heq, hlt⟩ : m / 10 < n / 10 ∨ m / 10 = n / 10 ∧ m % 10 < n % 10 := by omega
    · exact .inl (ih (by omega) hlt)
    · rw [heq, ofNat_of_lt_ten (Nat.mod_lt m (by decide)), ofNat_of_lt_ten (Nat.mod_lt n (by decide))]
      exact .inr ⟨rfl, .rel (Nat.add_lt_add_left hlt 48)⟩

/-- Padded numbers of one width are in the order of their texts. -/
theorem decimalPadded_lt_decimalPadded (hw : 0 < width) (hm : m < 10 ^ width) (hn : n < 10 ^ width) :
    decimalPadded width m < decimalPadded width n ↔ m < n := by
  constructor
  · intro h
    obtain hlt | rfl | hgt := Nat.lt_trichotomy m n
    · exact hlt
    · exact absurd h (List.lt_irrefl _)
    · exact absurd h (List.lt_asymm (decimalPadded_lt_of_lt hw hm hgt))
  · exact decimalPadded_lt_of_lt hw hn

theorem decimalPadded_inj (hw : 0 < width) (hm : m < 10 ^ width) (hn : n < 10 ^ width) :
    decimalPadded width m = decimalPadded width n ↔ m = n := by
  constructor
  · intro h
    obtain hlt | heq | hgt := Nat.lt_trichotomy m n
    · exact absurd (h ▸ decimalPadded_lt_of_lt hw hn hlt) (List.lt_irrefl _)
    · exact heq
    · exact absurd (h ▸ decimalPadded_lt_of_lt hw hm hgt) (List.lt_irrefl _)
  · exact congrArg (decimalPadded width)

/-! ## Numbers in a form -/

/-- Numbers one after the other, each padded to a width and followed by a mark. -/
def inForm : List (Nat × Text) → List Nat → Text
  | (width, mark) :: form, n :: ns => decimalPadded width n ++ (mark ++ inForm form ns)
  | _, _ => []

/-- There are as many numbers as the form has places, and none is too wide for its place. -/
inductive Fits : List (Nat × Text) → List Nat → Prop
  | nil : Fits [] []
  | cons {width n : Nat} {mark : Text} {form : List (Nat × Text)} {ns : List Nat} (hw : 0 < width) (hn : n < 10 ^ width)
      (h : Fits form ns) : Fits ((width, mark) :: form) (n :: ns)

variable {form : List (Nat × Text)} {ms ns : List Nat}

theorem length_inForm (h : Fits form ns) : (inForm form ns).length = (form.map fun f => f.1 + f.2.length).sum := by
  induction h with
  | nil => rfl
  | cons hw hn _ ih =>
    rw [inForm, List.length_append, List.length_append, length_decimalPadded hw hn, ih, List.map_cons, List.sum_cons,
      Nat.add_assoc]

/-- Texts in one form are in the order of their numbers. -/
theorem inForm_lt_inForm (hm : Fits form ms) (hn : Fits form ns) : inForm form ms < inForm form ns ↔ ms < ns := by
  induction hm generalizing ns with
  | nil =>
    cases hn
    exact iff_of_false (List.lt_irrefl _) (List.lt_irrefl _)
  | cons hw hm _ ih =>
    cases hn with
    | cons _ hn hns =>
      have hlength := (length_decimalPadded hw hm).trans (length_decimalPadded hw hn).symm
      rw [inForm, inForm, append_lt_append_iff hlength, append_lt_append_left_iff, ih hns, List.cons_lt_cons_iff,
        decimalPadded_lt_decimalPadded hw hm hn, decimalPadded_inj hw hm hn]

/-- The numbers are told by the text. -/
theorem eq_of_inForm_eq (hm : Fits form ms) (hn : Fits form ns) (h : inForm form ms = inForm form ns) : ms = ns := by
  induction hm generalizing ns with
  | nil =>
    cases hn
    rfl
  | cons hw hm _ ih =>
    cases hn with
    | cons _ hn hns =>
      have hlength := (length_decimalPadded hw hm).trans (length_decimalPadded hw hn).symm
      obtain ⟨hfront, hback⟩ := List.append_inj h hlength
      rw [(decimalPadded_inj hw hm hn).mp hfront, ih hns (List.append_cancel_left hback)]

end Text

end Remit
