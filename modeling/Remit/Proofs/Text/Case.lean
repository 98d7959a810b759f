import Mathlib.Tactic.SplitIfs
import Remit.Text.Blank
import Remit.Text.Case

/-!
# Lower case

No code point that is written for another one in lower case is changed once more, so lower case stays as it is. None is
white space or the mark of a handle either, so lower case has these where the text has them.
-/

namespace Remit.Text

/-! ## Rows -/

variable {r s : Row} {n : Nat} {c d : CodePoint} {before after done t : Text}

/-- The number is one of the row. -/
def InRow (r : Row) (n : Nat) : Prop := r.1 ≤ n ∧ n ≤ r.2.1 ∧ (n - r.1) % r.2.2.1 = 0

instance : DecidableRel InRow := fun _ _ => inferInstanceAs (Decidable (_ ∧ _ ∧ _))

/-- The first small letter. -/
def Row.low (r : Row) : Nat := (r.1 + r.2.2.2).toNat

/-- The last small letter. -/
def Row.high (r : Row) : Nat := (r.2.1 + r.2.2.2).toNat

/-- Every number, or every second one, is in the row, and the small letters are code points. -/
def Row.IsSound (r : Row) : Prop :=
  (r.2.2.1 = 1 ∨ r.2.2.1 = 2) ∧ 0 ≤ r.1 + r.2.2.2 ∧ r.2.1 + r.2.2.2 < 0x110000

instance : DecidablePred Row.IsSound := fun _ => inferInstanceAs (Decidable (_ ∧ _ ∧ _))

/-- Do the small letters of the first row come before or after the second one, or stand between its numbers? The
comparisons are those that are fast in the kernel. -/
def isApart (r s : Row) : Bool :=
  r.high.blt s.1 || s.2.1.blt r.low ||
    (s.2.2.1.beq 2 && (r.2.2.1.beq 2 || r.low.beq r.high) && ((r.low + s.1) % 2).beq 1)

/-- What is no small letter of another code point, though it is no capital letter of the table: white space, the mark of
handles, and the two capital letters that have rules of their own. -/
def keptRows : List Row :=
  [(0x09, 0x0d, 1, 0), (0x1c, 0x20, 1, 0), (0x40, 0x40, 1, 0), (0x85, 0x85, 1, 0), (0xa0, 0xa0, 1, 0),
   (0x130, 0x130, 1, 0), (0x3a3, 0x3a3, 1, 0), (0x1680, 0x1680, 1, 0), (0x2000, 0x200a, 1, 0), (0x2028, 0x2029, 1, 0),
   (0x202f, 0x202f, 1, 0), (0x205f, 0x205f, 1, 0), (0x3000, 0x3000, 1, 0)]

theorem isSound_of_mem : ∀ r ∈ capitalRows, Row.IsSound r := by decide +kernel

theorem all_isApart : (capitalRows.all fun r => (capitalRows ++ keptRows).all (isApart r)) = true := by decide +kernel

theorem isApart_of_mem (hr : r ∈ capitalRows) (hs : s ∈ capitalRows ++ keptRows) : isApart r s = true :=
  List.all_eq_true.mp (List.all_eq_true.mp all_isApart r hr) s hs

theorem not_inRow_of_isApart (hr : r.IsSound) (h : isApart r s = true) (hn : InRow r n) :
    ¬ InRow s (n + r.2.2.2).toNat := by
  obtain ⟨first, last, step, shift⟩ := r
  obtain ⟨first', last', step', shift'⟩ := s
  obtain ⟨hstep, hlow, -⟩ := hr
  dsimp only at hstep hlow
  simp only [isApart, Row.low, Row.high, Bool.or_eq_true, Bool.and_eq_true, Nat.blt_eq, Nat.beq_eq] at h
  simp only [InRow] at hn ⊢
  obtain ⟨hfirst, hlast, hmod⟩ := hn
  rintro ⟨hfirst', hlast', hmod'⟩
  rcases hstep with rfl | rfl <;> rcases h with (h | h) | ⟨⟨rfl, h | h⟩, hparity⟩ <;> omega

/-! ## Small letters -/

/-- A number that has a small letter other than itself is in a row that tells it. -/
theorem exists_row (h : smallLetter n ≠ n) : ∃ r ∈ capitalRows, InRow r n ∧ smallLetter n = (n + r.2.2.2).toNat := by
  rw [smallLetter] at h ⊢
  split_ifs at h ⊢ with hn hc
  · rw [Bool.and_eq_true, decide_eq_true_eq, decide_eq_true_eq] at hc
    refine ⟨(0x41, 0x5a, 1, 32), List.mem_cons_self, ⟨hc.1, hc.2, Nat.mod_one _⟩, ?_⟩
    dsimp only
    omega
  · contradiction
  · rw [shifted?] at h ⊢
    cases hr : capitalRows.find? fun r => r.1 ≤ n && n ≤ r.2.1 && (n - r.1) % r.2.2.1 == 0 with
    | none =>
      rw [hr] at h
      contradiction
    | some r =>
      have hin := List.find?_some hr
      simp only [Bool.and_eq_true, decide_eq_true_eq, beq_iff_eq] at hin
      exact ⟨r, List.mem_of_find?_eq_some hr, ⟨hin.1.1, hin.1.2, hin.2⟩, rfl⟩

/-- A number in none of the rows has no small letter but itself. -/
theorem smallLetter_eq_self (h : ∀ r ∈ capitalRows, ¬ InRow r n) : smallLetter n = n := by
  refine Decidable.byContradiction fun hne => ?_
  obtain ⟨r, hr, hn, -⟩ := exists_row hne
  exact h r hr hn

/-- A small letter is a code point and in none of the rows. -/
theorem smallLetter_spec (h : smallLetter n ≠ n) :
    smallLetter n < 0x110000 ∧ ∀ s ∈ capitalRows ++ keptRows, ¬ InRow s (smallLetter n) := by
  obtain ⟨r, hr, hn, hsmall⟩ := exists_row h
  have hsound : Row.IsSound r := isSound_of_mem r hr
  rw [hsmall]
  refine ⟨?_, fun s hs => not_inRow_of_isApart hsound (isApart_of_mem hr hs) hn⟩
  have hhigh := hsound.2.2
  have hlast := hn.2.1
  omega

/-! ## One code point -/

/-- The code point is written as it is in lower case. -/
def IsSmall (c : CodePoint) : Prop := c.val ≠ 0x130 ∧ c.val ≠ 0x3a3 ∧ smallLetter c.val = c.val

instance : DecidablePred IsSmall := fun _ => inferInstanceAs (Decidable (_ ∧ _ ∧ _))

theorem IsSmall.lowerOne_eq (h : IsSmall c) (before after : Text) : lowerOne before c after = [c] := by
  obtain ⟨hi, hsigma, hsmall⟩ := h
  rw [lowerOne, if_neg hi, if_neg hsigma, hsmall, Fin.ofNat_val_eq_self]

/-- The code point is in none of the kept rows, so that it may be a small letter of others. -/
def IsFree (c : CodePoint) : Prop := ∀ s ∈ keptRows, ¬ InRow s c.val

instance : DecidablePred IsFree := fun _ => keptRows.decidableBAll _

theorem IsFree.val_ne (h : IsFree c) (hn : ∃ s ∈ keptRows, InRow s n) : c.val ≠ n := by
  rintro rfl
  obtain ⟨s, hs, hin⟩ := hn
  exact h s hs hin

theorem not_isFree_of_isBlank (h : isBlank c = true) : ¬ IsFree c := by
  intro hfree
  simp only [isBlank, Bool.or_eq_true, Bool.and_eq_true, decide_eq_true_eq, beq_iff_eq] at h
  simp only [IsFree, keptRows, List.forall_mem_cons, InRow, Nat.mod_one, and_true] at hfree
  omega

/-- What the two rules write. -/
theorem isSmall_of_rule :
    ∀ n ∈ [0x69, 0x307, 0x3c2, 0x3c3], IsSmall (Fin.ofNat _ n) ∧ IsFree (Fin.ofNat _ n) := by decide +kernel

/-- What the table writes for a capital letter. -/
theorem isSmall_of_table (h : smallLetter c.val ≠ c.val) :
    IsSmall (Fin.ofNat _ (smallLetter c.val)) ∧ IsFree (Fin.ofNat _ (smallLetter c.val)) := by
  obtain ⟨hlt, hrows⟩ := smallLetter_spec h
  have hval : (Fin.ofNat 0x110000 (smallLetter c.val)).val = smallLetter c.val := Nat.mod_eq_of_lt hlt
  have hfree : IsFree (Fin.ofNat _ (smallLetter c.val)) := by
    intro s hs
    rw [hval]
    exact hrows s (List.mem_append_right _ hs)
  have hself : smallLetter (smallLetter c.val) = smallLetter c.val :=
    smallLetter_eq_self fun r hr => hrows r (List.mem_append_left _ hr)
  exact ⟨⟨hfree.val_ne (by decide), hfree.val_ne (by decide), by rw [hval, hself]⟩, hfree⟩

/-- What is written for a code point is small. It is another code point only if it is free. -/
theorem of_mem_lowerOne (h : d ∈ lowerOne before c after) : IsSmall d ∧ (d = c ∨ IsFree d) := by
  have hrule {n : Nat} (hn : n ∈ [0x69, 0x307, 0x3c2, 0x3c3]) (hd : d = Fin.ofNat _ n) :
      IsSmall d ∧ (d = c ∨ IsFree d) := by
    rw [hd]
    exact (isSmall_of_rule n hn).imp_right .inr
  rw [lowerOne] at h
  split_ifs at h with hi hsigma hends
  · rcases List.mem_cons.mp h with hd | hd
    · exact hrule (by decide) hd
    · exact hrule (by decide) (List.mem_singleton.mp hd)
  · exact hrule (by decide) (List.mem_singleton.mp h)
  · exact hrule (by decide) (List.mem_singleton.mp h)
  · rw [List.mem_singleton.mp h]
    by_cases hself : smallLetter c.val = c.val
    · rw [hself, Fin.ofNat_val_eq_self]
      exact ⟨⟨hi, hsigma, hself⟩, .inl rfl⟩
    · exact (isSmall_of_table hself).imp_right .inr

theorem lowerOne_ne_nil (before : Text) (c : CodePoint) (after : Text) : lowerOne before c after ≠ [] := by
  rw [lowerOne]
  split_ifs <;> exact List.cons_ne_nil _ _

/-! ## The whole text -/

theorem lowerFrom_of_isSmall (h : ∀ c ∈ t, IsSmall c) (before done : Text) :
    lowerFrom before done t = done.reverse ++ t := by
  induction t generalizing before done with
  | nil => exact (List.append_nil _).symm
  | cons c t ih =>
    rw [List.forall_mem_cons] at h
    rw [lowerFrom, h.1.lowerOne_eq, ih h.2, List.reverse_singleton, List.singleton_append, List.reverse_cons,
      List.append_assoc, List.singleton_append]

theorem mem_lowerFrom (h : d ∈ lowerFrom before done t) : d ∈ done ∨ ∃ c ∈ t, IsSmall d ∧ (d = c ∨ IsFree d) := by
  induction t generalizing before done with
  | nil => exact .inl (List.mem_reverse.mp h)
  | cons c t ih =>
    rcases ih h with hd | ⟨c', hc', hd⟩
    · rcases List.mem_append.mp hd with hd | hd
      · exact .inr ⟨c, List.mem_cons_self, of_mem_lowerOne (List.mem_reverse.mp hd)⟩
      · exact .inl hd
    · exact .inr ⟨c', List.mem_cons_of_mem _ hc', hd⟩

theorem of_mem_lower (h : d ∈ lower t) : ∃ c ∈ t, IsSmall d ∧ (d = c ∨ IsFree d) := by
  rcases mem_lowerFrom h with hd | hd
  · cases hd
  · exact hd

/-- Lower case stays as it is. -/
theorem lower_lower (t : Text) : lower (lower t) = lower t := by
  have hsmall : ∀ d ∈ lower t, IsSmall d := fun d hd => by
    obtain ⟨_, -, hd, -⟩ := of_mem_lower hd
    exact hd
  exact lowerFrom_of_isSmall hsmall [] []

theorem length_le_length_lowerFrom (before done t : Text) :
    done.length + t.length ≤ (lowerFrom before done t).length := by
  induction t generalizing before done with
  | nil => exact Nat.le_of_eq List.length_reverse.symm
  | cons c t ih =>
    have hc := List.length_pos_iff.mpr (lowerOne_ne_nil before c t)
    have ht := ih (c :: before) ((lowerOne before c t).reverse ++ done)
    rw [List.length_append, List.length_reverse] at ht
    rw [lowerFrom, List.length_cons]
    omega

theorem lower_ne_nil (h : t ≠ []) : lower t ≠ [] := by
  apply List.ne_nil_of_length_pos
  have ht := length_le_length_lowerFrom [] [] t
  exact Nat.lt_of_lt_of_le (List.length_pos_iff.mpr h) (by rwa [List.length_nil, Nat.zero_add] at ht)

/-- What is in a kept row is in lower case only where it is in the text. -/
theorem mem_of_mem_lower (h : d ∈ lower t) (hd : ¬ IsFree d) : d ∈ t := by
  obtain ⟨c, hc, -, rfl | hfree⟩ := of_mem_lower h
  · exact hc
  · contradiction

end Remit.Text
