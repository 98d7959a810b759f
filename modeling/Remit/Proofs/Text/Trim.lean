import Mathlib.Data.List.TakeDrop
import Mathlib.Data.List.TakeWhile
import Remit.Text.Basic

/-!
# Trimming and splitting

A text is trimmed of code points of a class at either end, and what is left has none of them there. It is split at the
first of its marks.
-/

namespace Remit.Text

variable {p : CodePoint → Bool} {front middle back t name : Text} {mark : CodePoint}

/-! ## Trimming -/

theorem exists_dropStart_append (p : CodePoint → Bool) (t : Text) :
    ∃ front, (∀ c ∈ front, p c = true) ∧ front ++ dropStart p t = t :=
  ⟨t.takeWhile p, fun _ hc => List.mem_takeWhile_imp hc, List.takeWhile_append_dropWhile⟩

theorem exists_append_dropEnd (p : CodePoint → Bool) (t : Text) :
    ∃ back, (∀ c ∈ back, p c = true) ∧ dropEnd p t ++ back = t := by
  obtain ⟨front, hfront, ht⟩ := exists_dropStart_append p t.reverse
  refine ⟨front.reverse, fun c hc => hfront c (List.mem_reverse.mp hc), ?_⟩
  rw [dropEnd, ← List.reverse_append]
  exact List.reverse_eq_iff.mpr ht

/-- What is trimmed away is of the class. -/
theorem exists_append_trim_append (p : CodePoint → Bool) (t : Text) :
    ∃ front back, (∀ c ∈ front ++ back, p c = true) ∧ front ++ trim p t ++ back = t := by
  obtain ⟨front, hfront, ht⟩ := exists_dropStart_append p t
  obtain ⟨back, hback, hrest⟩ := exists_append_dropEnd p (dropStart p t)
  refine ⟨front, back, List.forall_mem_append.mpr ⟨hfront, hback⟩, ?_⟩
  rw [trim, List.append_assoc, hrest, ht]

theorem dropStart_append (hfront : ∀ c ∈ front, p c = true) (t : Text) : dropStart p (front ++ t) = dropStart p t :=
  List.dropWhile_append_of_pos hfront

theorem dropStart_of_forall (h : ∀ c ∈ middle, p c = false) (hne : middle ≠ []) (t : Text) :
    dropStart p (middle ++ t) = middle ++ t := by
  cases middle with
  | nil => contradiction
  | cons c middle =>
    rw [dropStart, List.cons_append, List.dropWhile_cons_of_neg]
    rw [h c List.mem_cons_self]
    exact Bool.false_ne_true

/-- Whatever of the class stands around a text that has none of it is trimmed away. -/
theorem trim_append (hends : ∀ c ∈ front ++ back, p c = true) (h : ∀ c ∈ middle, p c = false) (hne : middle ≠ []) :
    trim p (front ++ middle ++ back) = middle := by
  obtain ⟨hfront, hback⟩ := List.forall_mem_append.mp hends
  have hreverse : (middle ++ back).reverse = back.reverse ++ (middle.reverse ++ []) := by
    rw [List.reverse_append, List.append_nil]
  rw [trim, List.append_assoc, dropStart_append hfront, dropStart_of_forall h hne, dropEnd, hreverse]
  change (dropStart p _).reverse = _
  rw [dropStart_append fun c hc => hback c (List.mem_reverse.mp hc),
    dropStart_of_forall (fun c hc => h c (List.mem_reverse.mp hc)) (by rwa [ne_eq, List.reverse_eq_nil_iff]),
    List.append_nil, List.reverse_reverse]

/-! ## Splitting -/

/-- A text is split at the first mark, if it has one. -/
theorem splitFirst_eq_some {rest : Text} :
    splitFirst mark t = (name, some rest) ↔ t = name ++ mark :: rest ∧ mark ∉ name := by
  rw [splitFirst, List.span_eq_takeWhile_dropWhile]
  constructor
  · intro h
    have hhead := List.head?_dropWhile_not (· != mark) t
    have ht := t.takeWhile_append_dropWhile (p := (· != mark))
    cases hd : t.dropWhile (· != mark) with
    | nil =>
      rw [hd] at h
      cases h
    | cons c after =>
      rw [hd] at h hhead ht
      cases h
      obtain rfl : c = mark := by simpa using hhead
      exact ⟨ht.symm, fun hmem => by simpa using List.mem_takeWhile_imp hmem⟩
  · rintro ⟨rfl, h⟩
    have hname : ∀ c ∈ name, (c != mark) = true := fun c hc => bne_iff_ne.mpr fun he => h (he ▸ hc)
    rw [List.takeWhile_append_of_pos hname, List.dropWhile_append_of_pos hname]
    simp only [List.takeWhile_cons, List.dropWhile_cons, bne_self_eq_false, Bool.false_eq_true, if_false,
      List.append_nil]

end Remit.Text
