import Mathlib.Algebra.GroupWithZero.Nat
import Remit.Text.Basic

/-!
# Joined texts

Texts with a separator between them are read off the joined text as soon as their lengths are known.
-/

namespace Remit.Text

variable {separator : Text}

theorem joinWith_cons_of_ne_nil {ts : List Text} (h : ts ≠ []) (separator t : Text) :
    joinWith separator (t :: ts) = t ++ (separator ++ joinWith separator ts) := by
  cases ts with
  | nil => exact absurd rfl h
  | cons u us => exact List.append_assoc ..

theorem prefix_joinWith_cons (separator t : Text) (ts : List Text) : t <+: joinWith separator (t :: ts) := by
  by_cases h : ts = []
  · subst h
    exact List.prefix_rfl
  · rw [joinWith_cons_of_ne_nil h]
    exact List.prefix_append _ _

theorem mem_joinWith_of_mem {c : CodePoint} {t : Text} {ts : List Text} (ht : t ∈ ts) (hc : c ∈ t) (separator : Text) :
    c ∈ joinWith separator ts := by
  induction ts with
  | nil => cases ht
  | cons u us ih =>
    rcases List.mem_cons.mp ht with rfl | ht
    · exact (prefix_joinWith_cons separator t us).subset hc
    · rw [joinWith_cons_of_ne_nil (List.ne_nil_of_mem ht)]
      exact List.mem_append_right _ (List.mem_append_right _ (ih ht))

theorem mem_or_mem_of_mem_joinWith {c : CodePoint} {ts : List Text} (h : c ∈ joinWith separator ts) :
    c ∈ separator ∨ ∃ t ∈ ts, c ∈ t := by
  induction ts with
  | nil => cases h
  | cons t ts ih =>
    by_cases hts : ts = []
    · subst hts
      exact .inr ⟨t, List.mem_cons_self, h⟩
    · rw [joinWith_cons_of_ne_nil hts, List.mem_append, List.mem_append] at h
      rcases h with ht | hs | hrest
      · exact .inr ⟨t, List.mem_cons_self, ht⟩
      · exact .inl hs
      · exact (ih hrest).imp_right fun ⟨u, hu, hc⟩ => ⟨u, List.mem_cons_of_mem t hu, hc⟩

/-- A separator stands between any two texts. -/
theorem length_joinWith (separator : Text) (ts : List Text) :
    (joinWith separator ts).length = (ts.map List.length).sum + (ts.length - 1) * separator.length := by
  induction ts with
  | nil => simp [joinWith]
  | cons t ts ih =>
    cases ts with
    | nil => simp [joinWith]
    | cons u us =>
      rw [joinWith_cons_of_ne_nil (List.cons_ne_nil u us), List.length_append, List.length_append, ih]
      simp only [List.map_cons, List.sum_cons, List.length_cons, Nat.add_sub_cancel, Nat.add_mul]
      omega

/-- Joined texts of known lengths are told apart. -/
theorem joinWith_inj {ts us : List Text} (hl : ts.map List.length = us.map List.length)
    (h : joinWith separator ts = joinWith separator us) : ts = us := by
  induction ts generalizing us with
  | nil => exact (List.map_eq_nil_iff.mp hl.symm).symm
  | cons t ts ih =>
    cases us with
    | nil => cases hl
    | cons u us =>
      rw [List.map_cons, List.map_cons, List.cons.injEq] at hl
      obtain ⟨hhead, htail⟩ := hl
      by_cases hts : ts = []
      · subst hts
        obtain rfl : us = [] := List.map_eq_nil_iff.mp htail.symm
        exact congrArg ([·]) h
      · have hus : us ≠ [] := by
          rintro rfl
          exact hts (List.map_eq_nil_iff.mp htail)
        rw [joinWith_cons_of_ne_nil hts, joinWith_cons_of_ne_nil hus] at h
        obtain ⟨rfl, hrest⟩ := List.append_inj h hhead
        rw [ih htail (List.append_cancel_left hrest)]

end Remit.Text
