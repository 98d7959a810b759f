import Remit.Proofs.Wire.Form

/-!
# Shortest forms

A number is written in the shortest form that holds it, whatever form it was read in. Each size becomes shorter when it
is written anew or stays as it is, and so do the bytes that stand behind one.
-/

namespace Remit.Wire

/-- Whatever does not stay the same takes up fewer bytes. -/
def Shortens {α : Type} (shorten : α → α) (bytes : α → Bytes) : Prop :=
  ∀ a, shorten a = a ∨ (bytes (shorten a)).length < (bytes a).length

namespace Shortens

variable {α : Type} {shorten : α → α} {bytes : α → Bytes}

theorem length_le_of_eq_or_lt {a b : α} (h : b = a ∨ (bytes b).length < (bytes a).length) :
    (bytes b).length ≤ (bytes a).length := by
  obtain rfl | hlt := h
  · exact Nat.le_refl _
  · exact Nat.le_of_lt hlt

theorem length_le (h : Shortens shorten bytes) (a : α) : (bytes (shorten a)).length ≤ (bytes a).length :=
  length_le_of_eq_or_lt (h a)

theorem eq_self_iff (h : Shortens shorten bytes) {a : α} :
    shorten a = a ↔ (bytes (shorten a)).length = (bytes a).length := by
  constructor
  · intro he
    rw [he]
  · intro he
    exact (h a).resolve_right (Nat.not_lt.mpr (Nat.le_of_eq he.symm))

/-- Items are shortened one by one. -/
theorem flatMap (h : Shortens shorten bytes) : Shortens (List.map shorten) (List.flatMap bytes) := by
  intro as
  induction as with
  | nil => exact .inl rfl
  | cons a as ih =>
    rw [List.map_cons, List.flatMap_cons, List.flatMap_cons, List.length_append, List.length_append]
    have has : ((as.map shorten).flatMap bytes).length ≤ (as.flatMap bytes).length := length_le_of_eq_or_lt ih
    obtain ha | ha := h a
    · obtain has | has := ih
      · exact .inl (by rw [ha, has])
      · exact .inr (by rw [ha]; omega)
    · exact .inr (by omega)

end Shortens

/-- No form that holds the number takes up fewer bytes than the shortest. -/
theorem SizeForm.length_shortest_le {n : Nat} {form : SizeForm} (h : n < form.limit) :
    (shortest n).mark.length + (shortest n).width ≤ form.mark.length + form.width := by
  cases form with
  | one =>
    refine Nat.le_of_eq ?_
    rw [shortest, if_pos (show n < 253 from h)]
  | three =>
    rw [shortest, if_pos (show n < 256 ^ 2 from h)]
    split <;> decide
  | five =>
    rw [shortest, if_pos (show n < 256 ^ 4 from h)]
    split
    · decide
    · split <;> decide
  | nine =>
    generalize shortest n = form
    cases form <;> decide

namespace Size

/-- No size of the same number takes up fewer bytes. -/
def IsShortest (s : Size) : Prop := ∀ t : Size, t.number = s.number → s.bytes.length ≤ t.bytes.length

theorem shortens : Shortens shortened bytes := by
  intro s
  have hle : s.shortened.bytes.length ≤ s.bytes.length := by
    rw [length_bytes, length_bytes]
    exact SizeForm.length_shortest_le s.fits
  obtain hlt | he := Nat.lt_or_eq_of_le hle
  · exact .inr hlt
  · exact .inl (Size.ext rfl (form_eq_of_length_eq he))

theorem shortened_eq_of_number_eq {s t : Size} (h : s.number = t.number) : s.shortened = t.shortened := by
  simp only [shortened, h]

theorem shortened_eq_self_iff {s : Size} : s.shortened = s ↔ s.IsShortest := by
  constructor
  · intro h t ht
    rw [← h, ← shortened_eq_of_number_eq ht]
    exact shortens.length_le t
  · intro h
    exact shortens.eq_self_iff.mpr (Nat.le_antisymm (shortens.length_le s) (h s.shortened rfl))

theorem isShortest_ofNat {n : Nat} (h : n < 256 ^ 8) : (ofNat n h).IsShortest := shortened_eq_self_iff.mp rfl

theorem IsShortest.ofNat_eq {s : Size} {n : Nat} (hs : s.IsShortest) (hn : s.number = n) (h : n < 256 ^ 8) :
    ofNat n h = s := by
  subst hn
  exact shortened_eq_self_iff.mpr hs

end Size

namespace Sized

theorem shortens : Shortens shortened bytes := by
  intro s
  rw [bytes, bytes, List.length_append, List.length_append]
  obtain h | h := Size.shortens s.size
  · exact .inl (Sized.ext h rfl)
  · exact .inr (Nat.add_lt_add_right h _)

theorem shortened_eq_self_iff {s : Sized} : s.shortened = s ↔ s.size.IsShortest := by
  rw [Sized.ext_iff, ← Size.shortened_eq_self_iff]
  exact and_iff_left rfl

end Sized

end Remit.Wire
