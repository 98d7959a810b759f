import Remit.Bytes

/-!
# Prefix codes

Items that are written one after the other, with nothing between them, can be told apart if no item is written without
bytes and if bytes that begin with those of one item never begin with those of another.
-/

namespace Remit

/-- The bytes of an admitted item are not none, and tell the item and where they end, whatever follows. -/
structure IsPrefixCode {α : Type} (code : α → Bytes) (admitted : α → Prop) : Prop where
  ne_nil {a : α} (ha : admitted a) : code a ≠ []
  append_inj {a b : α} {r s : Bytes} (ha : admitted a) (hb : admitted b) (h : code a ++ r = code b ++ s) : a = b ∧ r = s

namespace IsPrefixCode

variable {α : Type} {code : α → Bytes} {admitted : α → Prop}

/-- Items in a row are told by their bytes, and so is how many there are. -/
theorem flatMap_inj (hc : IsPrefixCode code admitted) {as bs : List α} (ha : ∀ a ∈ as, admitted a)
    (hb : ∀ b ∈ bs, admitted b) (h : as.flatMap code = bs.flatMap code) : as = bs := by
  induction as generalizing bs with
  | nil =>
    cases bs with
    | nil => rfl
    | cons b bs =>
      rw [List.flatMap_nil, List.flatMap_cons] at h
      exact absurd (List.append_eq_nil_iff.mp h.symm).1 (hc.ne_nil (hb b List.mem_cons_self))
  | cons a as ih =>
    cases bs with
    | nil =>
      rw [List.flatMap_nil, List.flatMap_cons] at h
      exact absurd (List.append_eq_nil_iff.mp h).1 (hc.ne_nil (ha a List.mem_cons_self))
    | cons b bs =>
      rw [List.forall_mem_cons] at ha hb
      rw [List.flatMap_cons, List.flatMap_cons] at h
      obtain ⟨rfl, hr⟩ := hc.append_inj ha.1 hb.1 h
      rw [ih ha.2 hb.2 hr]

end IsPrefixCode

end Remit
