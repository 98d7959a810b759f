import Mathlib.Data.List.TakeDrop
import Mathlib.Data.List.TakeWhile
import Mathlib.Tactic.SplitIfs
import Remit.Proofs.PrefixCode
import Remit.Proofs.Text.Decimal
import Remit.Text.Utf8

/-!
# UTF-8

A text can be encoded if and only if there is no surrogate in it, which makes it the text of a string, and its bytes are
those that the string has. The bytes of one code point are never the start of those of another, so that a text is
determined by its bytes.
-/

namespace Remit.Utf8

/-! ## What can be encoded -/

/-- The text holds no surrogate. -/
def IsEncodable (t : Text) : Prop := ∀ c ∈ t, c.isSurrogate = false

instance (t : Text) : Decidable (IsEncodable t) :=
  decidable_of_iff (t.all fun c => !c.isSurrogate) (by simp only [IsEncodable, List.all_eq_true, Bool.not_eq_true'])

theorem encode_eq_ok {t : Text} {bs : Bytes} : encode t = .ok bs ↔ IsEncodable t ∧ t.flatMap bytesOf = bs := by
  rw [encode, List.span_eq_takeWhile_dropWhile]
  have hhead := List.head?_dropWhile_not (fun c => !CodePoint.isSurrogate c) t
  cases hd : t.dropWhile fun c => !CodePoint.isSurrogate c with
  | nil =>
    have ht : IsEncodable t := fun c hc => by simpa using List.dropWhile_eq_nil_iff.mp hd c hc
    exact ⟨fun h => ⟨ht, Except.ok.inj h⟩, fun h => congrArg Except.ok h.2⟩
  | cons c rest =>
    refine iff_of_false (fun h => nomatch h) fun ⟨ht, _⟩ => ?_
    have hc : c ∈ t := (List.dropWhile_sublist _).subset (hd ▸ List.mem_cons_self)
    rw [hd] at hhead
    have hhead : (!c.isSurrogate) = false := hhead
    rw [ht c hc] at hhead
    cases hhead

theorem not_isEncodable {t : Text} : ¬ IsEncodable t ↔ ∃ c ∈ t, c.isSurrogate = true := by
  simp only [IsEncodable, not_forall, exists_prop, Bool.not_eq_false]

theorem exists_encode_eq_error {t : Text} : (∃ fault, encode t = .error fault) ↔ ¬ IsEncodable t := by
  constructor
  · rintro ⟨fault, h⟩ ht
    rw [encode_eq_ok.mpr ⟨ht, rfl⟩] at h
    cases h
  · intro ht
    cases h : encode t with
    | ok bs => exact absurd (encode_eq_ok.mp h).1 ht
    | error fault => exact ⟨fault, rfl⟩

/-! ## Strings -/

/-- The bytes of a string. -/
def ofString (s : String) : Bytes := s.toUTF8.data.toList

theorem isSurrogate_eq_false_iff_val {c : CodePoint} : c.isSurrogate = false ↔ c.val < 0xd800 ∨ 0xdfff < c.val := by
  rw [CodePoint.isSurrogate, Bool.and_eq_false_iff, decide_eq_false_iff_not, decide_eq_false_iff_not, Nat.not_le,
    Nat.not_le]

/-- What is no surrogate is a character. -/
theorem isSurrogate_eq_false {c : CodePoint} : c.isSurrogate = false ↔ ∃ d : Char, CodePoint.ofChar d = c := by
  have hv : c.isSurrogate = false ↔ c.val.isValidChar :=
    isSurrogate_eq_false_iff_val.trans (or_congr Iff.rfl (and_iff_left c.isLt).symm)
  rw [hv]
  constructor
  · exact fun h => ⟨.ofNatAux c.val h, Fin.ext (CodePoint.val_ofChar _)⟩
  · rintro ⟨d, rfl⟩
    rw [CodePoint.val_ofChar]
    exact d.valid

/-- The texts that can be encoded are those of strings. -/
theorem isEncodable_iff_exists_string {t : Text} : IsEncodable t ↔ ∃ s : String, Text.ofString s = t := by
  constructor
  · intro h
    induction t with
    | nil => exact ⟨"", rfl⟩
    | cons c t ih =>
      obtain ⟨hc, ht⟩ := List.forall_mem_cons.mp h
      obtain ⟨d, rfl⟩ := isSurrogate_eq_false.mp hc
      obtain ⟨s, rfl⟩ := ih ht
      refine ⟨.ofList (d :: s.toList), ?_⟩
      rw [Text.ofString, String.toList_ofList]
      rfl
  · rintro ⟨s, rfl⟩ c hc
    obtain ⟨d, -, rfl⟩ := List.mem_map.mp hc
    exact isSurrogate_eq_false.mpr ⟨d, rfl⟩

theorem ofNat_eq_ofNat {m n : Nat} : UInt8.ofNat m = UInt8.ofNat n ↔ m % 256 = n % 256 := by
  rw [← UInt8.toNat_inj, UInt8.toNat_ofNat', UInt8.toNat_ofNat']

theorem bytesOf_ofChar (c : Char) : bytesOf (CodePoint.ofChar c) = String.utf8EncodeChar c := by
  have hc : c.val.toNat < 0x110000 := (CodePoint.val_ofChar c).symm.trans_lt (CodePoint.ofChar c).isLt
  simp only [bytesOf, CodePoint.val_ofChar, Char.toNat, String.utf8EncodeChar]
  split_ifs <;> simp only [List.cons.injEq, ofNat_eq_ofNat, and_true]
  all_goals omega

theorem flatMap_bytesOf_ofString (s : String) : (Text.ofString s).flatMap bytesOf = ofString s := by
  rw [Text.ofString, List.flatMap_map, funext bytesOf_ofChar, ofString, String.toUTF8,
    ← String.utf8Encode_toList, List.utf8Encode, List.data_toByteArray]

/-! ## Bytes determine the text -/

theorem bytesOf_append_inj {c d : CodePoint} {bs cs : Bytes} (h : bytesOf c ++ bs = bytesOf d ++ cs) :
    c = d ∧ bs = cs := by
  -- The first byte tells how many there are. If there are equally many, the number is read off them.
  have hv : c.val = d.val := by
    have hc := c.isLt
    have hd := d.isLt
    simp only [bytesOf] at h
    split_ifs at h <;> simp only [List.cons_append, List.nil_append, List.cons.injEq, ofNat_eq_ofNat] at h <;> omega
  obtain rfl := Fin.ext hv
  exact ⟨rfl, List.append_cancel_left h⟩

theorem bytesOf_ne_nil (c : CodePoint) : bytesOf c ≠ [] := by
  simp only [bytesOf]
  split_ifs <;> exact List.cons_ne_nil _ _

theorem isPrefixCode_bytesOf : IsPrefixCode bytesOf fun _ => True where
  ne_nil _ := bytesOf_ne_nil _
  append_inj _ _ := bytesOf_append_inj

theorem flatMap_bytesOf_injective : Function.Injective (List.flatMap bytesOf) := fun _ _ h =>
  isPrefixCode_bytesOf.flatMap_inj (fun _ _ => trivial) (fun _ _ => trivial) h

end Remit.Utf8
