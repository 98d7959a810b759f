import Remit.Proofs.Text.Utf8

/-!
# Reading UTF-8

A code point is read from a sequence of one to four bytes, the first of which tells how many there are. Sequences of
more bytes than needed, of surrogates and of numbers beyond the last code point are left out by what may follow a first
byte. So the sequences that are read are those that are written, and bytes are read if and only if they are those of a
string.
-/

namespace Remit.Utf8

/-! ## Sequences -/

/-- The bytes are the sequence of the code point. -/
inductive Sequence : Bytes → CodePoint → Prop
  | one {code : CodePoint} {a : UInt8} (ha : a.toNat < 0x80) (hv : code.val = a.toNat) : Sequence [a] code
  | two {code : CodePoint} {a b : UInt8} (ha : 0xc2 ≤ a.toNat ∧ a.toNat < 0xe0) (hb : isContinuation b = true)
      (hv : code.val = (a.toNat - 0xc0) * 0x40 + sixBits b) : Sequence [a, b] code
  | three {code : CodePoint} {a b c : UInt8} (ha : 0xe0 ≤ a.toNat ∧ a.toNat < 0xf0) (hb : isSecond a b = true)
      (hc : isContinuation c = true) (hv : code.val = (a.toNat - 0xe0) * 0x1000 + sixBits b * 0x40 + sixBits c) :
      Sequence [a, b, c] code
  | four {code : CodePoint} {a b c d : UInt8} (ha : 0xf0 ≤ a.toNat ∧ a.toNat < 0xf5) (hb : isSecond a b = true)
      (hc : isContinuation c = true) (hd : isContinuation d = true)
      (hv : code.val = (a.toNat - 0xf0) * 0x40000 + sixBits b * 0x1000 + sixBits c * 0x40 + sixBits d) :
      Sequence [a, b, c, d] code

variable {code : CodePoint} {position : Nat} {done t : Text} {a b : UInt8} {bs s rest : Bytes}

theorem isContinuation_iff : isContinuation b = true ↔ 0x80 ≤ b.toNat ∧ b.toNat < 0xc0 := by
  rw [isContinuation, Bool.and_eq_true, decide_eq_true_eq, decide_eq_true_eq, UInt8.le_iff_toNat_le,
    UInt8.lt_iff_toNat_lt]
  rfl

theorem isSecond_iff : isSecond a b = true ↔
    (0x80 ≤ b.toNat ∧ b.toNat < 0xc0) ∧ (a.toNat = 0xe0 → 0xa0 ≤ b.toNat) ∧ (a.toNat = 0xed → b.toNat < 0xa0) ∧
      (a.toNat = 0xf0 → 0x90 ≤ b.toNat) ∧ (a.toNat = 0xf4 → b.toNat < 0x90) := by
  rw [isSecond, Bool.and_eq_true, isContinuation_iff]
  refine and_congr_right fun _ => ?_
  simp only [beq_iff_eq, ← UInt8.toNat_inj, UInt8.le_iff_toNat_le, UInt8.lt_iff_toNat_lt, UInt8.reduceToNat]
  grind

theorem ofNat_eq_iff {n : Nat} : UInt8.ofNat n = a ↔ n % 256 = a.toNat := by
  rw [← UInt8.toNat_inj, UInt8.toNat_ofNat']

/-! ## What is written -/

/-- A sequence is what is written of its code point, which is no surrogate. -/
theorem Sequence.bytesOf_eq (h : Sequence s code) : code.isSurrogate = false ∧ bytesOf code = s := by
  rw [isSurrogate_eq_false_iff_val]
  cases h with
  | one ha hv =>
    refine ⟨by omega, ?_⟩
    rw [bytesOf, if_pos (by omega)]
    simp only [List.cons.injEq, ofNat_eq_iff, and_true]
    omega
  | two ha hb hv =>
    rw [isContinuation_iff] at hb
    rw [sixBits] at hv
    refine ⟨by omega, ?_⟩
    rw [bytesOf, if_neg (by omega), if_pos (by omega)]
    simp only [List.cons.injEq, ofNat_eq_iff, and_true]
    omega
  | three ha hb hc hv =>
    rw [isContinuation_iff] at hc
    rw [isSecond_iff] at hb
    rw [sixBits, sixBits] at hv
    refine ⟨by omega, ?_⟩
    rw [bytesOf, if_neg (by omega), if_neg (by omega), if_pos (by omega)]
    simp only [List.cons.injEq, ofNat_eq_iff, and_true]
    omega
  | four ha hb hc hd hv =>
    rw [isContinuation_iff] at hc hd
    rw [isSecond_iff] at hb
    rw [sixBits, sixBits, sixBits] at hv
    refine ⟨by omega, ?_⟩
    rw [bytesOf, if_neg (by omega), if_neg (by omega), if_neg (by omega)]
    simp only [List.cons.injEq, ofNat_eq_iff, and_true]
    omega

theorem sequence_bytesOf (h : code.isSurrogate = false) : Sequence (bytesOf code) code := by
  have hlt := code.isLt
  rw [isSurrogate_eq_false_iff_val] at h
  rw [bytesOf]
  split_ifs
  · apply Sequence.one <;> simp only [UInt8.toNat_ofNat'] <;> omega
  · apply Sequence.two <;> simp only [isContinuation_iff, sixBits, UInt8.toNat_ofNat'] <;> omega
  · apply Sequence.three <;> simp only [isContinuation_iff, isSecond_iff, sixBits, UInt8.toNat_ofNat'] <;> omega
  · apply Sequence.four <;> simp only [isContinuation_iff, isSecond_iff, sixBits, UInt8.toNat_ofNat'] <;> omega

/-! ## What is read -/

theorem val_ofNat {n : Nat} (h : n < 0x110000) : (Fin.ofNat 0x110000 n).val = n := Nat.mod_eq_of_lt h

/-- Behind a sequence the decoder goes on with its code point done. -/
theorem Sequence.decodeFrom_append (h : Sequence s code) (position : Nat) (done : Text) (rest : Bytes) :
    decodeFrom position done (s ++ rest) = decodeFrom (position + s.length) (code :: done) rest := by
  have hofNat {n : Nat} (hv : code.val = n) : Fin.ofNat 0x110000 n = code := by
    subst hv
    exact Fin.ext (val_ofNat code.isLt)
  cases h with
  | one ha hv =>
    rw [List.singleton_append, decodeFrom.eq_def]
    simp only [UInt8.lt_iff_toNat_lt, UInt8.reduceToNat, ha, if_true, hofNat hv, List.length_singleton]
  | two ha hb hv =>
    simp only [List.cons_append, List.nil_append]
    rw [decodeFrom.eq_def]
    simp only [UInt8.lt_iff_toNat_lt, UInt8.le_iff_toNat_le, hb, hofNat hv]
    grind
  | three ha hb hc hv =>
    simp only [List.cons_append, List.nil_append]
    rw [decodeFrom.eq_def]
    simp only [UInt8.lt_iff_toNat_lt, UInt8.le_iff_toNat_le, hb, hc, hofNat hv]
    grind
  | four ha hb hc hd hv =>
    simp only [List.cons_append, List.nil_append]
    rw [decodeFrom.eq_def]
    simp only [UInt8.lt_iff_toNat_lt, UInt8.le_iff_toNat_le, hb, hc, hd, hofNat hv]
    grind

/-- What was read behind a sequence was read of a text that goes on with its code point. -/
theorem Sequence.exists_text (h : Sequence s code)
    (hr : ∃ u, IsEncodable u ∧ u.flatMap bytesOf = rest ∧ (code :: done).reverse ++ u = t) :
    ∃ u, IsEncodable u ∧ u.flatMap bytesOf = s ++ rest ∧ done.reverse ++ u = t := by
  obtain ⟨hc, rfl⟩ := h.bytesOf_eq
  obtain ⟨u, hu, rfl, rfl⟩ := hr
  refine ⟨code :: u, List.forall_mem_cons.mpr ⟨hc, hu⟩, List.flatMap_cons .., ?_⟩
  rw [List.reverse_cons, List.append_assoc, List.singleton_append]

theorem exists_text_of_decodeFrom (h : decodeFrom position done bs = .ok t) :
    ∃ u, IsEncodable u ∧ u.flatMap bytesOf = bs ∧ done.reverse ++ u = t := by
  fun_induction decodeFrom position done bs with
  | case1 position done => exact ⟨[], List.forall_mem_nil _, rfl, (List.append_nil _).trans (Except.ok.inj h)⟩
  | case2 position done a rest ha ih =>
    have ha : a.toNat < 0x80 := UInt8.lt_iff_toNat_lt.mp ha
    exact (Sequence.one ha (val_ofNat (by omega))).exists_text (ih h)
  | case5 position done a ha ha' b rest hlt hb ih =>
    simp only [Bool.or_eq_true, decide_eq_true_eq, UInt8.lt_iff_toNat_lt, UInt8.le_iff_toNat_le,
      UInt8.reduceToNat] at ha ha' hlt
    have hv : (a.toNat - 0xc0) * 0x40 + sixBits b < 0x110000 := by
      rw [sixBits]
      omega
    exact (Sequence.two (by omega) hb (val_ofNat hv)).exists_text (ih h)
  | case10 position done a ha ha' b hge hb c rest hc hlt ih =>
    simp only [Bool.or_eq_true, decide_eq_true_eq, UInt8.lt_iff_toNat_lt, UInt8.le_iff_toNat_le, UInt8.reduceToNat,
      Bool.not_eq_true', Bool.not_eq_false] at ha ha' hge hb hc hlt
    have hv : (a.toNat - 0xe0) * 0x1000 + sixBits b * 0x40 + sixBits c < 0x110000 := by
      rw [sixBits, sixBits]
      omega
    exact (Sequence.three (by omega) hb hc (val_ofNat hv)).exists_text (ih h)
  | case13 position done a ha ha' b hge hb c hc hge' d rest hd ih =>
    simp only [Bool.or_eq_true, decide_eq_true_eq, UInt8.lt_iff_toNat_lt, UInt8.le_iff_toNat_le, UInt8.reduceToNat,
      Bool.not_eq_true', Bool.not_eq_false] at ha ha' hge hb hc hge' hd
    -- Behind `f4` the second byte keeps the number below the last code point.
    have hsecond := isSecond_iff.mp hb
    have hv : (a.toNat - 0xf0) * 0x40000 + sixBits b * 0x1000 + sixBits c * 0x40 + sixBits d < 0x110000 := by
      rw [sixBits, sixBits, sixBits]
      omega
    exact (Sequence.four (by omega) hb hc hd (val_ofNat hv)).exists_text (ih h)
  | case3 | case4 | case6 | case7 | case8 | case9 | case11 | case12 => cases h

theorem decodeFrom_flatMap_bytesOf (ht : IsEncodable t) (position : Nat) (done : Text) :
    decodeFrom position done (t.flatMap bytesOf) = .ok (done.reverse ++ t) := by
  induction t generalizing position done with
  | nil =>
    rw [List.append_nil]
    rfl
  | cons code t ih =>
    obtain ⟨hc, ht⟩ := List.forall_mem_cons.mp ht
    rw [List.flatMap_cons, (sequence_bytesOf hc).decodeFrom_append, ih ht, List.reverse_cons, List.append_assoc,
      List.singleton_append]

/-- What is read is what is written so. -/
theorem decode_eq_ok : decode bs = .ok t ↔ encode t = .ok bs := by
  rw [encode_eq_ok]
  constructor
  · intro h
    obtain ⟨u, hu, hb, rfl⟩ := exists_text_of_decodeFrom h
    exact ⟨hu, hb⟩
  · rintro ⟨ht, rfl⟩
    exact decodeFrom_flatMap_bytesOf ht 0 []

/-- The bytes that are read are those of strings. -/
theorem exists_decode_eq_ok : (∃ t, decode bs = .ok t) ↔ ∃ s : String, ofString s = bs := by
  simp only [decode_eq_ok, encode_eq_ok, isEncodable_iff_exists_string]
  constructor
  · rintro ⟨_, ⟨s, rfl⟩, rfl⟩
    exact ⟨s, (flatMap_bytesOf_ofString s).symm⟩
  · rintro ⟨s, rfl⟩
    exact ⟨_, ⟨s, rfl⟩, flatMap_bytesOf_ofString s⟩

end Remit.Utf8
