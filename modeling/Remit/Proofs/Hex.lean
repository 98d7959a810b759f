import Mathlib.Data.List.Induction
import Remit.Hex
import Remit.Text.Case

/-!
# Hexadecimal

What is written is read back, so different bytes have different digits. A text is read if and only if it spells bytes:
two digits of either case for each of them, so any text of evenly many digits. In lower case it is what is written of
these bytes.
-/

namespace Remit.Hex

/-! ## Writing -/

theorem hexDigit?_digit : ∀ n : Fin 16, CodePoint.hexDigit? (digit n) = some n.val := by decide

theorem pairs_encode (done bs : Bytes) : pairs done (encode bs) = .ok (done.reverse ++ bs) := by
  induction bs generalizing done with
  | nil => rw [List.append_nil]; rfl
  | cons b bs ih =>
    have hb := b.toNat_lt
    have hhigh := hexDigit?_digit ⟨b.toNat / 16, by omega⟩
    have hlow := hexDigit?_digit ⟨b.toNat % 16, by omega⟩
    have hb' : UInt8.ofNat (16 * (b.toNat / 16) + b.toNat % 16) = b := by
      rw [Nat.div_add_mod, UInt8.ofNat_toNat]
    change pairs done (digit (b.toNat / 16) :: digit (b.toNat % 16) :: encode bs) = _
    simp only [pairs, hhigh, hlow, hb', ih, List.reverse_cons, List.append_assoc, List.singleton_append]

theorem encode_injective : Function.Injective encode := by
  intro bs cs h
  have hp := pairs_encode [] bs
  rw [h, pairs_encode] at hp
  exact (Except.ok.inj hp).symm

/-! ## Reading -/

/-- The text spells the bytes, each by two digits of either case. -/
inductive Spells : Text → Bytes → Prop
  | nil : Spells [] []
  | cons {a b : CodePoint} {high low : Nat} {t : Text} {bs : Bytes} (ha : CodePoint.hexDigit? a = some high)
      (hb : CodePoint.hexDigit? b = some low) (h : Spells t bs) :
      Spells (a :: b :: t) (UInt8.ofNat (16 * high + low) :: bs)

theorem isAscii_of_hexDigit? {c : CodePoint} {n : Nat} (h : CodePoint.hexDigit? c = some n) : c.isAscii = true := by
  have hc (first last : Char) (hl : last.toNat < 0x80) (hb : c.isBetween first last = true) : c.isAscii = true := by
    simp only [CodePoint.isBetween, Bool.and_eq_true, decide_eq_true_eq] at hb
    exact decide_eq_true (Nat.lt_of_le_of_lt hb.2 hl)
  rw [CodePoint.hexDigit?] at h
  split at h
  case isTrue hd => exact hc _ _ (by decide) hd
  split at h
  case isTrue hd => exact hc _ _ (by decide) hd
  split at h
  case isTrue hd => exact hc _ _ (by decide) hd
  case isFalse => cases h

theorem Spells.all_isAscii {t : Text} {bs : Bytes} (h : Spells t bs) : t.all CodePoint.isAscii = true := by
  induction h with
  | nil => rfl
  | cons ha hb _ ih =>
    rw [List.all_cons, List.all_cons, isAscii_of_hexDigit? ha, isAscii_of_hexDigit? hb, ih]
    rfl

theorem Spells.length_eq {t : Text} {bs : Bytes} (h : Spells t bs) : t.length = 2 * bs.length := by
  induction h with
  | nil => rfl
  | cons _ _ _ ih =>
    rw [List.length_cons, List.length_cons, List.length_cons, ih]
    omega

theorem pairs_eq_ok {done bs : Bytes} {t : Text} :
    pairs done t = .ok bs ↔ ∃ cs, Spells t cs ∧ done.reverse ++ cs = bs := by
  fun_induction pairs done t with
  | case1 done =>
    rw [Except.ok.injEq]
    constructor
    · rintro rfl
      exact ⟨[], .nil, List.append_nil _⟩
    · rintro ⟨_, ⟨⟩, rfl⟩
      rw [List.append_nil]
  | case2 done c => exact iff_of_false (fun h => nomatch h) (fun ⟨_, hs, _⟩ => nomatch hs)
  | case3 done a b rest high low hb ha ih =>
    rw [ih, List.reverse_cons]
    constructor
    · rintro ⟨cs, hs, rfl⟩
      exact ⟨_, .cons ha hb hs, List.append_cons _ _ _⟩
    · rintro ⟨_, hs, rfl⟩
      cases hs with
      | cons ha' hb' hs =>
        cases ha.symm.trans ha'
        cases hb.symm.trans hb'
        exact ⟨_, hs, (List.append_cons _ _ _).symm⟩
  | case4 done a b rest hn =>
    refine iff_of_false (fun h => nomatch h) ?_
    rintro ⟨_, hs, -⟩
    cases hs with
    | cons ha hb _ => exact hn _ _ ha hb

theorem decodeDigits_eq_ok {t : Text} {bs : Bytes} : decodeDigits t = .ok bs ↔ Spells t bs := by
  have hp : pairs [] t = .ok bs ↔ Spells t bs := by
    rw [pairs_eq_ok]
    exact ⟨fun ⟨_, hs, h⟩ => h ▸ hs, fun hs => ⟨bs, hs, rfl⟩⟩
  constructor
  · intro h
    rw [decodeDigits] at h
    split at h
    case isTrue => cases h
    exact hp.mp h
  · intro hs
    have hl := hs.length_eq
    rw [decodeDigits, if_neg (by omega)]
    exact hp.mpr hs

theorem decode_eq_ok {t : Text} {bs : Bytes} : decode t = .ok bs ↔ Spells t bs := by
  constructor
  · intro h
    rw [decode] at h
    split at h
    case isFalse => cases h
    exact decodeDigits_eq_ok.mp h
  · intro hs
    rw [decode, if_pos hs.all_isAscii]
    exact decodeDigits_eq_ok.mpr hs

/-- A text spells no more than one byte string. -/
theorem Spells.unique {t : Text} {bs cs : Bytes} (hb : Spells t bs) (hc : Spells t cs) : bs = cs :=
  Except.ok.inj ((decode_eq_ok.mpr hb).symm.trans (decode_eq_ok.mpr hc))

/-- The code point is a digit of either case. -/
def IsDigit (c : CodePoint) : Prop :=
  c.isBetween '0' '9' = true ∨ c.isBetween 'a' 'f' = true ∨ c.isBetween 'A' 'F' = true

theorem isDigit_iff {c : CodePoint} : IsDigit c ↔ ∃ n, CodePoint.hexDigit? c = some n := by
  rw [← Option.isSome_iff_exists, IsDigit, CodePoint.hexDigit?]
  split
  case isTrue h => exact iff_of_true (.inl h) rfl
  split
  case isTrue h => exact iff_of_true (.inr (.inl h)) rfl
  split
  case isTrue h => exact iff_of_true (.inr (.inr h)) rfl
  case isFalse h₁ h₂ h₃ => exact iff_of_false (not_or.mpr ⟨h₁, not_or.mpr ⟨h₂, h₃⟩⟩) Bool.false_ne_true

/-- What spells bytes is an even number of digits. -/
theorem exists_spells_iff {t : Text} : (∃ bs, Spells t bs) ↔ t.length % 2 = 0 ∧ ∀ c ∈ t, IsDigit c := by
  constructor
  · rintro ⟨bs, h⟩
    refine ⟨by rw [h.length_eq, Nat.mul_mod_right], ?_⟩
    induction h with
    | nil => exact fun _ hc => nomatch hc
    | cons ha hb _ ih =>
      rw [List.forall_mem_cons, List.forall_mem_cons]
      exact ⟨isDigit_iff.mpr ⟨_, ha⟩, isDigit_iff.mpr ⟨_, hb⟩, ih⟩
  · -- two digits at a time
    induction t using List.twoStepInduction with
    | nil => exact fun _ => ⟨[], .nil⟩
    | singleton c => exact fun ⟨h, _⟩ => nomatch h
    | cons_cons a b t ih _ =>
      rintro ⟨hl, hd⟩
      rw [List.forall_mem_cons, List.forall_mem_cons] at hd
      obtain ⟨ha, hb, hd⟩ := hd
      obtain ⟨high, ha⟩ := isDigit_iff.mp ha
      obtain ⟨low, hb⟩ := isDigit_iff.mp hb
      rw [List.length_cons, List.length_cons] at hl
      obtain ⟨bs, h⟩ := ih ⟨by omega, hd⟩
      exact ⟨_, .cons ha hb h⟩

theorem spells_encode (bs : Bytes) : Spells (encode bs) bs := by
  obtain ⟨cs, hs, rfl⟩ := pairs_eq_ok.mp (pairs_encode [] bs)
  exact hs

/-! ## Lower case -/

/-- What a digit of either case is in lower case, and what it stands for. -/
theorem smallLetter_of_hexDigit? {c : CodePoint} {n : Nat} (h : CodePoint.hexDigit? c = some n) :
    Fin.ofNat 0x110000 (Text.smallLetter c.val) = digit n ∧ n < 16 := by
  have hall : ∀ m : Fin 0x80, (CodePoint.hexDigit? (Fin.ofNat _ m.val)).all fun n =>
      Fin.ofNat 0x110000 (Text.smallLetter m.val) = digit n ∧ n < 16 := by decide
  have hc : c.val < 0x80 := of_decide_eq_true (isAscii_of_hexDigit? h)
  have hofNat : Fin.ofNat 0x110000 c.val = c := Fin.ofNat_val_eq_self c
  have hm := hall ⟨c.val, hc⟩
  dsimp only at hm
  rw [hofNat, h] at hm
  exact of_decide_eq_true hm

theorem lowerOne_of_hexDigit? {c : CodePoint} {n : Nat} (h : CodePoint.hexDigit? c = some n) (before after : Text) :
    Text.lowerOne before c after = [digit n] := by
  have hc : c.val < 0x80 := of_decide_eq_true (isAscii_of_hexDigit? h)
  rw [Text.lowerOne, if_neg (by omega), if_neg (by omega), (smallLetter_of_hexDigit? h).1]

theorem encode_cons {high low : Nat} (hh : high < 16) (hl : low < 16) (bs : Bytes) :
    encode (UInt8.ofNat (16 * high + low) :: bs) = digit high :: digit low :: encode bs := by
  have hb : (UInt8.ofNat (16 * high + low)).toNat = 16 * high + low := UInt8.toNat_ofNat_of_lt (show _ < 256 by omega)
  have hdiv : (16 * high + low) / 16 = high := by omega
  have hmod : (16 * high + low) % 16 = low := by omega
  rw [encode, List.flatMap_cons, hb, hdiv, hmod]
  rfl

theorem Spells.lowerFrom_eq {t : Text} {bs : Bytes} (h : Spells t bs) (before done : Text) :
    Text.lowerFrom before done t = done.reverse ++ encode bs := by
  induction h generalizing before done with
  | nil => exact (List.append_nil _).symm
  | cons ha hb _ ih =>
    have hh := (smallLetter_of_hexDigit? ha).2
    have hl := (smallLetter_of_hexDigit? hb).2
    rw [Text.lowerFrom, Text.lowerFrom, lowerOne_of_hexDigit? ha, lowerOne_of_hexDigit? hb, ih, encode_cons hh hl]
    simp

/-- In lower case a text is what is written of the bytes that it spells. -/
theorem Spells.lower_eq {t : Text} {bs : Bytes} (h : Spells t bs) : Text.lower t = encode bs := h.lowerFrom_eq [] []

end Remit.Hex
