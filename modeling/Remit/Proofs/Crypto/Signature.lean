import Remit.Crypto.Signature
import Remit.Proofs.Bytes

/-!
# Written signatures

A signature is read from the bytes that it is written as, and from no others. Only its length can keep it from being
read, and it does not where both numbers are below the order of the curve.
-/

namespace Remit.Signature

/-! ## Numbers -/

theorem toNatBE_numberBytes (n : Nat) : Bytes.toNatBE (numberBytes n) = n := by
  have hn := Bytes.toNatBE_minimalBE n
  rw [numberBytes]
  cases h : Bytes.minimalBE n with
  | nil =>
    rw [h] at hn
    exact hn
  | cons b bs =>
    rw [h] at hn
    dsimp only
    split
    · exact hn
    · -- a zero byte in front does not count
      exact hn

theorem readNumber_eq_some {bs : Bytes} {n : Nat} : readNumber bs = some n ↔ numberBytes n = bs := by
  rw [readNumber]
  constructor
  · intro h
    split at h
    case isTrue hb => exact Option.some.inj h ▸ hb
    case isFalse => cases h
  · rintro rfl
    rw [toNatBE_numberBytes, if_pos rfl]

theorem length_numberBytes_le {width n : Nat} (h : n < 256 ^ width) : (numberBytes n).length ≤ width + 1 := by
  have hl := Bytes.length_minimalBE_le h
  rw [numberBytes]
  cases hb : Bytes.minimalBE n with
  | nil => exact Nat.le_add_left _ _
  | cons b bs =>
    rw [hb] at hl
    dsimp only
    split
    · exact Nat.le_succ_of_le hl
    · exact Nat.succ_le_succ hl

/-! ## Items -/

theorem readItem_eq_some {mark : UInt8} {bs content rest : Bytes} :
    readItem mark bs = some (content, rest) ↔
      content.length < 0x80 ∧ mark :: UInt8.ofNat content.length :: (content ++ rest) = bs := by
  constructor
  · intro h
    match bs with
    | [] | [_] => cases h
    | m :: n :: others =>
      rw [readItem] at h
      split at h
      case isFalse => cases h
      case isTrue hc =>
        obtain ⟨rfl, hn, hl⟩ := hc
        obtain ⟨rfl, rfl⟩ := Prod.mk.inj (Option.some.inj h)
        rw [List.length_take, Nat.min_eq_left hl, UInt8.ofNat_toNat, List.take_append_drop]
        exact ⟨hn, rfl⟩
  · rintro ⟨hl, rfl⟩
    have hn : (UInt8.ofNat content.length).toNat = content.length := UInt8.toNat_ofNat_of_lt (Nat.lt_trans hl (by decide))
    have hc : UInt8.ofNat content.length < 0x80 := by
      rw [UInt8.lt_iff_toNat_lt, hn]
      exact hl
    rw [readItem, hn, if_pos ⟨rfl, hc, by rw [List.length_append]; omega⟩, List.take_left, List.drop_left]

/-! ## Signatures -/

theorem length_body (sig : Signature) :
    (writeNumber sig.r ++ writeNumber sig.s).length = (numberBytes sig.r).length + 2 + ((numberBytes sig.s).length + 2) :=
  List.length_append

theorem ofBytes?_bytes {sig : Signature} (hl : (writeNumber sig.r ++ writeNumber sig.s).length < 0x80) :
    ofBytes? sig.bytes = some sig := by
  have hlengths := sig.length_body
  have hbody : readItem 0x30 sig.bytes = some (writeNumber sig.r ++ writeNumber sig.s, []) :=
    readItem_eq_some.mpr ⟨hl, by rw [List.append_nil]; rfl⟩
  have hr : readItem 0x02 (writeNumber sig.r ++ writeNumber sig.s) = some (numberBytes sig.r, writeNumber sig.s) :=
    readItem_eq_some.mpr ⟨by omega, rfl⟩
  have hs : readItem 0x02 (writeNumber sig.s) = some (numberBytes sig.s, []) :=
    readItem_eq_some.mpr ⟨by omega, by rw [List.append_nil]; rfl⟩
  have hr' : readNumber (numberBytes sig.r) = some sig.r := readNumber_eq_some.mpr rfl
  have hs' : readNumber (numberBytes sig.s) = some sig.s := readNumber_eq_some.mpr rfl
  simp only [ofBytes?, hbody, hr, hs, hr', hs', Bind.bind, Option.bind_some]
  rfl

/-- What is read is what is written, unless it is too long. -/
theorem ofBytes?_eq_some {bs : Bytes} {sig : Signature} :
    ofBytes? bs = some sig ↔ (writeNumber sig.r ++ writeNumber sig.s).length < 0x80 ∧ sig.bytes = bs := by
  constructor
  · intro h
    simp only [ofBytes?, Bind.bind, Option.bind_eq_some_iff] at h
    obtain ⟨⟨body, rest⟩, hbody, ⟨r, others⟩, hr, ⟨s, others'⟩, hs, ⟨⟩, hempty, r', hr', s', hs', hsig⟩ := h
    dsimp only at hr hs hempty hr' hs'
    -- Each item is its mark, its length and its content, and nothing is left over.
    obtain ⟨hl, rfl⟩ := readItem_eq_some.mp hbody
    obtain ⟨-, rfl⟩ := readItem_eq_some.mp hr
    obtain ⟨-, rfl⟩ := readItem_eq_some.mp hs
    obtain rfl := readNumber_eq_some.mp hr'
    obtain rfl := readNumber_eq_some.mp hs'
    simp only [Option.guard_eq_some', Bool.and_eq_true, List.isEmpty_iff] at hempty
    obtain ⟨rfl, rfl⟩ := hempty
    obtain rfl := Option.some.inj hsig
    rw [List.append_nil] at hl ⊢
    exact ⟨hl, by rw [List.append_nil]; rfl⟩
  · rintro ⟨hl, rfl⟩
    exact ofBytes?_bytes hl

/-- Numbers below the order of the curve are short enough. -/
theorem length_body_lt {sig : Signature} (hr : sig.r < Curve.order) (hs : sig.s < Curve.order) :
    (writeNumber sig.r ++ writeNumber sig.s).length < 0x80 := by
  have horder : Curve.order ≤ 256 ^ 32 := by decide
  have hlr := length_numberBytes_le (Nat.lt_of_lt_of_le hr horder)
  have hls := length_numberBytes_le (Nat.lt_of_lt_of_le hs horder)
  rw [length_body]
  omega

/-! ## Checking -/

/-- The numbers are in range, and the point that they and a digest lead to has the first of them as its first
coordinate. -/
def IsOf (sig : Signature) (key : Curve.Point) (digest : Nat) : Prop :=
  ∃ x y, sig.witness? key digest = some (.affine x y) ∧ x % Curve.order = sig.r

/-- The numbers are in range, and the point that they and a digest lead to has no coordinates. -/
def EndsAtInfinity (sig : Signature) (key : Curve.Point) (digest : Nat) : Prop :=
  sig.witness? key digest = some .infinity

/-- Only a signature that is read leads to a point. -/
theorem ofBytes?_of_witness? {sig : Signature} {key p : Curve.Point} {digest : Nat}
    (h : sig.witness? key digest = some p) : ofBytes? sig.bytes = some sig := by
  rw [witness?] at h
  split at h
  case isTrue hrange => exact ofBytes?_bytes (length_body_lt hrange.2.1 hrange.2.2.2)
  case isFalse => cases h

end Remit.Signature
