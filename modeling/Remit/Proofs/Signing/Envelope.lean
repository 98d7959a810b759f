import Remit.Proofs.Signing
import Remit.Proofs.Wire.Shortest

/-!
# Envelopes of messages

What is hashed for a message is a greeting behind its size, the shortest size of the message in UTF-8, and the UTF-8
itself. It exists unless the message holds a surrogate or is too long for any size, and it tells the message. So the
digests of two messages are different, or else the hash has been broken.
-/

namespace Remit.Message

open Wire (Size)

/-- The bytes are those of the message in its envelope. -/
def Framed (m : Text) (bs : Bytes) : Prop :=
  ∃ (s : String) (size : Size), Text.ofString s = m ∧ size.number = (Utf8.ofString s).length ∧ size.IsShortest ∧
    bs = 0x18 :: (Utf8.ofString "Bitcoin Signed Message:\n" ++ size.bytes ++ Utf8.ofString s)

theorem content_ofString (s : String) : content (Text.ofString s) = Utf8.ofString s := Utf8.flatMap_bytesOf_ofString s

theorem sizedGreeting_bytes : sizedGreeting.bytes = 0x18 :: Utf8.ofString "Bitcoin Signed Message:\n" := by
  rw [← content_ofString]
  decide

variable {m n : Text} {d bs : Bytes}

theorem preimage_eq (h : (content m).length < 256 ^ 8) :
    preimage m =
      0x18 :: (Utf8.ofString "Bitcoin Signed Message:\n" ++ (Size.ofNat (content m).length h).bytes ++ content m) := by
  rw [preimage, envelope_eq h, sizedGreeting_bytes, List.append_assoc]
  rfl

/-- The envelope is what is hashed. -/
theorem framed_iff : Framed m bs ↔ Utf8.IsEncodable m ∧ (content m).length < 256 ^ 8 ∧ preimage m = bs := by
  constructor
  · rintro ⟨s, size, rfl, hn, hs, rfl⟩
    rw [← content_ofString s] at hn ⊢
    have hl : (content (Text.ofString s)).length < 256 ^ 8 := hn ▸ size.number_lt
    exact ⟨Utf8.isEncodable_iff_exists_string.mpr ⟨s, rfl⟩, hl, by rw [preimage_eq hl, hs.ofNat_eq hn hl]⟩
  · rintro ⟨hm, hl, rfl⟩
    obtain ⟨s, rfl⟩ := Utf8.isEncodable_iff_exists_string.mp hm
    refine ⟨s, .ofNat _ hl, rfl, congrArg List.length (content_ofString s), Size.isShortest_ofNat hl, ?_⟩
    rw [preimage_eq hl, ← content_ofString s]

/-- The envelope tells the message. -/
theorem Framed.unique (hm : Framed m bs) (hn : Framed n bs) : m = n := by
  obtain ⟨hm, hl, hb⟩ := framed_iff.mp hm
  obtain ⟨hn, hl', hb'⟩ := framed_iff.mp hn
  have he : (envelope (content m)).toExcept = .ok bs := by rw [toExcept_envelope, if_pos hl, ← hb, preimage]
  have he' : (envelope (content n)).toExcept = .ok bs := by rw [toExcept_envelope, if_pos hl', ← hb', preimage]
  exact eq_of_toExcept_envelope (Utf8.encode_eq_ok.mpr ⟨hm, rfl⟩) (Utf8.encode_eq_ok.mpr ⟨hn, rfl⟩) he he'

/-! ## Digests -/

theorem digest_eq_ok : digest m = .ok d ↔ ∃ bs, Framed m bs ∧ Sha256.doubleHash bs = d := by
  simp only [framed_iff]
  by_cases hm : Utf8.IsEncodable m
  · rw [digest_of_isEncodable hm]
    split
    case isTrue hl =>
      constructor
      · exact fun h => ⟨_, ⟨hm, hl, rfl⟩, Except.ok.inj h⟩
      · rintro ⟨_, ⟨-, -, rfl⟩, rfl⟩
        rfl
    case isFalse hl => exact iff_of_false (fun h => nomatch h) fun ⟨_, h, _⟩ => hl h.2.1
  · obtain ⟨fault, he⟩ := Utf8.exists_encode_eq_error.mpr hm
    rw [digest_of_encode_eq_error he]
    exact iff_of_false (fun h => nomatch h) fun ⟨_, h, _⟩ => hm h.1

theorem exists_digest_eq_ok : (∃ d, digest m = .ok d) ↔ Utf8.IsEncodable m ∧ (content m).length < 2 ^ 64 := by
  simp only [digest_eq_ok, framed_iff]
  constructor
  · rintro ⟨_, _, ⟨hm, hl, -⟩, -⟩
    exact ⟨hm, hl⟩
  · rintro ⟨hm, hl⟩
    exact ⟨_, _, ⟨hm, hl, rfl⟩, rfl⟩

theorem exists_digest_eq_error : (∃ e, digest m = .error e) ↔ ¬ Utf8.IsEncodable m ∨ 2 ^ 64 ≤ (content m).length := by
  rw [← Nat.not_lt, ← not_and_or, ← exists_digest_eq_ok]
  cases digest m with
  | ok d =>
    refine iff_of_false ?_ fun h => h ⟨d, rfl⟩
    rintro ⟨_, h⟩
    cases h
  | error e =>
    refine iff_of_true ⟨e, rfl⟩ ?_
    rintro ⟨_, h⟩
    cases h

theorem exists_digest_eq_encoding : (∃ fault, digest m = .error (.encoding fault)) ↔ ¬ Utf8.IsEncodable m := by
  constructor
  · rintro ⟨fault, h⟩ hm
    rw [digest_of_isEncodable hm] at h
    split at h <;> cases h
  · intro hm
    obtain ⟨fault, he⟩ := Utf8.exists_encode_eq_error.mpr hm
    exact ⟨fault, digest_of_encode_eq_error he⟩

/-- A message has no UTF-8 if and only if it holds a surrogate. If it has and its size can be written, then its digest is
the double hash of its envelope. The envelope tells the message, so that the digests of different messages only agree
where the double hash does on different bytes. -/
theorem digest_hashes_envelope (m : Text) :
    ((∃ fault, digest m = .error (.encoding fault)) ↔ ∃ c ∈ m, c.isSurrogate = true) ∧
      ((∃ e, digest m = .error e) ↔ (∃ c ∈ m, c.isSurrogate = true) ∨ 2 ^ 64 ≤ (content m).length) ∧
      (∀ d, digest m = .ok d ↔ ∃ bs, Framed m bs ∧ Sha256.doubleHash bs = d) ∧
      (∀ n bs, Framed m bs → Framed n bs → m = n) ∧
      ∀ n d, digest m = .ok d → digest n = .ok d → m ≠ n →
        ∃ bs cs, Framed m bs ∧ Framed n cs ∧ bs ≠ cs ∧ Sha256.doubleHash bs = Sha256.doubleHash cs := by
  rw [← Utf8.not_isEncodable]
  refine ⟨exists_digest_eq_encoding, exists_digest_eq_error, fun _ => digest_eq_ok, fun _ _ => Framed.unique, ?_⟩
  intro n d hm hn hne
  obtain ⟨bs, hbs, rfl⟩ := digest_eq_ok.mp hm
  obtain ⟨cs, hcs, hd⟩ := digest_eq_ok.mp hn
  refine ⟨bs, cs, hbs, hcs, ?_, hd.symm⟩
  rintro rfl
  exact hne (hbs.unique hcs)

/-- Two characters in three bytes, and half of a pair. -/
theorem digest_hashes_envelope_accent :
    digest "né" =
        .ok (Sha256.doubleHash (0x18 :: (Utf8.ofString "Bitcoin Signed Message:\n" ++ [3] ++ [0x6e, 0xc3, 0xa9]))) ∧
      ∃ fault, digest [0xd800] = .error (.encoding fault) := by
  have hn : Utf8.ofString "né" = [0x6e, 0xc3, 0xa9] := by
    rw [← content_ofString]
    decide
  have hf : Framed "né" (0x18 :: (Utf8.ofString "Bitcoin Signed Message:\n" ++ [3] ++ [0x6e, 0xc3, 0xa9])) :=
    ⟨"né", .ofNat 3 (by decide), rfl, by rw [hn]; rfl, Size.isShortest_ofNat _, by rw [hn]; rfl⟩
  obtain ⟨-, -, hok, -⟩ := digest_hashes_envelope "né"
  exact ⟨(hok _).mpr ⟨_, hf, rfl⟩, (digest_hashes_envelope [0xd800]).1.mpr ⟨0xd800, List.mem_singleton_self _, by decide⟩⟩

end Remit.Message
