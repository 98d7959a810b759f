import Remit.Proofs.Crypto.Signature
import Remit.Proofs.Signing.Envelope

/-!
# Checking signatures of messages

A text is a signature of a message if it spells the written form of one that leads from the digest of the message to
its own first number. What is not hexadecimal is none, whatever the message. For anything that is hexadecimal the
digest is needed, so that there is no answer where the message has no UTF-8.
-/

namespace Remit.Message

open Hex (Spells)

/-! ## Digests -/

variable {key : PublicKey} {d bs : Bytes}

theorem verifyDigest_eq_true :
    verifyDigest key d bs = .ok true ↔ ∃ sig : Signature, sig.bytes = bs ∧ sig.IsOf key.point (Bytes.toNatBE d) := by
  constructor
  · intro h
    rw [verifyDigest] at h
    split at h
    case h_1 => cases h
    case h_2 sig hsig =>
      split at h
      case h_1 | h_2 => cases h
      case h_3 x y hw => exact ⟨sig, (Signature.ofBytes?_eq_some.mp hsig).2, x, y, hw, eq_of_beq (Except.ok.inj h)⟩
  · rintro ⟨sig, rfl, x, y, hw, hx⟩
    simp only [verifyDigest, Signature.ofBytes?_of_witness? hw, hw, hx, beq_self_eq_true]

theorem verifyDigest_eq_error {e : Error} :
    verifyDigest key d bs = .error e ↔
      e = .wrongType ∧ ∃ sig : Signature, sig.bytes = bs ∧ sig.EndsAtInfinity key.point (Bytes.toNatBE d) := by
  constructor
  · intro h
    rw [verifyDigest] at h
    split at h
    case h_1 => cases h
    case h_2 sig hsig =>
      split at h
      case h_1 | h_3 => cases h
      case h_2 hw => exact ⟨(Except.error.inj h).symm, sig, (Signature.ofBytes?_eq_some.mp hsig).2, hw⟩
  · rintro ⟨rfl, sig, rfl, hw⟩
    have hw : sig.witness? key.point (Bytes.toNatBE d) = some .infinity := hw
    simp only [verifyDigest, Signature.ofBytes?_of_witness? hw, hw]

theorem exists_verifyDigest_eq_ok :
    (∃ b, verifyDigest key d bs = .ok b) ↔
      ∀ sig : Signature, sig.bytes = bs → ¬ sig.EndsAtInfinity key.point (Bytes.toNatBE d) := by
  cases h : verifyDigest key d bs with
  | ok b => exact iff_of_true ⟨b, rfl⟩ fun sig hb hi => nomatch h.symm.trans (verifyDigest_eq_error.mpr ⟨rfl, sig, hb, hi⟩)
  | error e =>
    obtain ⟨-, sig, hb, hi⟩ := verifyDigest_eq_error.mp h
    exact iff_of_false (fun ⟨_, h⟩ => nomatch h) fun hn => hn sig hb hi

/-! ## Messages -/

variable {m t : Text}

theorem verify_of_not_spells (h : ¬ ∃ bs, Spells t bs) (key : PublicKey) (m : Text) :
    verify key (.text m) (.text t) = .ok false := by
  cases hd : Hex.decode t with
  | ok bs => exact absurd ⟨bs, Hex.decode_eq_ok.mp hd⟩ h
  | error fault =>
    rw [verify, hd]
    rfl

theorem verify_eq_true : verify key (.text m) (.text t) = .ok true ↔
    ∃ bs d, Spells t bs ∧ digest m = .ok d ∧ verifyDigest key d bs = .ok true := by
  constructor
  · intro h
    by_cases ht : ∃ bs, Spells t bs
    · obtain ⟨bs, ht⟩ := ht
      rw [verify_of_spells ht] at h
      obtain ⟨d, hm, hv⟩ := exists_of_bind_eq_ok h
      exact ⟨bs, d, ht, hm, hv⟩
    · rw [verify_of_not_spells ht] at h
      cases h
  · rintro ⟨bs, d, ht, hm, hv⟩
    rw [verify_of_spells ht, hm]
    exact hv

/-- There is an answer unless bytes are spelled and their check, or the digest before it, gives none. -/
theorem exists_verify_eq_ok : (∃ b, verify key (.text m) (.text t) = .ok b) ↔
    ∀ bs, Spells t bs → ∃ d, digest m = .ok d ∧ ∃ b, verifyDigest key d bs = .ok b := by
  by_cases ht : ∃ bs, Spells t bs
  · obtain ⟨bs, ht⟩ := ht
    rw [verify_of_spells ht]
    constructor
    · rintro ⟨b, h⟩ cs hc
      obtain rfl := ht.unique hc
      obtain ⟨d, hm, hv⟩ := exists_of_bind_eq_ok h
      exact ⟨d, hm, b, hv⟩
    · intro h
      obtain ⟨d, hm, b, hv⟩ := h bs ht
      rw [hm]
      exact ⟨b, hv⟩
  · exact iff_of_true ⟨false, verify_of_not_spells ht key m⟩ fun bs hbs => absurd ⟨bs, hbs⟩ ht

theorem verify_eq_encoding {fault : Utf8.EncodeFault} :
    verify key (.text m) (.text t) = .error (.encoding fault) ↔
      (∃ bs, Spells t bs) ∧ digest m = .error (.encoding fault) := by
  constructor
  · intro h
    by_cases ht : ∃ bs, Spells t bs
    · refine ⟨ht, ?_⟩
      obtain ⟨bs, ht⟩ := ht
      rw [verify_of_spells ht] at h
      cases hm : digest m with
      | error e =>
        rw [hm] at h
        cases h
        rfl
      | ok d =>
        rw [hm] at h
        cases (verifyDigest_eq_error.mp h).1
    · rw [verify_of_not_spells ht] at h
      cases h
  · rintro ⟨⟨bs, ht⟩, hm⟩
    rw [verify_of_spells ht, hm]
    rfl

/-- A signature is good if and only if it spells the written form of one that belongs to the key and the digest. There
is an answer, good or not, for every text that is not hexadecimal. For one that is, there is none where the message has
no digest, or where the check ends at infinity. So a surrogate in the message is reported for every hexadecimal text,
whatever it spells. -/
theorem verify_answers (key : PublicKey) (m t : Text) :
    (verify key (.text m) (.text t) = .ok true ↔
        ∃ (d : Bytes) (sig : Signature), digest m = .ok d ∧ Spells t sig.bytes ∧ sig.IsOf key.point (Bytes.toNatBE d)) ∧
      ((∃ b, verify key (.text m) (.text t) = .ok b) ↔
        ∀ bs, Spells t bs → ∃ d, digest m = .ok d ∧
          ∀ sig : Signature, sig.bytes = bs → ¬ sig.EndsAtInfinity key.point (Bytes.toNatBE d)) ∧
      ((∃ fault, verify key (.text m) (.text t) = .error (.encoding fault)) ↔
        (∃ bs, Spells t bs) ∧ ∃ c ∈ m, c.isSurrogate = true) := by
  refine ⟨?_, ?_, ?_⟩
  · simp only [verify_eq_true, verifyDigest_eq_true]
    constructor
    · rintro ⟨_, d, ht, hm, sig, rfl, hsig⟩
      exact ⟨d, sig, hm, ht, hsig⟩
    · rintro ⟨d, sig, hm, ht, hsig⟩
      exact ⟨_, d, ht, hm, sig, rfl, hsig⟩
  · simp only [exists_verify_eq_ok, exists_verifyDigest_eq_ok]
  · simp only [verify_eq_encoding, exists_and_left, exists_digest_eq_encoding, Utf8.not_isEncodable]

/-- Half of a pair, and the written form of a signature of ones. -/
theorem verify_answers_surrogate :
    ∃ fault, verify ⟨.generator⟩ (.text [0xd800]) (.text "3006020101020101") = .error (.encoding fault) := by
  have hs : Spells "3006020101020101" [0x30, 6, 2, 1, 1, 2, 1, 1] := Hex.decode_eq_ok.mp (by decide)
  have hc : ∃ c ∈ ([0xd800] : Text), c.isSurrogate = true := ⟨0xd800, List.mem_singleton_self _, by decide⟩
  exact (verify_answers ⟨.generator⟩ [0xd800] "3006020101020101").2.2.mpr ⟨⟨_, hs⟩, hc⟩

end Remit.Message
