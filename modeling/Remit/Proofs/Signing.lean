import Remit.Proofs.Check
import Remit.Proofs.Hex
import Remit.Proofs.Text.Utf8
import Remit.Proofs.Wire.Draft
import Remit.Signing

/-!
# What is signed

The bytes that are hashed for a message determine it: sizes and UTF-8 leave no two ways to read them. A message is
signed unless it holds a surrogate, is too long to be written behind its size, or the key refuses. A signature that is
written in hexadecimal is checked as the bytes it was made of.
-/

namespace Remit

open Check (Settles)

/-- All that goes wrong with the key is an invalid value or one of the wrong type. -/
def SigningKey.FailsPlainly (key : SigningKey) : Prop :=
  ∀ digest e, key.signDigest digest = .error e → (e.isInvalidValue || e.isWrongType) = true

theorem PrivateKey.failsPlainly_signingKey (key : PrivateKey) : key.signingKey.FailsPlainly := by
  intro digest e h
  change key.signDigest digest = .error e at h
  rw [signDigest] at h
  split at h
  · cases h
    rfl
  split at h
  · cases h
  · cases h
    rfl

/-- The key makes a signature of the digest that belongs to its public key. -/
def PrivateKey.SignsFor (key : PrivateKey) (digest : Bytes) : Prop :=
  ∃ signature, key.signDigest digest = .ok signature ∧ Message.verifyDigest key.publicKey digest signature = .ok true

instance (key : PrivateKey) (digest : Bytes) : Decidable (key.SignsFor digest) :=
  match hs : key.signDigest digest with
  | .error _ => isFalse fun ⟨_, h, _⟩ => nomatch hs.symm.trans h
  | .ok signature =>
    match hv : Message.verifyDigest key.publicKey digest signature with
    | .ok true => isTrue ⟨signature, hs, hv⟩
    | .ok false | .error _ => isFalse fun ⟨_, h, h'⟩ => by
        cases hs.symm.trans h
        cases hv.symm.trans h'

namespace Message

open Wire (Draft Sized)

/-! ## Envelopes -/

/-- The bytes of a message. -/
def content (message : Text) : Bytes := message.flatMap Utf8.bytesOf

/-- The bytes that are hashed for a message. -/
def preimage (message : Text) : Bytes := (envelope (content message)).bytes

/-- The greeting behind its size. -/
def sizedGreeting : Sized := .ofBytes (content greeting) (by decide)

theorem envelope_eq {bs : Bytes} (h : bs.length < 256 ^ 8) :
    envelope bs = .of (sizedGreeting.bytes ++ (Sized.ofBytes bs h).bytes) := by
  rw [← Draft.of_append_of]
  exact congrArg₂ (· ++ ·) (Draft.varBytes_content sizedGreeting) (Draft.varBytes_content (Sized.ofBytes bs h))

theorem isFinished_envelope {bs : Bytes} : (envelope bs).IsFinished ↔ bs.length < 256 ^ 8 := by
  rw [envelope, Draft.isFinished_append, Draft.isFinished_varBytes_bytes, Draft.isFinished_varBytes_bytes]
  exact and_iff_right sizedGreeting.size.number_lt

theorem toExcept_envelope (bs : Bytes) :
    (envelope bs).toExcept = if bs.length < 256 ^ 8 then .ok (envelope bs).bytes else .error .misfit := by
  split
  case isTrue h =>
    rw [envelope_eq h]
    rfl
  case isFalse h =>
    have hg : (Draft.varBytes (.bytes (content greeting))).IsFinished := Draft.isFinished_varBytes_bytes.mpr (by decide)
    have hstop : (envelope bs).stop? = some .misfit := (Draft.stop?_append hg _).trans (Draft.stop?_varBytes h)
    rw [Draft.toExcept, hstop]

/-- Different messages are hashed as different bytes. -/
theorem eq_of_toExcept_envelope {m n : Text} {content content' bs : Bytes} (hm : Utf8.encode m = .ok content)
    (hn : Utf8.encode n = .ok content') (hb : (envelope content).toExcept = .ok bs)
    (hb' : (envelope content').toExcept = .ok bs) : m = n := by
  have hl := isFinished_envelope.mp (Draft.exists_toExcept_eq_ok.mp ⟨bs, hb⟩)
  have hl' := isFinished_envelope.mp (Draft.exists_toExcept_eq_ok.mp ⟨bs, hb'⟩)
  rw [envelope_eq hl] at hb
  rw [envelope_eq hl'] at hb'
  have hs := Sized.bytes_injective (List.append_cancel_left ((Except.ok.inj hb).trans (Except.ok.inj hb').symm))
  obtain ⟨-, rfl⟩ := Utf8.encode_eq_ok.mp hm
  obtain ⟨-, rfl⟩ := Utf8.encode_eq_ok.mp hn
  exact Utf8.flatMap_bytesOf_injective (congrArg Sized.content hs)

/-! ## Digests -/

theorem digest_of_encode_eq_error {m : Text} {fault : Utf8.EncodeFault} (h : Utf8.encode m = .error fault) :
    digest m = .error (.encoding fault) := by
  rw [digest, h]
  rfl

theorem digest_of_isEncodable {m : Text} (h : Utf8.IsEncodable m) :
    digest m = if (content m).length < 256 ^ 8 then .ok (Sha256.doubleHash (preimage m)) else .error .misfit := by
  have hm : Utf8.encode m = .ok (content m) := Utf8.encode_eq_ok.mpr ⟨h, rfl⟩
  simp only [digest, hm, Except.mapError, Bind.bind, Except.bind, toExcept_envelope, preimage]
  by_cases hl : (content m).length < 256 ^ 8
  · rw [if_pos hl, if_pos hl]
    rfl
  · rw [if_neg hl, if_neg hl]

theorem eq_of_digest_eq_ok {m : Text} {d : Bytes} (hm : Utf8.IsEncodable m) (hl : (content m).length < 256 ^ 8)
    (h : digest m = .ok d) : Sha256.doubleHash (preimage m) = d := by
  rw [digest_of_isEncodable hm, if_pos hl] at h
  exact Except.ok.inj h

/-! ## Signatures -/

/-- A message has to have UTF-8. -/
def encodingCheck (m : Text) : Check where
  holds := Utf8.IsEncodable m
  reports e := ∃ fault, Utf8.encode m = .error fault ∧ e = .signing "signature hash" (.encoding fault)

/-- The UTF-8 of a message has to fit behind its size. -/
def sizeCheck (m : Text) : Check := .of ((content m).length < 256 ^ 8) .misfit

/-- The key has to sign the hash of a message. -/
def keyCheck (key : SigningKey) (m : Text) : Check where
  holds := ∃ signature, key.signDigest (Sha256.doubleHash (preimage m)) = .ok signature
  reports e := ∃ reason, key.signDigest (Sha256.doubleHash (preimage m)) = .error reason ∧
    e = Error.raised (.signing "sign" reason)

/-- What has to hold for a message to be signed, in order. -/
def checks (key : SigningKey) (m : Text) : List Check := [encodingCheck m, sizeCheck m, keyCheck key m]

theorem settles_digest (m : Text) :
    Settles [encodingCheck m, sizeCheck m] (· = Sha256.doubleHash (preimage m))
      (atStage "signature hash" (fun e => e.isInvalidValue || e.isA .serialization) (digest m)) := by
  cases he : Utf8.encode m with
  | error fault =>
    have hm : ¬ Utf8.IsEncodable m := Utf8.exists_encode_eq_error.mp ⟨fault, he⟩
    rw [digest_of_encode_eq_error he]
    exact ⟨[], encodingCheck m, [sizeCheck m], rfl, Check.allHold_nil, hm, fault, he, rfl⟩
  | ok bs =>
    have hm := (Utf8.encode_eq_ok.mp he).1
    rw [digest_of_isEncodable hm]
    split
    case isTrue hl => exact ⟨Check.allHold_cons.mpr ⟨hm, Check.allHold_cons.mpr ⟨hl, Check.allHold_nil⟩⟩, rfl⟩
    case isFalse hl =>
      exact ⟨[encodingCheck m], sizeCheck m, [], rfl, Check.allHold_cons.mpr ⟨hm, Check.allHold_nil⟩, hl, rfl⟩

theorem settles_signDigest {key : SigningKey} (hk : key.FailsPlainly) (m : Text) :
    Settles [keyCheck key m] (fun bs => key.signDigest (Sha256.doubleHash (preimage m)) = .ok bs)
      (atStage "sign" (fun e => e.isInvalidValue || e.isWrongType)
        (key.signDigest (Sha256.doubleHash (preimage m)))) := by
  have hresult (d : Bytes) : atStage "sign" (fun e => e.isInvalidValue || e.isWrongType) (key.signDigest d) =
      (key.signDigest d).mapError fun e => Error.raised (.signing "sign" e) := by
    cases h : key.signDigest d with
    | ok bs => rfl
    | error e => exact if_pos (hk d e h)
  rw [hresult]
  exact .mapError Iff.rfl (fun e h => ⟨e, h, rfl⟩) fun _ h => h

theorem settles_sign {key : SigningKey} (hk : key.FailsPlainly) (m : Text) :
    Settles (checks key m)
      (fun t => ∃ bs, key.signDigest (Sha256.doubleHash (preimage m)) = .ok bs ∧ t = Hex.encode bs)
      (sign key (.text m)) := by
  change Settles ([encodingCheck m, sizeCheck m] ++ [keyCheck key m]) _ _
  refine (settles_digest m).bind fun d hd => ?_
  subst hd
  exact (settles_signDigest hk m).bind_pure fun bs hbs => ⟨bs, hbs, rfl⟩

/-- A signature is checked as the bytes that it spells. -/
theorem verify_of_spells {t : Text} {signature : Bytes} (hs : Hex.Spells t signature) (key : PublicKey) (m : Text) :
    verify key (.text m) (.text t) = digest m >>= fun d => verifyDigest key d signature := by
  simp only [verify, digestOf, Hex.decode_eq_ok.mpr hs, Bind.bind, Except.bind, Pure.pure, Except.pure]

/-- A signature in hexadecimal is checked as the bytes it was made of. -/
theorem verify_encode {key : PublicKey} {m : Text} {d : Bytes} (hd : digest m = .ok d) (signature : Bytes) :
    verify key (.text m) (.text (Hex.encode signature)) = verifyDigest key d signature := by
  rw [verify_of_spells (Hex.spells_encode signature), hd]
  rfl

end Message

end Remit
