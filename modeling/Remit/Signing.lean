import Remit.Key.Private
import Remit.Wire.Draft

/-!
# Signed messages

What is signed is the double hash of an envelope: a fixed greeting and the message in UTF-8, each behind its size. A
signature travels in hexadecimal.
-/

namespace Remit

/-- A key that signs digests, kept here or elsewhere. -/
structure SigningKey where
  signDigest : Bytes → Except Error Bytes

namespace PrivateKey

/-- The key as one that signs digests. -/
def signingKey (key : PrivateKey) : SigningKey := ⟨key.signDigest⟩

end PrivateKey

namespace Message

/-- The greeting in front of every message that is signed. -/
def greeting : Text := "Bitcoin Signed Message:\n"

/-- The greeting and a message, each behind its size. -/
def envelope (content : Bytes) : Wire.Draft :=
  .varBytes (greeting.flatMap Utf8.bytesOf) ++ .varBytes content

/-- What is signed for a message. Text that has no UTF-8 cannot be signed. -/
def digest (message : Text) : Except Error Bytes := do
  let content ← (Utf8.encode message).mapError .encoding
  return Sha256.doubleHash (← (envelope content).toExcept)

/-- What is signed for a value, which has to be a text. -/
def digestOf : Value → Except Error Bytes
  | .text message => digest message
  | _ => .error .noSuchAttribute

/-- Reports an error of a stage of signing, if it is one that signing answers for. -/
def atStage {α : Type} (stage : String) (answersFor : Error → Bool) : Except Error α → Except Error α
  | .ok a => .ok a
  | .error e => if answersFor e then .error (Error.raised (.signing stage e)) else .error e

/-- The signature of a message in hexadecimal. -/
def sign (key : SigningKey) (message : Value) : Except Error Text := do
  let digest ← atStage "signature hash" (fun e => e.isInvalidValue || e.isA .serialization) (digestOf message)
  let signature ← atStage "sign" (fun e => e.isInvalidValue || e.isWrongType) (key.signDigest digest)
  return Hex.encode signature

/-- Is it a written signature of a digest by the owner of a key? One for which the check ends at infinity is no answer. -/
def verifyDigest (key : PublicKey) (digest signature : Bytes) : Except Error Bool :=
  match Signature.ofBytes? signature with
  | none => .ok false
  | some sig =>
    match sig.witness? key.point (Bytes.toNatBE digest) with
    | none => .ok false
    | some .infinity => .error .wrongType
    | some (.affine x _) => .ok (x % Curve.order == sig.r)

/-- Is `signature` one of the message by the owner of a key? What is not hexadecimal is none, whatever the message. -/
def verify (key : PublicKey) (message signature : Value) : Except Error Bool := do
  let decoded ← match signature with
    | .text t => pure (Hex.decode t)
    | .bytes bs => pure (Hex.decodeBytes bs)
    | _ => .error .wrongType
  match decoded with
  | .error _ => return false
  | .ok signature => verifyDigest key (← digestOf message) signature

end Message

end Remit
