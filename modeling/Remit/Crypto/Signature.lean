import Remit.Crypto.Curve
import Remit.Crypto.Sha256

/-!
# Signatures

Signatures of 32-byte digests with a secret number, made with nonces that follow from the secret and the digest alone,
and their written form: two positive numbers, each behind its length and with a zero byte in front where it would look
negative. Only that form is read.
-/

namespace Remit

/-- A signature: two numbers, which count modulo the order of the curve. -/
structure Signature where
  r : Nat
  s : Nat
deriving DecidableEq

namespace Signature

/-! ## Written form -/

/-- The bytes of a number: without leading zeros, except for one in front of a byte that has its first bit set. -/
def numberBytes (n : Nat) : Bytes :=
  match Bytes.minimalBE n with
  | [] => [0]
  | b :: bs => if b < 0x80 then b :: bs else 0 :: b :: bs

/-- A number behind its mark and its length. -/
def writeNumber (n : Nat) : Bytes :=
  let bytes := numberBytes n
  0x02 :: UInt8.ofNat bytes.length :: bytes

/-- The signature in bytes. -/
def bytes (sig : Signature) : Bytes :=
  let body := writeNumber sig.r ++ writeNumber sig.s
  0x30 :: UInt8.ofNat body.length :: body

/-- What stands behind a mark and a length, and what follows. Lengths of 128 and more are not read. -/
def readItem (mark : UInt8) : Bytes → Option (Bytes × Bytes)
  | m :: n :: rest =>
    if m = mark ∧ n < 0x80 ∧ n.toNat ≤ rest.length then some (rest.take n.toNat, rest.drop n.toNat) else none
  | _ => none

/-- The number that bytes spell in the one way that is read. -/
def readNumber (bs : Bytes) : Option Nat :=
  let n := Bytes.toNatBE bs
  if numberBytes n = bs then some n else none

/-- The signature that bytes spell. -/
def ofBytes? (bs : Bytes) : Option Signature := do
  let (body, rest) ← readItem 0x30 bs
  let (r, others) ← readItem 0x02 body
  let (s, others) ← readItem 0x02 others
  guard (rest.isEmpty && others.isEmpty)
  return ⟨← readNumber r, ← readNumber s⟩

/-! ## Nonces -/

/-- A source of nonces: a key and the value it was last used on. -/
structure Source where
  key : Bytes
  value : Bytes

namespace Source

/-- The source after `seed` was mixed in. -/
def mix (seed : Bytes) (g : Source) : Source :=
  let key := Sha256.hmac g.key (g.value ++ seed)
  ⟨key, Sha256.hmac key g.value⟩

/-- The source that belongs to a secret and a digest. -/
def of (secret digest : Bytes) : Source :=
  let seed := secret ++ digest
  ((Source.mk (List.replicate 32 0) (List.replicate 32 1)).mix (0 :: seed)).mix (1 :: seed)

/-- The next 32 bytes, and the source after them. -/
def next (g : Source) : Bytes × Source :=
  let value := Sha256.hmac g.key g.value
  (value, ⟨g.key, value⟩)

end Source

/-! ## Signing and verifying -/

/-- The signature with a given nonce, unless the nonce is out of range or a number of the signature would be zero. Of the
two signatures that differ in the sign of `s`, it is the one with the smaller `s`. -/
def withNonce? (secret digest nonce : Nat) : Option Signature := do
  guard (0 < nonce && nonce < Curve.order)
  let x ← (Curve.Point.generator.times nonce).x?
  let r := x % Curve.order
  let s := Curve.inverse Curve.order nonce * ((digest + r * secret) % Curve.order) % Curve.order
  guard (r != 0 && s != 0)
  return ⟨r, if Curve.order < 2 * s then Curve.order - s else s⟩

/-- The signature with the first nonce of a source that makes one, of `tries` nonces. -/
def search (secret digest : Nat) : (tries : Nat) → Source → Option Signature
  | 0, _ => none
  | tries + 1, g =>
    let (nonce, g) := g.next
    match withNonce? secret digest (Bytes.toNatBE nonce) with
    | some sig => some sig
    | none => search secret digest tries (g.mix [0])

/-- The signature of a digest, which counts modulo the order of the curve. A nonce fails with a chance of less than one
in `2 ^ 127`, and many are tried. -/
def sign? (secret : Nat) (digest : Bytes) : Option Signature :=
  let digest := Bytes.toNatBE digest % Curve.order
  search secret digest 64 (.of (Bytes.ofNatBE 32 secret) (Bytes.ofNatBE 32 digest))

/-- The point whose first coordinate tells whether the signature is good; `none` if a number of the signature is out of
range. -/
def witness? (key : Curve.Point) (digest : Nat) (sig : Signature) : Option Curve.Point :=
  if 0 < sig.r ∧ sig.r < Curve.order ∧ 0 < sig.s ∧ sig.s < Curve.order then
    let c := Curve.inverse Curve.order sig.s
    let u := digest * c % Curve.order
    let v := sig.r * c % Curve.order
    some ((Curve.Point.generator.times u).add (key.times v))
  else none

end Signature

end Remit
