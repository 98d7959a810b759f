import Remit.Base58
import Remit.Crypto.Signature
import Remit.Key.Public

/-!
# Private keys

A private key is a number from 1 to the order of the curve, the order excluded, and the name of the network it is used
on. It is loaded from bytes, from hexadecimal, or from its import format: a version byte that names the network, the
secret and, for keys used with short public keys, a byte 1, all in base 58 with a check.
-/

namespace Remit

/-- A private key. -/
structure PrivateKey where
  secret : Nat
  network : Value
  isValid : 0 < secret ∧ secret < Curve.order

namespace PrivateKey

/-- The networks that the import format knows, with their version bytes. -/
def versions : List (UInt8 × String) := [(0x80, "mainnet"), (0xef, "testnet")]

/-- The network of a key that is loaded without one. -/
def defaultNetwork : Value := "mainnet"

/-- The key with a secret of 32 bytes. -/
def ofBytes (bs : Bytes) (network : Value := defaultNetwork) : Except Error PrivateKey :=
  if bs.length ≠ 32 then .error (.invalidPrivateKey .privateKeyLength)
  else
    let secret := Bytes.toNatBE bs
    if h : 0 < secret ∧ secret < Curve.order then .ok ⟨secret, network, h⟩
    else .error (.invalidPrivateKey (.secretOutOfRange Curve.order))

/-- The key with a secret that a value holds, which has to be bytes. -/
def ofValue (v : Value) (network : Value := defaultNetwork) : Except Error PrivateKey :=
  match v with
  | .bytes bs => ofBytes bs network
  | _ => .error (.invalidPrivateKey .privateKeyNotBytes)

/-- The key with a secret in hexadecimal. -/
def ofHex (v : Value) (network : Value := defaultNetwork) : Except Error PrivateKey :=
  let load (decoded : Except Hex.Fault Bytes) : Except Error PrivateKey :=
    match decoded with
    | .ok bs => ofBytes bs network
    | .error _ => .error (.invalidPrivateKey .privateKeyNotHex)
  match v with
  | .text t => load (Hex.decode t)
  | .bytes bs => load (Hex.decodeBytes bs)
  | _ => .error .wrongType

/-- The secret behind a version byte, less the byte 1 that may end it. -/
def secretPart (bs : Bytes) : Bytes :=
  if bs.length = 33 ∧ bs.getLast? = some 1 then bs.dropLast else bs

/-- The key that the bytes of the import format hold. -/
def ofPayload (payload : Bytes) : Except Error PrivateKey :=
  match payload with
  | [] => .error (.invalidPrivateKey .unknownVersionByte)
  | version :: rest =>
    match versions.lookup version with
    | none => .error (.invalidPrivateKey .unknownVersionByte)
    | some network => ofBytes (secretPart rest) network

/-- The key in import format. Bytes that are no UTF-8 are not said to be a bad key. -/
def ofImport (v : Value) : Except Error PrivateKey :=
  match Base58.decodeCheckValue v with
  | .ok payload => ofPayload payload
  | .error (.decoding fault) => .error (.decoding fault)
  | .error reason => .error (.invalidPrivateKey reason)

/-- The first of the candidates that is the secret of a key. -/
def generate? (candidates : List Bytes) (network : Value := defaultNetwork) : Option PrivateKey :=
  candidates.findSome? fun bs => (ofBytes bs network).toOption

/-- The 32 bytes of the secret. -/
def bytes (key : PrivateKey) : Bytes := Bytes.ofNatBE 32 key.secret

/-- The public key that belongs to the key. -/
def publicKey (key : PrivateKey) : PublicKey := ⟨Curve.Point.generator.times key.secret⟩

/-- The key in import format, for use with short public keys. The network has to be one that the format knows. -/
def importText (key : PrivateKey) : Except Error Text :=
  match versions.find? fun v => (Value.text v.2) == key.network with
  | some (version, _) => .ok (Base58.encodeCheck (version :: key.bytes ++ [1]))
  | none => .error .unknownNetwork

/-- The written signature of a digest of 32 bytes. -/
def signDigest (key : PrivateKey) (digest : Bytes) : Except Error Bytes :=
  if digest.length ≠ 32 then .error .digestLength
  else match Signature.sign? key.secret digest with
    | some sig => .ok sig.bytes
    | none => .error .noNonce

/-- A short text that names the key by its public part. -/
def label (key : PrivateKey) : Text := "PrivateKey(" ++ key.publicKey.text ++ ")"

end PrivateKey

end Remit
