import Remit.Crypto.Curve
import Remit.Error

/-!
# Public keys

A public key is a point of the curve, known by its 33 bytes.
-/

namespace Remit

/-- A public key. -/
structure PublicKey where
  point : Curve.Point

namespace PublicKey

/-- The bytes of a key. -/
def bytes (key : PublicKey) : Bytes := key.point.compressed

/-- The key that bytes hold. -/
def ofBytes (bs : Bytes) : Except Error PublicKey :=
  match bs with
  | mark :: x =>
    if x.length ≠ 32 then .error .publicKeyLength
    else if mark ≠ 2 ∧ mark ≠ 3 then .error .publicKeyHeader
    else match Curve.Point.ofX? (mark == 3) (Bytes.toNatBE x) with
      | some point => .ok ⟨point⟩
      | none => .error .publicKeyNotOnCurve
  | [] => .error .publicKeyLength

/-- The key that a value holds, which has to be bytes. -/
def ofValue : Value → Except Error PublicKey
  | .bytes bs => ofBytes bs
  | _ => .error .publicKeyNotBytes

/-- The key in hexadecimal. -/
def text (key : PublicKey) : Text := Hex.encode key.bytes

instance : BEq PublicKey := ⟨fun k l => k.bytes == l.bytes⟩

end PublicKey

end Remit
