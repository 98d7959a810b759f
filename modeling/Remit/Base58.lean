import Remit.Crypto.Sha256
import Remit.Error

/-!
# Base 58

Bytes as a number written with 58 digits, one leading digit for each leading zero byte, and the same with four bytes of
a hash at the end that guard against typing errors.
-/

namespace Remit.Base58

/-- The digits: figures and letters without those that look alike. -/
def alphabet : Text := "123456789ABCDEFGHJKLMNPQRSTUVWXYZabcdefghijkmnopqrstuvwxyz"

/-- The value of a digit. -/
def digit? (c : CodePoint) : Option Nat := alphabet.idxOf? c

/-- The digit of a value below 58. -/
def digit (n : Nat) : CodePoint := alphabet.getD n '1'

/-- The digits of `n`, least significant first, at most `fuel` of them. -/
def digits : (fuel : Nat) → (n : Nat) → Text
  | 0, _ => []
  | fuel + 1, n => if n = 0 then [] else digit (n % 58) :: digits fuel (n / 58)

/-- The value of digits, most significant first. The first character that is no digit is refused. -/
def value (t : Text) : Except Error Nat :=
  t.foldlM (fun n c => match digit? c with
    | some d => .ok (58 * n + d)
    | none => .error (.base58Character c)) 0

/-- The bytes of a text. -/
def decode (t : Text) : Except Error Bytes :=
  if t.isEmpty then .error .base58Empty
  else do
    let n ← value t
    return List.replicate (t.takeWhile (· == digit 0)).length 0 ++ Bytes.minimalBE n

/-- The text of bytes. -/
def encode (bs : Bytes) : Text :=
  let n := Bytes.toNatBE bs
  List.replicate (bs.takeWhile (· == 0)).length (digit 0) ++ (digits (2 * bs.length) n).reverse

/-- The bytes of a text that ends in a check. The text is named as `shown` if the check fails. -/
def decodeCheckAs (shown : Text) (hash : Bytes → Bytes) (t : Text) : Except Error Bytes := do
  let bs ← decode t
  let payload := bs.take (bs.length - 4)
  if bs.drop (bs.length - 4) == (hash payload).take 4 then return payload
  else .error (.base58Checksum shown)

/-- The bytes of a text that ends in a check. -/
def decodeCheck (t : Text) (hash : Bytes → Bytes := Sha256.doubleHash) : Except Error Bytes :=
  decodeCheckAs t hash t

/-- The text of bytes, with a check at the end. -/
def encodeCheck (payload : Bytes) (hash : Bytes → Bytes := Sha256.doubleHash) : Text :=
  encode (payload ++ (hash payload).take 4)

/-- The text that a value stands for: itself, or what its bytes encode. -/
def textOf : Value → Except Error Text
  | .text t => .ok t
  | .bytes b => (Utf8.decode b).mapError .decoding
  | _ => .error .textRequired

/-- The bytes of a value that stands for a text. -/
def decodeValue (v : Value) : Except Error Bytes := do decode (← textOf v)

/-- The bytes of a value that stands for a text with a check. -/
def decodeCheckValue (v : Value) (hash : Bytes → Bytes := Sha256.doubleHash) : Except Error Bytes := do
  decodeCheckAs v.shown hash (← textOf v)

end Remit.Base58
