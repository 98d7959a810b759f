import Remit.Text.Basic
import Remit.Bytes

/-!
# Hexadecimal

Bytes as pairs of hexadecimal digits. Small letters are written, either case is read.
-/

namespace Remit.Hex

/-- Why a text is not hexadecimal. -/
inductive Fault where
  | notAscii
  | oddLength
  | notDigit
deriving DecidableEq

/-- What is said of a text that is not hexadecimal. -/
def Fault.message : Fault → Text
  | .notAscii => "string argument should contain only ASCII characters"
  | .oddLength => "Odd-length string"
  | .notDigit => "Non-hexadecimal digit found"

/-- The digit of a number below 16. -/
def digit (n : Nat) : CodePoint := if n < 10 then Fin.ofNat _ (0x30 + n) else Fin.ofNat _ (0x57 + n)

/-- The digits of a byte string. -/
def encode (bs : Bytes) : Text := bs.flatMap fun b => [digit (b.toNat / 16), digit (b.toNat % 16)]

/-- Reads pairs of digits; `done` holds the bytes before them, in reverse. -/
def pairs (done : Bytes) : Text → Except Fault Bytes
  | [] => .ok done.reverse
  | [_] => .error .oddLength
  | a :: b :: rest =>
    match CodePoint.hexDigit? a, CodePoint.hexDigit? b with
    | some high, some low => pairs (UInt8.ofNat (16 * high + low) :: done) rest
    | _, _ => .error .notDigit

/-- Reads digits. An odd number of them is refused before any digit is looked at. -/
def decodeDigits (t : Text) : Except Fault Bytes :=
  if t.length % 2 = 1 then .error .oddLength else pairs [] t

/-- Reads a text, which has to be ASCII. -/
def decode (t : Text) : Except Fault Bytes :=
  if t.all CodePoint.isAscii then decodeDigits t else .error .notAscii

/-- Reads bytes as if each were a code point. -/
def decodeBytes (bs : Bytes) : Except Fault Bytes := decodeDigits (bs.map fun b => Fin.ofNat _ b.toNat)

end Remit.Hex
