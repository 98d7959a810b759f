import Remit.Bytes
import Remit.Text.Basic

/-!
# Base 64

Bytes as text, six bits to a digit. Whatever is no digit is passed over, and what follows the marks at the end is not
read.
-/

namespace Remit.Base64

/-- The digits. -/
def alphabet : Text := "ABCDEFGHIJKLMNOPQRSTUVWXYZabcdefghijklmnopqrstuvwxyz0123456789+/"

/-- The value of a digit. -/
def digit? (c : CodePoint) : Option Nat := alphabet.idxOf? c

/-- The bytes of four digits, or of those that are there; a single digit makes no byte. -/
def bytesOf : List Nat → Bytes
  | [a, b] => [UInt8.ofNat (4 * a + b / 16)]
  | [a, b, c] => [UInt8.ofNat (4 * a + b / 16), UInt8.ofNat (b % 16 * 16 + c / 4)]
  | [a, b, c, d] => [UInt8.ofNat (4 * a + b / 16), UInt8.ofNat (b % 16 * 16 + c / 4), UInt8.ofNat (c % 4 * 64 + d)]
  | _ => []

/-- Reads text on, behind the digits of a group and the marks that follow them. -/
def decodeFrom? : (group : List Nat) → (marks : Nat) → Text → Option Bytes
  | group, _, [] => if group.isEmpty then some [] else none
  | group, marks, c :: rest =>
    if c = '=' then
      if 2 ≤ group.length then
        if 4 ≤ group.length + (marks + 1) then some (bytesOf group) else decodeFrom? group (marks + 1) rest
      else decodeFrom? group marks rest
    else match digit? c with
      | none => decodeFrom? group marks rest
      | some d =>
        if group.length = 3 then (decodeFrom? [] 0 rest).map (bytesOf (group ++ [d]) ++ ·)
        else decodeFrom? (group ++ [d]) 0 rest

/-- The bytes that a text spells. Its last group is complete or filled up with marks. -/
def decode? (t : Text) : Option Bytes := decodeFrom? [] 0 t

end Remit.Base64
