import Remit.Bytes
import Remit.Text.Basic

/-!
# UTF-8

Encoding refuses surrogates; decoding refuses overlong forms, surrogates, numbers beyond the last code point and
sequences that break off. Each refusal names the place, as a range of positions.
-/

namespace Remit.Utf8

/-- A run of surrogates met while encoding: the first one and the closed range of positions. -/
structure EncodeFault where
  first : CodePoint
  start : Nat
  last : Nat
deriving DecidableEq

/-- Why bytes are no UTF-8. -/
inductive Problem where
  | invalidStart
  | invalidContinuation
  | endOfData
deriving DecidableEq

/-- Bytes that are no UTF-8: the first one, the closed range of positions and the reason. -/
structure DecodeFault where
  first : UInt8
  start : Nat
  last : Nat
  problem : Problem
deriving DecidableEq

/-- The bytes of one code point, whether or not it may be written. -/
def bytesOf (c : CodePoint) : Bytes :=
  let n := c.val
  if n < 0x80 then [UInt8.ofNat n]
  else if n < 0x800 then [UInt8.ofNat (0xc0 + n / 0x40), UInt8.ofNat (0x80 + n % 0x40)]
  else if n < 0x10000 then
    [UInt8.ofNat (0xe0 + n / 0x1000), UInt8.ofNat (0x80 + n / 0x40 % 0x40), UInt8.ofNat (0x80 + n % 0x40)]
  else
    [UInt8.ofNat (0xf0 + n / 0x40000), UInt8.ofNat (0x80 + n / 0x1000 % 0x40),
      UInt8.ofNat (0x80 + n / 0x40 % 0x40), UInt8.ofNat (0x80 + n % 0x40)]

/-- The bytes of a text. The first run of surrogates is refused. -/
def encode (t : Text) : Except EncodeFault Bytes :=
  match t.span fun c => !CodePoint.isSurrogate c with
  | (_, []) => .ok (t.flatMap bytesOf)
  | (before, c :: rest) =>
    let run := (rest.takeWhile CodePoint.isSurrogate).length
    .error ⟨c, before.length, before.length + run⟩

/-- The byte that a surrogate stands for in text that came from the system, where stray bytes are kept in this form. -/
def strayByte? (c : CodePoint) : Option UInt8 :=
  if 0xdc80 ≤ c.val ∧ c.val < 0xdd00 then some (UInt8.ofNat (c.val - 0xdc00)) else none

/-- The bytes of a text that goes to the system: stray bytes become themselves again. From the first surrogate that is no
such byte on, a run is refused. -/
def encodeForSystem (t : Text) : Except EncodeFault Bytes :=
  match t.span fun c => !CodePoint.isSurrogate c || (strayByte? c).isSome with
  | (_, []) => .ok (t.flatMap fun c => ((strayByte? c).map fun b => [b]).getD (bytesOf c))
  | (before, c :: rest) =>
    let run := (rest.takeWhile CodePoint.isSurrogate).length
    .error ⟨c, before.length, before.length + run⟩

/-- Does a byte carry six bits of a longer sequence? -/
def isContinuation (b : UInt8) : Bool := 0x80 ≤ b && b < 0xc0

/-- May `b` follow the first byte of a sequence of three or four? Overlong forms, surrogates and numbers that are too
large already show here. -/
def isSecond (first b : UInt8) : Bool :=
  isContinuation b &&
    (if first == 0xe0 then 0xa0 ≤ b else if first == 0xed then b < 0xa0
      else if first == 0xf0 then 0x90 ≤ b else if first == 0xf4 then b < 0x90 else true)

/-- The six bits that a continuation carries. -/
def sixBits (b : UInt8) : Nat := b.toNat % 0x40

/-- Decodes what stands at `position`; `done` holds the code points before it, in reverse. -/
def decodeFrom (position : Nat) (done : Text) : Bytes → Except DecodeFault Text
  | [] => .ok done.reverse
  | a :: r₁ =>
    let fault (count : Nat) (problem : Problem) : Except DecodeFault Text :=
      .error ⟨a, position, position + count - 1, problem⟩
    if a < 0x80 then decodeFrom (position + 1) (Fin.ofNat _ a.toNat :: done) r₁
    else if a < 0xc2 || 0xf5 ≤ a then fault 1 .invalidStart
    else match r₁ with
      | [] => fault 1 .endOfData
      | b :: r₂ =>
        if a < 0xe0 then
          if isContinuation b then
            decodeFrom (position + 2) (Fin.ofNat _ ((a.toNat - 0xc0) * 0x40 + sixBits b) :: done) r₂
          else fault 1 .invalidContinuation
        else if !isSecond a b then fault 1 .invalidContinuation
        else match r₂ with
          | [] => fault 2 .endOfData
          | c :: r₃ =>
            if !isContinuation c then fault 2 .invalidContinuation
            else if a < 0xf0 then
              decodeFrom (position + 3)
                (Fin.ofNat _ ((a.toNat - 0xe0) * 0x1000 + sixBits b * 0x40 + sixBits c) :: done) r₃
            else match r₃ with
              | [] => fault 3 .endOfData
              | d :: r₄ =>
                if !isContinuation d then fault 3 .invalidContinuation
                else decodeFrom (position + 4)
                  (Fin.ofNat _ ((a.toNat - 0xf0) * 0x40000 + sixBits b * 0x1000 + sixBits c * 0x40 + sixBits d)
                    :: done) r₄

/-- The text of bytes. -/
def decode (bs : Bytes) : Except DecodeFault Text := decodeFrom 0 [] bs

namespace EncodeFault

/-- What is said of text that cannot be encoded. -/
def message (f : EncodeFault) : Text :=
  if f.start = f.last then
    let n := f.first.val
    let shown := if n < 0x100 then "\\x" ++ Text.hexPadded 2 n
      else if n < 0x10000 then "\\u" ++ Text.hexPadded 4 n
      else "\\U" ++ Text.hexPadded 8 n
    "'utf-8' codec can't encode character '" ++ shown ++ "' in position " ++
      Text.ofNat f.start ++ ": surrogates not allowed"
  else
    "'utf-8' codec can't encode characters in position " ++ Text.ofNat f.start ++
      "-" ++ Text.ofNat f.last ++ ": surrogates not allowed"

end EncodeFault

/-- The reason in words. -/
def Problem.message : Problem → Text
  | .invalidStart => "invalid start byte"
  | .invalidContinuation => "invalid continuation byte"
  | .endOfData => "unexpected end of data"

namespace DecodeFault

/-- What is said of bytes that cannot be decoded. -/
def message (f : DecodeFault) : Text :=
  let place := if f.start = f.last then
      "byte 0x" ++ Text.hexPadded 2 f.first.toNat ++ " in position " ++
        Text.ofNat f.start
    else "bytes in position " ++ Text.ofNat f.start ++ "-" ++ Text.ofNat f.last
  "'utf-8' codec can't decode " ++ place ++ ": " ++ f.problem.message

end DecodeFault

end Remit.Utf8
