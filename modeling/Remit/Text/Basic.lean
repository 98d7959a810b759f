import Remit.Instances

/-!
# Text

Text is a list of code points. Lone surrogates are code points too: they can be held, compared and shown, and only
an encoder refuses them.
-/

namespace Remit

/-- A code point, surrogates included. -/
abbrev CodePoint := Fin 0x110000

/-- A text of any code points. -/
abbrev Text := List CodePoint

instance CodePoint.instNeZero : @NeZero Nat Zero.ofOfNat0 0x110000 := ⟨Nat.succ_ne_zero _⟩

namespace CodePoint

/-- The code point of a character. -/
def ofChar (c : Char) : CodePoint := Fin.ofNat 0x110000 c.toNat

instance : Coe Char CodePoint := ⟨ofChar⟩

/-- Is the code point half of a pair that only a 16-bit encoding knows? -/
def isSurrogate (c : CodePoint) : Bool := 0xd800 ≤ c.val && c.val ≤ 0xdfff

/-- The character of a code point, if it is not a surrogate. -/
def toChar? (c : CodePoint) : Option Char :=
  if h : c.val.isValidChar then some (Char.ofNatAux c.val h) else none

/-- Does the code point lie between two characters, both included? -/
def isBetween (first last : Char) (c : CodePoint) : Bool :=
  first.toNat ≤ c.val && c.val ≤ last.toNat

/-- Is the code point one of `0` to `9`? -/
def isAsciiDigit (c : CodePoint) : Bool := isBetween '0' '9' c

/-- Is the code point an ASCII letter? -/
def isAsciiLetter (c : CodePoint) : Bool := isBetween 'a' 'z' c || isBetween 'A' 'Z' c

/-- Is the code point one of the first 128? -/
def isAscii (c : CodePoint) : Bool := c.val < 0x80

/-- The value of a hexadecimal digit of either case. -/
def hexDigit? (c : CodePoint) : Option Nat :=
  if isBetween '0' '9' c then some (c.val - 0x30)
  else if isBetween 'a' 'f' c then some (c.val - 0x61 + 10)
  else if isBetween 'A' 'F' c then some (c.val - 0x41 + 10)
  else none

end CodePoint

namespace Text

/-- The text of a string. -/
def ofString (s : String) : Text := s.toList.map CodePoint.ofChar

instance : Coe String Text := ⟨ofString⟩

/-- The string of a text, with a replacement character for each surrogate. -/
def toString (t : Text) : String :=
  String.ofList (t.map fun c => (CodePoint.toChar? c).getD '\ufffd')

/-- Is the code point one of those written in `chars`? -/
def isOneOf (chars : String) (c : CodePoint) : Bool := chars.toList.any fun d => c == CodePoint.ofChar d

/-- The parts of a text with `separator` between them. -/
def joinWith (separator : Text) : List Text → Text
  | [] => []
  | [t] => t
  | t :: ts => t ++ separator ++ joinWith separator ts

/-- Text up to the first `mark`, and what follows the mark if there is one. -/
def splitFirst (mark : CodePoint) (t : Text) : Text × Option Text :=
  match t.span (· != mark) with
  | (before, _ :: after) => (before, some after)
  | (before, []) => (before, none)

/-- The parts of a text between the marks. -/
def splitAll (mark : CodePoint) (t : Text) : List Text :=
  let parts := t.foldr (fun c (current, done) => if c = mark then ([], current :: done) else (c :: current, done))
    (([], []) : Text × List Text)
  parts.1 :: parts.2

/-- Text without the code points of a class at its start. -/
def dropStart (p : CodePoint → Bool) (t : Text) : Text := t.dropWhile p

/-- Text without the code points of a class at its end. -/
def dropEnd (p : CodePoint → Bool) (t : Text) : Text := (t.reverse.dropWhile p).reverse

/-- Text without the code points of a class at either end. -/
def trim (p : CodePoint → Bool) (t : Text) : Text := dropEnd p (dropStart p t)

/-- Decimal digits of a natural number. -/
def ofNat (n : Nat) : Text := (Nat.toDigits 10 n).map CodePoint.ofChar

/-- Decimal digits of an integer, with a sign if it is negative. -/
def ofInt : Int → Text
  | .ofNat n => ofNat n
  | .negSucc n => CodePoint.ofChar '-' :: ofNat (n + 1)

/-- `n` in hexadecimal with small letters, padded with zeros to `width` digits. -/
def hexPadded (width n : Nat) : Text :=
  let digits := (Nat.toDigits 16 n).map CodePoint.ofChar
  List.replicate (width - digits.length) (CodePoint.ofChar '0') ++ digits

/-- `n` in decimal, padded with zeros to `width` digits. -/
def decimalPadded (width n : Nat) : Text :=
  let digits := ofNat n
  List.replicate (width - digits.length) (CodePoint.ofChar '0') ++ digits

end Text

end Remit
