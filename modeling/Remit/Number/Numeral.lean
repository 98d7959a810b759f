import Remit.Number.Binary64
import Remit.Text.Blank
import Remit.Text.Digit

/-!
# Numerals

Numbers as people write them: white space around, a sign, digits of any script, and single underscores between digits.
A whole number is read exactly and may have at most 4300 digits; a decimal is rounded to the nearest binary number.
-/

namespace Remit.Numeral

/-- The most digits that a whole number may have. -/
def maxDigits : Nat := 4300

/-- The value of decimal digits. -/
def value (digits : List Nat) : Nat := digits.foldl (fun n d => 10 * n + d) 0

/-- A sign in front of a numeral, and the rest. -/
def sign : Text → Bool × Text
  | [] => (false, [])
  | c :: rest => if c = '-' then (true, rest) else if c = '+' then (false, rest) else (false, c :: rest)

/-- Removes the underscores of a numeral. Each of them has to stand between two digits. -/
def dropUnderscores (afterDigit : Bool) : Text → Option Text
  | [] => some []
  | c :: rest =>
    if c = '_' then
      match rest with
      | d :: _ => if afterDigit && (Text.digit? d).isSome then dropUnderscores false rest else none
      | [] => none
    else (dropUnderscores (Text.digit? c).isSome rest).map (c :: ·)

/-- The digits at the start of a text, and the rest. -/
def leadingDigits (t : Text) : List Nat × Text :=
  let run := t.takeWhile fun c => (Text.digit? c).isSome
  (run.filterMap Text.digit?, t.drop run.length)

/-- The whole number that a text spells. -/
def int? (t : Text) : Option Int := do
  let (negative, body) := sign (Text.trim Text.isNumberBlank t)
  let (digits, rest) := leadingDigits (← dropUnderscores false body)
  guard (rest.isEmpty && !digits.isEmpty && digits.length ≤ maxDigits)
  let n : Int := value digits
  return if negative then -n else n

/-- An ASCII text in small letters. -/
def smallAscii (t : Text) : Text := t.map fun c => if CodePoint.isBetween 'A' 'Z' c then Fin.ofNat _ (c.val + 32) else c

/-- The power of ten written after a mantissa. -/
def exponent? : Text → Option Int
  | [] => some 0
  | c :: rest => do
    guard (c = 'e' || c = 'E')
    let (negative, body) := sign rest
    let (digits, rest) := leadingDigits body
    guard (rest.isEmpty && !digits.isEmpty)
    let n : Int := value digits
    return if negative then -n else n

/-- The decimal that a text without sign, white space and underscores spells. -/
def decimal? (negative : Bool) (t : Text) : Option Binary64 := do
  let (whole, rest) := leadingDigits t
  let (fraction, rest) := match rest with
    | c :: after => if c = '.' then leadingDigits after else ([], rest)
    | [] => ([], [])
  guard (!(whole.isEmpty && fraction.isEmpty))
  let power ← exponent? rest
  return .ofDecimal negative (value (whole ++ fraction)) (power - fraction.length)

/-- The binary number that a text spells: a decimal, an infinity or not-a-number. -/
def float? (t : Text) : Option Binary64 :=
  let (negative, body) := sign (Text.trim Text.isNumberBlank t)
  let name := smallAscii body
  if name = "inf" ∨ name = "infinity" then some (.infinite negative)
  else if name = "nan" then some .nan
  else (dropUnderscores false body).bind (decimal? negative)

end Remit.Numeral
