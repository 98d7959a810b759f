import Remit.Number.Binary64
import Remit.Text.Basic

/-!
# Shortest decimals

The text of a floating-point number: the fewest digits that read back as the same number and, of those, the nearest.
For each count of digits only the two neighbours of the number on that decimal grid can qualify, and both are tested
against the interval of reals that round to it.
-/

namespace Remit.Binary64

/-- Compares `c * 10 ^ p` with `x * 2 ^ u`. -/
def compareDecimal (c : Nat) (p : Int) (x : Nat) (u : Int) : Ordering :=
  compare (c * 10 ^ p.toNat * 2 ^ (-u).toNat) (x * 2 ^ u.toNat * 10 ^ (-p).toNat)

/-- The `k` with `10 ^ (k - 1) ≤ m * 2 ^ e < 10 ^ k`, for a positive `m`. -/
def magnitude (m : Nat) (e : Int) : Int :=
  let num := m * 2 ^ e.toNat
  let den := 2 ^ (-e).toNat
  if den ≤ num then (Nat.toDigits 10 (num / den)).length
  else
    let q := (den + num - 1) / num
    if q = 1 then 1 else 1 - (Nat.toDigits 10 (q - 1)).length

/-- Does `c * 10 ^ p` round to the number with significand `m` and exponent `e`? The ends of the interval do if the
significand is even. -/
def readsBack (m : Nat) (e : Int) (c : Nat) (p : Int) : Bool :=
  let below := if m = 2 ^ 52 ∧ minExponent < e then 4 * m - 1 else 4 * m - 2
  let atEnds := m % 2 == 0
  let low := compareDecimal c p below (e - 2)
  let high := compareDecimal c p (4 * m + 2) (e - 2)
  (low == .gt || (atEnds && low == .eq)) && (high == .lt || (atEnds && high == .eq))

/-- The best decimal with `count` digits for a number below `10 ^ k`, if one reads back. -/
def nearestAt? (m : Nat) (e k : Int) (count : Nat) : Option (Nat × Int) :=
  let p := k - count
  let num := m * 2 ^ e.toNat * 10 ^ (-p).toNat
  let den := 2 ^ (-e).toNat * 10 ^ p.toNat
  let c := num / den
  let low := readsBack m e c p
  let high := readsBack m e (c + 1) p
  if low && high then
    let r := 2 * (num % den)
    some (if r < den || (r == den && c % 2 == 0) then c else c + 1, p)
  else if low then some (c, p)
  else if high then some (c + 1, p)
  else none

/-- Tries one digit more each time, up to the 17 that always suffice. -/
def searchFrom (m : Nat) (e k : Int) : (left count : Nat) → Nat × Int
  | 0, _ => (m, 0)
  | left + 1, count =>
    match nearestAt? m e k count with
    | some found => found
    | none => searchFrom m e k left (count + 1)

/-- A decimal without the zeros at its end. -/
def trimZeros : (fuel : Nat) → Nat × Int → Nat × Int
  | 0, d => d
  | fuel + 1, (c, p) => if c ≠ 0 ∧ c % 10 = 0 then trimZeros fuel (c / 10, p + 1) else (c, p)

/-- The shortest decimal `c * 10 ^ p` that reads back as `m * 2 ^ e`, for a positive `m`. -/
def shortest (m : Nat) (e : Int) : Nat × Int :=
  trimZeros 20 (searchFrom m e (magnitude m e) 17 1)

/-- The text of a positive decimal: positional if its first digit stands between the fourth place after the point and
the sixteenth before it, and with an exponent of at least two digits otherwise. Whole numbers keep a zero after the
point in positional form. -/
def decimalText (c : Nat) (p : Int) : Text :=
  let digits := Text.ofNat c
  let point : Int := digits.length + p
  let zeros (n : Nat) : Text := List.replicate n '0'
  if -4 < point ∧ point ≤ 16 then
    if point ≤ 0 then "0." ++ zeros (-point).toNat ++ digits
    else if 0 ≤ p then digits ++ zeros p.toNat ++ ".0"
    else digits.take point.toNat ++ "." ++ digits.drop point.toNat
  else
    let fraction : Text := digits.drop 1
    let mark : Text := if fraction.isEmpty then [] else "." ++ fraction
    let power := point - 1
    let sign : Text := if power < 0 then "-" else "+"
    digits.take 1 ++ mark ++ "e" ++ sign ++ Text.decimalPadded 2 power.natAbs

/-- The text of a number. -/
def text : Binary64 → Text
  | .nan => "nan"
  | .infinite false => "inf"
  | .infinite true => "-inf"
  | .finite negative m e =>
    let sign : Text := if negative then "-" else ""
    if m = 0 then sign ++ "0.0"
    else
      let (c, p) := shortest m e
      sign ++ decimalText c p

end Remit.Binary64
