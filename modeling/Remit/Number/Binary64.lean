import Remit.Instances

/-!
# Binary floating point

The numbers of the 64-bit binary format, kept exact: a significand of at most 53 bits times a power of two, rounded to
nearest with ties to even. A finite number has one form: its exponent is the least that the format has, or its
significand has all 53 bits.
-/

namespace Remit

/-- A number of the 64-bit binary format; a finite one is `± significand * 2 ^ exponent`. -/
inductive Binary64 where
  | nan
  | infinite (negative : Bool)
  | finite (negative : Bool) (significand : Nat) (exponent : Int)
deriving DecidableEq, Inhabited

namespace Binary64

/-- The least exponent of the format. -/
def minExponent : Int := -1074

/-- The greatest exponent of the format. -/
def maxExponent : Int := 971

/-- Zero of either sign. -/
def zero (negative : Bool) : Binary64 := .finite negative 0 minExponent

/-- `num / (den * 2 ^ e)` as a ratio of natural numbers. -/
def scaleDown (num den : Nat) (e : Int) : Nat × Nat :=
  if 0 ≤ e then (num, den * 2 ^ e.toNat) else (num * 2 ^ (-e).toNat, den)

/-- A ratio rounded to a whole number, a half to the even neighbour. -/
def roundHalfEven (num den : Nat) : Nat :=
  let q := num / den
  let r := num % den
  if den < 2 * r || (2 * r == den && q % 2 == 1) then q + 1 else q

/-- The exponent at which a positive ratio has 53 bits before the point, or the least exponent. -/
def exponentOf (num den : Nat) : Int :=
  let low := max ((num.log2 : Int) - den.log2 - 53) minExponent
  let (n, d) := scaleDown num den low
  if n / d < 2 ^ 53 then low else low + 1

/-- The number nearest to `± num / den`. -/
def ofRatio (negative : Bool) (num den : Nat) : Binary64 :=
  if num = 0 then zero negative
  else
    let e := exponentOf num den
    let (n, d) := scaleDown num den e
    let m := roundHalfEven n d
    let (m, e) := if m = 2 ^ 53 then (2 ^ 52, e + 1) else (m, e)
    if maxExponent < e then .infinite negative else .finite negative m e

/-- The number nearest to `± digits * 10 ^ power`. Powers far outside the format are settled by their size alone. -/
def ofDecimal (negative : Bool) (digits : Nat) (power : Int) : Binary64 :=
  if digits = 0 then zero negative
  else
    let size : Int := (Nat.toDigits 10 digits).length + power
    if 400 < size then .infinite negative
    else if size < -400 then zero negative
    else if 0 ≤ power then ofRatio negative (digits * 10 ^ power.toNat) 1
    else ofRatio negative digits (10 ^ (-power).toNat)

/-- The number nearest to an integer, unless it is beyond the format. -/
def ofInt? (i : Int) : Option Binary64 :=
  match ofRatio (i < 0) i.natAbs 1 with
  | .infinite _ => none
  | x => some x

/-- The signed significand of a finite number at a lower exponent. -/
def significandAt (low : Int) (negative : Bool) (m : Nat) (e : Int) : Int :=
  let n : Int := m * 2 ^ (e - low).toNat
  if negative then -n else n

/-- The rounded sum. -/
def add : Binary64 → Binary64 → Binary64
  | .nan, _ | _, .nan => .nan
  | .infinite a, .infinite b => if a = b then .infinite a else .nan
  | .infinite a, _ | _, .infinite a => .infinite a
  | .finite a m e, .finite b n f =>
    let low := min e f
    let sum := significandAt low a m e + significandAt low b n f
    if sum = 0 then zero (a && b)
    else
      let (num, den) := scaleDown sum.natAbs 1 (-low)
      ofRatio (sum < 0) num den

/-- The rounded product with a finite number above zero. -/
def scale (x : Binary64) (n : Nat) (f : Int) : Binary64 :=
  match x with
  | .finite s m e =>
    let (num, den) := scaleDown (m * n) 1 (-(e + f))
    ofRatio s num den
  | x => x

/-- The number with the opposite sign. -/
def negate : Binary64 → Binary64
  | .nan => .nan
  | .infinite s => .infinite !s
  | .finite s m e => .finite (!s) m e

/-- Is it zero of either sign? -/
def isZero : Binary64 → Bool
  | .finite _ 0 _ => true
  | _ => false

/-- Equality of numbers: both zeros are equal, and not-a-number differs from itself. -/
def equals : Binary64 → Binary64 → Bool
  | .nan, _ | _, .nan => false
  | x, y => (x.isZero && y.isZero) || x == y

/-- How the number compares with an integer; not-a-number does not. -/
def compareInt? (x : Binary64) (i : Int) : Option Ordering :=
  match x with
  | .nan => none
  | .infinite s => some (if s then .lt else .gt)
  | .finite s m e =>
    let low := min e 0
    some (compare (significandAt low s m e) (i * 2 ^ (-low).toNat))

/-- How two numbers compare; not-a-number does not. -/
def compare? : Binary64 → Binary64 → Option Ordering
  | .nan, _ | _, .nan => none
  | .infinite a, .infinite b => some (compare b.toNat a.toNat)
  | .infinite a, _ => some (if a then .lt else .gt)
  | _, .infinite b => some (if b then .gt else .lt)
  | .finite a m e, .finite b n f =>
    let low := min e f
    some (compare (significandAt low a m e) (significandAt low b n f))

end Binary64

end Remit
