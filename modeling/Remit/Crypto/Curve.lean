import Remit.Bytes

/-!
# The curve

The curve `y² = x³ + 7` over the field of a prime size, its points and their arithmetic. Sums are taken in Jacobian
coordinates, where `(x, y, z)` stands for `(x / z², y / z³)` and `z = 0` for the point at infinity, so that a product
with a number needs a single inversion.
-/

namespace Remit.Curve

/-- The size of the field, a prime. -/
def fieldSize : Nat := 0xfffffffffffffffffffffffffffffffffffffffffffffffffffffffefffffc2f

/-- The number of points, a prime. -/
def order : Nat := 0xfffffffffffffffffffffffffffffffebaaedce6af48a03bbfd25e8cd0364141

/-! ## Residues -/

/-- `base ^ exponent` modulo `m`, for an exponent of at most `width` bits. -/
def power (m : Nat) : (width base exponent : Nat) → Nat
  | 0, _, _ => 1 % m
  | width + 1, base, exponent =>
    let rest := power m width (base * base % m) (exponent / 2)
    if exponent % 2 = 1 then base * rest % m else rest

/-- The inverse of a residue modulo a prime, by Fermat's theorem; zero for zero. -/
def inverse (m a : Nat) : Nat := power m 256 a (m - 2)

/-- The difference of two residues. -/
def sub (a b : Nat) : Nat := (a + (fieldSize - b)) % fieldSize

/-- The product of two residues. -/
def mul (a b : Nat) : Nat := a * b % fieldSize

/-- What the square of the second coordinate has to be. -/
def rightSide (x : Nat) : Nat := (x * x % fieldSize * x + 7) % fieldSize

/-! ## Points -/

/-- A point of the curve. -/
inductive Point where
  | infinity
  | affine (x y : Nat)
deriving DecidableEq

/-- A point in Jacobian coordinates. -/
structure Jacobian where
  x : Nat
  y : Nat
  z : Nat

namespace Jacobian

/-- The point at infinity. -/
def infinity : Jacobian := ⟨1, 1, 0⟩

/-- The sum of a point with itself. -/
def double (p : Jacobian) : Jacobian :=
  let yy := mul p.y p.y
  let s := mul 4 (mul p.x yy)
  let m := mul 3 (mul p.x p.x)
  let x := sub (mul m m) (mul 2 s)
  ⟨x, sub (mul m (sub s x)) (mul 8 (mul yy yy)), mul 2 (mul p.y p.z)⟩

/-- The sum with a point that has coordinates `x` and `y`. -/
def addAffine (p : Jacobian) (x y : Nat) : Jacobian :=
  if p.z = 0 then ⟨x, y, 1⟩
  else
    let zz := mul p.z p.z
    let h := sub (mul x zz) p.x
    let r := sub (mul y (mul zz p.z)) p.y
    if h = 0 then (if r = 0 then p.double else infinity)
    else
      let hh := mul h h
      let hhh := mul h hh
      let v := mul p.x hh
      let x := sub (sub (mul r r) hhh) (mul 2 v)
      ⟨x, sub (mul r (sub v x)) (mul p.y hhh), mul p.z h⟩

/-- The product of `k`, a number of at most `width` bits, with the point at `x` and `y`. -/
def times (x y : Nat) : (width k : Nat) → Jacobian
  | 0, _ => infinity
  | width + 1, k =>
    let twice := (times x y width (k / 2)).double
    if k % 2 = 1 then twice.addAffine x y else twice

/-- The point itself. -/
def toPoint (p : Jacobian) : Point :=
  if p.z = 0 then .infinity
  else
    let inv := inverse fieldSize p.z
    let inv2 := mul inv inv
    .affine (mul p.x inv2) (mul p.y (mul inv2 inv))

end Jacobian

namespace Point

/-- The point whose multiples are all points. -/
def generator : Point :=
  .affine 0x79be667ef9dcbbac55a06295ce870b07029bfcdb2dce28d959f2815b16f81798
    0x483ada7726a3c4655da4fbfc0e1108a8fd17b448a68554199c47d08ffb10d4b8

/-- The sum of two points. -/
def add : Point → Point → Point
  | .infinity, q => q
  | p, .infinity => p
  | .affine x₁ y₁, .affine x₂ y₂ => ((⟨x₁, y₁, 1⟩ : Jacobian).addAffine x₂ y₂).toPoint

/-- The product of a number below `2 ^ 256` with a point. -/
def times (k : Nat) : Point → Point
  | .infinity => .infinity
  | .affine x y => (Jacobian.times x y 256 k).toPoint

/-- The first coordinate, which the point at infinity lacks. -/
def x? : Point → Option Nat
  | .infinity => none
  | .affine x _ => some x

/-- A point in 33 bytes: a mark that tells whether the second coordinate is odd, and the first coordinate. -/
def compressed : Point → Bytes
  | .infinity => [0]
  | .affine x y => (if y % 2 = 0 then 2 else 3) :: Bytes.ofNatBE 32 x

/-- The point with first coordinate `x` and a second one that is odd or not. There is none if `x` is too large or the
right side has no root; a root, if there is one, is its power by `(fieldSize + 1) / 4`. -/
def ofX? (odd : Bool) (x : Nat) : Option Point :=
  let square := rightSide x
  let root := power fieldSize 256 square ((fieldSize + 1) / 4)
  if x < fieldSize ∧ mul root root = square then
    some (.affine x (if (root % 2 == 1) == odd then root else fieldSize - root))
  else none

end Point

end Remit.Curve
