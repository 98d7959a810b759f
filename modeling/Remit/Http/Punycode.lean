import Remit.Text.Basic

/-!
# Punycode

Names of hosts in ASCII. The ASCII part of a label comes first; then the other code points, from the least to the
greatest, as distances between places in the label, each written as a number of variable length.
-/

namespace Remit.Http.Punycode

/-- The digit of a number below 36. -/
def digit (d : Nat) : CodePoint := Fin.ofNat _ (if d < 26 then 0x61 + d else 0x30 + d - 26)

/-- The greatest digit that may end a number at a place. -/
def threshold (bias place : Nat) : Nat := if place ≤ bias then 1 else if bias + 26 ≤ place then 26 else place - bias

/-- The digits of a number from a place on. A number has at most as many digits as `fuel`. -/
def digits (bias : Nat) : (fuel place n : Nat) → Text
  | 0, _, _ => []
  | fuel + 1, place, n =>
    let t := threshold bias place
    if n < t then [digit n]
    else digit (t + (n - t) % (36 - t)) :: digits bias fuel (place + 36) ((n - t) / (36 - t))

/-- Divides a distance by 35 until it is small, and counts the places. -/
def shrink : (fuel delta place : Nat) → Nat × Nat
  | 0, delta, place => (delta, place)
  | fuel + 1, delta, place => if 455 < delta then shrink fuel (delta / 35) (place + 36) else (delta, place)

/-- The bias after a distance, when `count` code points are written. -/
def adapt (delta count : Nat) (isFirst : Bool) : Nat :=
  let delta := if isFirst then delta / 700 else delta / 2
  let (delta, place) := shrink delta (delta + delta / count) 0
  place + 36 * delta / (delta + 38)

/-- How far a label is written. -/
structure State where
  written : Text := []
  delta : Nat := 0
  bias : Nat := 72
  count : Nat

/-- Looks at one code point of the label while those of number `n` are written. -/
def visit (basic n : Nat) (st : State) (c : CodePoint) : State :=
  if c.val < n then { st with delta := st.delta + 1 }
  else if c.val = n then
    { written := st.written ++ digits st.bias (st.delta + 1) 36 st.delta, delta := 0,
      bias := adapt st.delta (st.count + 1) (st.count == basic), count := st.count + 1 }
  else st

/-- Writes the code points with the given numbers, which ascend; all below `next` are written. -/
def writeFrom (label : Text) (basic next : Nat) : List Nat → State → State
  | [], st => st
  | n :: ns, st =>
    let st := label.foldl (visit basic n) { st with delta := st.delta + (n - next) * (st.count + 1) }
    writeFrom label basic (n + 1) ns { st with delta := st.delta + 1 }

/-- A label in ASCII. -/
def encode (label : Text) : Text :=
  let basic := label.filter CodePoint.isAscii
  let others := (((label.filter fun c => !CodePoint.isAscii c).map Fin.val).mergeSort (· ≤ ·)).eraseDups
  let front := if basic.isEmpty then basic else basic ++ "-"
  front ++ (writeFrom label basic.length 0x80 others { count := basic.length }).written

/-- A label as it stands in the name of a host. -/
def label (t : Text) : Text := if t.all CodePoint.isAscii then t else "xn--" ++ encode t

/-- The name of a host, label by label. -/
def host (t : Text) : Text := Text.joinWith "." ((Text.splitAll '.' t).map label)

end Remit.Http.Punycode
