import Remit.Json.Fault
import Remit.Number.Numeral
import Remit.Value

/-!
# Reading JSON

A value of a JSON text. Beyond the standard the reader takes the three numbers that are not finite, and escapes that
name lone surrogates; a repeated name keeps its first place and its last value. Every fault is reported with the
position, from zero, at which it was found.
-/

namespace Remit.Json

/-- What a reader leaves: a value, the position after it, and the text from there on. -/
abbrev Step := Value × Nat × Text

/-- A fault at a position, before lines and columns are counted. -/
inductive Stop where
  | at (problem : Problem) (position : Nat)
  | tooManyDigits (count : Nat)

/-- Is the code point skipped between the parts of a value? -/
def isSpace (c : CodePoint) : Bool := c = ' ' || c = '\t' || c = '\n' || c = '\r'

/-- Skips space. -/
def skipSpace (position : Nat) (t : Text) : Nat × Text :=
  let run := (t.takeWhile isSpace).length
  (position + run, t.drop run)

/-- The text after `word` where it starts with it. -/
def afterWord? (word : String) (t : Text) : Option Text :=
  let w := Text.ofString word
  if t.take w.length = w then some (t.drop w.length) else none

/-! ## Strings -/

/-- The code point of a one-letter escape. -/
def escape? (c : CodePoint) : Option CodePoint :=
  if c = '"' || c = '\\' || c = '/' then some c
  else if c = 'b' then some (Fin.ofNat _ 0x08) else if c = 'f' then some (Fin.ofNat _ 0x0c)
  else if c = 'n' then some '\n' else if c = 'r' then some '\r' else if c = 't' then some '\t' else none

/-- The number of four hexadecimal digits, if no more and no fewer are given. -/
def fourDigits? (t : Text) : Option Nat :=
  if t.length = 4 then
    t.foldl (fun n c => n.bind fun n => (CodePoint.hexDigit? c).map fun d => 16 * n + d) (some 0)
  else none

/-- The second half of a surrogate pair, written as an escape at the start of a text that goes on after it. -/
def lowHalf? (position : Nat) (t : Text) : Except Stop (Option Nat) :=
  match t with
  | a :: b :: rest =>
    if a = '\\' ∧ b = 'u' ∧ !(rest.drop 4).isEmpty then
      match fourDigits? (rest.take 4) with
      | none => .error (.at .invalidUnicodeEscape (position + 1))
      | some n => .ok (if 0xdc00 ≤ n ∧ n ≤ 0xdfff then some n else none)
    else .ok none
  | _ => .ok none

/-- Reads a string after its first quote, which stands at `start`; `done` holds its code points in reverse. -/
def readString (start : Nat) : (fuel position : Nat) → (done : Text) → Text → Except Stop (Text × Nat × Text)
  | 0, _, _, _ => .error (.at .unterminatedString start)
  | _ + 1, _, _, [] => .error (.at .unterminatedString start)
  | fuel + 1, position, done, c :: rest =>
    if c = '"' then .ok (done.reverse, position + 1, rest)
    else if c.val < 0x20 then .error (.at .controlCharacter position)
    else if c ≠ '\\' then readString start fuel (position + 1) (c :: done) rest
    else match rest with
      | [] => .error (.at .unterminatedString start)
      | e :: rest =>
        if e = 'u' then
          match (if (rest.drop 4).isEmpty then none else fourDigits? (rest.take 4)) with
          | none => .error (.at .invalidUnicodeEscape (position + 1))
          | some n =>
            let after := rest.drop 4
            if 0xd800 ≤ n ∧ n ≤ 0xdbff then
              match lowHalf? (position + 6) after with
              | .error stop => .error stop
              | .ok (some low) =>
                let joined := 0x10000 + (n - 0xd800) * 0x400 + (low - 0xdc00)
                readString start fuel (position + 12) (Fin.ofNat _ joined :: done) (after.drop 6)
              | .ok none => readString start fuel (position + 6) (Fin.ofNat _ n :: done) after
            else readString start fuel (position + 6) (Fin.ofNat _ n :: done) after
        else match escape? e with
          | some d => readString start fuel (position + 2) (d :: done) rest
          | none => .error (.at .invalidEscape position)

/-! ## Numbers -/

/-- The ASCII digits at the start of a text. -/
def digits (t : Text) : Text := t.takeWhile CodePoint.isAsciiDigit

/-- The value of ASCII digits. -/
def digitsValue (t : Text) : Nat := t.foldl (fun n c => 10 * n + (c.val - 48)) 0

/-- The digits before the point: a lone zero, or a run that starts with another digit. -/
def wholePart (t : Text) : Text :=
  match t with
  | [] => []
  | c :: _ => if c = '0' then [c] else digits t

/-- The digits after a point; none if the point does not belong to the number. -/
def fractionPart (t : Text) : Text :=
  match t with
  | c :: rest => if c = '.' then digits rest else []
  | [] => []

/-- An exponent with its mark: the sign, the digits, and how many code points they take. -/
def exponentPart (t : Text) : Option (Bool × Text × Nat) :=
  match t with
  | [] => none
  | c :: rest =>
    if c = 'e' || c = 'E' then
      let (negative, body) := Numeral.sign rest
      let run := digits body
      let signSize := match rest with
        | s :: _ => if s = '+' || s = '-' then 1 else 0
        | [] => 0
      if run.isEmpty then none else some (negative, run, 1 + signSize + run.length)
    else none

/-- Reads a number; `none` if none starts here. -/
def readNumber (position : Nat) (t : Text) : Except Stop (Option Step) :=
  let (negative, body) := match t with
    | c :: rest => if c = '-' then (true, rest) else (false, t)
    | [] => (false, t)
  let whole := wholePart body
  if whole.isEmpty then .ok none
  else
    let afterWhole := body.drop whole.length
    let fraction := fractionPart afterWhole
    let fractionSize := if fraction.isEmpty then 0 else fraction.length + 1
    let afterFraction := afterWhole.drop fractionSize
    let power := exponentPart afterFraction
    let powerSize := match power with
      | some (_, _, size) => size
      | none => 0
    let rest := afterFraction.drop powerSize
    let stop := position + (if negative then 1 else 0) + whole.length + fractionSize + powerSize
    if fraction.isEmpty && power.isNone then
      if Numeral.maxDigits < whole.length then .error (.tooManyDigits whole.length)
      else
        let n : Int := digitsValue whole
        .ok (some (.int (if negative then -n else n), stop, rest))
    else
      let scale : Int := match power with
        | some (true, run, _) => -(digitsValue run : Int)
        | some (false, run, _) => digitsValue run
        | none => 0
      .ok (some (.float (.ofDecimal negative (digitsValue (whole ++ fraction)) (scale - fraction.length)), stop, rest))

/-! ## Values -/

/-- Reads a word or a number. -/
def readScalar (position : Nat) (t : Text) : Except Stop Step :=
  let words : List (String × Value) :=
    [("null", .null), ("true", .bool true), ("false", .bool false), ("NaN", .float .nan),
      ("Infinity", .float (.infinite false)), ("-Infinity", .float (.infinite true))]
  let word := words.findSome? fun w => (afterWord? w.1 t).map fun rest => (w.2, position + w.1.length, rest)
  match word with
  | some step => .ok step
  | none =>
    match readNumber position t with
    | .error stop => .error stop
    | .ok (some step) => .ok step
    | .ok none => .error (.at .expectingValue position)

mutual

/-- Reads a value. -/
def readValue : (fuel position : Nat) → Text → Except Stop Step
  | 0, position, _ => .error (.at .expectingValue position)
  | _ + 1, position, [] => .error (.at .expectingValue position)
  | fuel + 1, position, c :: rest =>
    if c = '"' then
      match readString position (rest.length + 1) (position + 1) [] rest with
      | .error stop => .error stop
      | .ok (t, after, rest) => .ok (.text t, after, rest)
    else if c = '[' then
      match skipSpace (position + 1) rest with
      | (p, d :: rest) => if d = ']' then .ok (.list [], p + 1, rest) else readItems fuel p [] (d :: rest)
      | (p, []) => readItems fuel p [] []
    else if c = '\x7b' then
      match skipSpace (position + 1) rest with
      | (p, d :: rest) => if d = '\x7d' then .ok (.mapping [], p + 1, rest) else readEntries fuel p [] (d :: rest)
      | (p, []) => readEntries fuel p [] []
    else readScalar position (c :: rest)

/-- Reads the items of a list from one item on; `done` holds the items before it, in reverse. -/
def readItems : (fuel position : Nat) → (done : List Value) → Text → Except Stop Step
  | 0, position, _, _ => .error (.at .expectingValue position)
  | fuel + 1, position, done, t =>
    match readValue fuel position t with
    | .error stop => .error stop
    | .ok (v, p, rest) =>
      match skipSpace p rest with
      | (p, []) => .error (.at .expectingComma p)
      | (p, c :: rest) =>
        if c = ']' then .ok (.list (v :: done).reverse, p + 1, rest)
        else if c = ',' then
          let (p, rest) := skipSpace (p + 1) rest
          readItems fuel p (v :: done) rest
        else .error (.at .expectingComma p)

/-- Reads the entries of a mapping from one name on; `done` holds the entries before it. -/
def readEntries : (fuel position : Nat) → (done : List (Value × Value)) → Text → Except Stop Step
  | 0, position, _, _ => .error (.at .expectingName position)
  | _ + 1, position, _, [] => .error (.at .expectingName position)
  | fuel + 1, position, done, c :: rest =>
    if c ≠ '"' then .error (.at .expectingName position)
    else match readString position (rest.length + 1) (position + 1) [] rest with
      | .error stop => .error stop
      | .ok (name, p, rest) =>
        match skipSpace p rest with
        | (p, []) => .error (.at .expectingColon p)
        | (p, d :: rest) =>
          if d ≠ ':' then .error (.at .expectingColon p)
          else
            let (p, rest) := skipSpace (p + 1) rest
            match readValue fuel p rest with
            | .error stop => .error stop
            | .ok (v, p, rest) =>
              let done := (Value.text name, v) :: done
              match skipSpace p rest with
              | (p, []) => .error (.at .expectingComma p)
              | (p, e :: rest) =>
                if e = '\x7d' then .ok (Value.ofPairs done.reverse, p + 1, rest)
                else if e = ',' then
                  let (p, rest) := skipSpace (p + 1) rest
                  readEntries fuel p done rest
                else .error (.at .expectingComma p)

end

/-- The value of a text that holds one value and space around it. -/
def readText (t : Text) : Except Stop Value :=
  if t.head? = some (Fin.ofNat _ 0xfeff) then .error (.at .byteOrderMark 0)
  else
    let (p, rest) := skipSpace 0 t
    match readValue (2 * t.length + 2) p rest with
    | .error stop => .error stop
    | .ok (v, p, rest) =>
      match skipSpace p rest with
      | (_, []) => .ok v
      | (p, _ :: _) => .error (.at .extraData p)

/-- The value of a JSON text, or the fault with its place in the text. -/
def read (t : Text) : Except Fault Value :=
  match readText t with
  | .ok v => .ok v
  | .error (.at problem position) => .error (.syntaxError problem (.of t position))
  | .error (.tooManyDigits count) => .error (.tooManyDigits count)

end Remit.Json
