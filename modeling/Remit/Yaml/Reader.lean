import Remit.Base64
import Remit.Number.Numeral
import Remit.Text.Case
import Remit.Yaml.Node
import Remit.Yaml.Tokens

/-!
# Reading documents

The value of a document. Dates and numbers of an allowed form can still be wrong in themselves, and their faults are
reported as such; all other faults only say that the text is no document.
-/

namespace Remit.Yaml

/-! ## Texts of known kinds -/

/-- The value of digits of a base without underscores; `none` for other characters. -/
def basedValue? (base : Nat) (digits : Text) : Option Nat :=
  digits.foldl (fun n c => n.bind fun n =>
    ((CodePoint.hexDigit? c).or (Text.digit? c)).bind fun d => if d < base then some (base * n + d) else none) (some 0)

/-- The letter that marks a base behind a zero. -/
def baseMark? (base : Nat) : Option Char :=
  if base = 2 then some 'b' else if base = 8 then some 'o' else if base = 16 then some 'x' else none

/-- The digits of a numeral, behind a zero and the mark of the base if these stand in front of them. -/
def dropBaseMark (base : Nat) (t : Text) : Text :=
  match t with
  | a :: b :: digits =>
    if a = '0' && (baseMark? base).any (fun m => b = CodePoint.ofChar m || b = CodePoint.ofChar m.toUpper) then digits
    else t
  | _ => t

/-- The whole number that a numeral of a base spells. There may be white space around it, a sign and the mark of the
base. -/
def basedInt (base : Nat) (t : Text) : Except Fault Int :=
  let (negative, body) := Numeral.sign (Text.trim Text.isNumberBlank t)
  let digits := dropBaseMark base body
  match (if digits.isEmpty then none else basedValue? base digits) with
  | some n => .ok (if negative then -n else n)
  | none => .error (.badNumeral base t)

/-- The whole number that decimal digits spell. -/
def decimalInt (t : Text) : Except Fault Int :=
  let digits := (t.filter fun c => (Text.digit? c).isSome).length
  if Numeral.maxDigits < digits then .error (.tooManyDigits digits)
  else match Numeral.int? t with
    | some i => .ok i
    | none => .error (.badNumeral 10 t)

/-- The value of places of the base sixty, the last one first. -/
def sixtieths (places : List Int) : Int := places.foldr (fun place sum => place + 60 * sum) 0

/-- The whole number that a text without sign and underscores spells. -/
def unsignedInt (t : Text) : Except Fault Int :=
  match t with
  | a :: b :: digits =>
    if a = '0' && b = 'b' then basedInt 2 digits
    else if a = '0' && b = 'x' then basedInt 16 digits
    else if a = '0' then basedInt 8 t
    else if t.contains ':' then ((Text.splitAll ':' t).mapM decimalInt).map fun places => sixtieths places.reverse
    else decimalInt t
  | _ => decimalInt t

/-- Text without underscores. -/
def dropUnderscores (t : Text) : Text := t.filter fun (c : CodePoint) => c != '_'

/-- Is there a minus in front? -/
def isNegative (t : Text) : Bool := t.head? = some '-'

/-- The whole number that a text spells. -/
def intOf (t : Text) : Except Fault Value :=
  let t := dropUnderscores t
  let body := Tag.dropSign t
  if body.isEmpty then .error .noNumeral
  else do
    let n ← unsignedInt body
    return .int (if isNegative t then -n else n)

/-- The number with a point that a text spells. -/
def decimalOf (t : Text) : Except Fault Binary64 :=
  match Numeral.float? t with
  | some x => .ok x
  | none => .error (.badDecimal t)

/-- The sum of places of the base sixty, the last one first, from a place value on. The values of the places are rounded
themselves, and must not be beyond all of these numbers. -/
def floatSixtieths : (unit : Nat) → (sum : Binary64) → List Binary64 → Except Fault Binary64
  | _, sum, [] => .ok sum
  | unit, sum, x :: xs =>
    match Binary64.ofRatio false unit 1 with
    | .finite _ n f => floatSixtieths (60 * unit) (sum.add (x.scale n f)) xs
    | _ => .error .floatOverflow

/-- The number with a point that a text spells. -/
def floatOf (t : Text) : Except Fault Value :=
  let t := Text.lower (dropUnderscores t)
  let body := Tag.dropSign t
  if t.isEmpty then .error .noNumeral
  else do
    let x ← if body = ".inf" then pure (Binary64.infinite false)
      else if body = ".nan" then pure Binary64.nan
      else if body.contains ':' then do
        let places ← (Text.splitAll ':' body).mapM decimalOf
        floatSixtieths 1 (.zero false) places.reverse
      else decimalOf body
    return .float (if isNegative t then x.negate else x)

/-- The bytes that a text spells. -/
def binaryOf (t : Text) : Except Fault Value :=
  match (if t.all (·.val < 128) then Base64.decode? t else none) with
  | some bytes => .ok (.bytes bytes)
  | none => .error .notYaml

/-- The day of a timestamp. -/
def dateOf (s : Tag.Timestamp) : Except Fault Date :=
  if s.year = 0 then .error (.dateField "year 0 is out of range")
  else if s.month = 0 ∨ 12 < s.month then .error (.dateField "month must be in 1..12")
  else if s.day = 0 ∨ Date.daysInMonth s.year s.month < s.day then
    .error (.dateField "day is out of range for month")
  else .ok ⟨s.year, s.month, s.day⟩

/-- A distance in time, as it is shown in a message. -/
def distanceText (seconds : Int) : Text :=
  let days := seconds / 86400
  let rest := seconds % 86400
  let parts : List Text := (if days = 0 then [] else ["days=" ++ Text.ofInt days]) ++
    (if rest = 0 then [] else ["seconds=" ++ Text.ofInt rest])
  let inside : Text := if parts.isEmpty then "0" else Text.joinWith ", " parts
  "datetime.timedelta(" ++ inside ++ ")"

/-- Requires that a clock is less than a day ahead or behind. -/
def checkOffset (seconds : Int) : Except Fault Unit :=
  if seconds.natAbs < 86400 then .ok ()
  else .error (.dateField ("offset must be a timedelta strictly between -timedelta(hours=24) and " ++
    "timedelta(hours=24), not " ++ distanceText seconds ++ "."))

/-- The first six digits of a fraction, as millionths. -/
def millionths (fraction : Text) : Nat :=
  let digits := fraction.take 6
  Tag.digitsValue digits * 10 ^ (6 - digits.length)

/-- The day or moment that a text spells. -/
def timestampOf (t : Text) : Except Fault Value :=
  match Tag.timestamp? t with
  | none => .error .notTimestamp
  | some s =>
    match s.time with
    | none => (dateOf s).map .date
    | some (hour, minute, second, fraction) => do
      checkOffset (s.offset.getD 0)
      let date ← dateOf s
      if 23 < hour then .error (.dateField "hour must be in 0..23")
      else if 59 < minute then .error (.dateField "minute must be in 0..59")
      else if 59 < second then .error (.dateField "second must be in 0..59")
      else return .moment ⟨date, hour, minute, second, millionths fraction, s.offset⟩

/-- The truth value that a word stands for. -/
def boolOf (t : Text) : Except Fault Value :=
  let word := Text.lower t
  if Tag.isWord ["yes", "true", "on"] word then .ok (.bool true)
  else if Tag.isWord ["no", "false", "off"] word then .ok (.bool false)
  else .error (.unknownWord word)

/-- The value of a text of some kind. -/
def scalarValue (tag : Tag) (t : Text) : Except Fault Value :=
  match tag with
  | .null => .ok .null
  | .bool => boolOf t
  | .int => intOf t
  | .float => floatOf t
  | .text => .ok (.text t)
  | .binary => binaryOf t
  | .timestamp => timestampOf t
  | .sequence | .mapping | .merge | .value | .unknown => .error .notYaml

/-! ## Nodes -/

mutual

/-- The value of a node. The keys of a mapping are neither lists nor mappings. -/
def Node.value : Node → Except Fault Value
  | .scalar tag content => scalarValue tag content
  | .sequence tag items => if tag = .sequence then (Node.values items).map .list else .error .notYaml
  | .mapping tag entries => if tag = .mapping then (Node.pairs entries).map Value.ofPairs else .error .notYaml
  | .unmergeable => .error .notYaml

/-- The values of nodes. -/
def Node.values : List Node → Except Fault (List Value)
  | [] => .ok []
  | n :: ns => do
    let v ← Node.value n
    let vs ← Node.values ns
    return v :: vs

/-- The keys and values of entries. -/
def Node.pairs : List (Node × Node) → Except Fault (List (Value × Value))
  | [] => .ok []
  | (k, v) :: entries => do
    let key ← Node.value k
    if !key.isKey then .error .notYaml
    else
      let value ← Node.value v
      let rest ← Node.pairs entries
      return (key, value) :: rest

end

/-! ## Faults -/

/-- Faults by the level of the tree at which they show, in order within a level. -/
abbrev Faults := List (List Fault)

/-- The faults of two parts that stand side by side. -/
def Faults.beside : Faults → Faults → Faults
  | [], others => others
  | faults, [] => faults
  | level :: faults, other :: others => (level ++ other) :: beside faults others

/-- The first fault: the first one of the uppermost level that has any. -/
def Faults.first? (faults : Faults) : Option Fault := faults.flatten.head?

mutual

/-- The faults of a node. What a collection holds is one level further down. -/
def Node.faults : Node → Faults
  | .scalar tag content =>
    match scalarValue tag content with
    | .ok _ => []
    | .error e => if tag = .sequence ∨ tag = .mapping then [[], [e]] else [[e]]
  | .sequence tag items =>
    if tag = .sequence then [] :: Node.faultsOfItems items
    else if tag = .mapping then [[], [.notYaml]]
    else [[.notYaml]]
  | .mapping tag entries =>
    if tag = .mapping then [] :: Node.faultsOfEntries entries
    else if tag = .sequence then [[], [.notYaml]]
    else [[.notYaml]]
  | .unmergeable => [[], [.notYaml]]

/-- The faults of the items of a list. -/
def Node.faultsOfItems : List Node → Faults
  | [] => []
  | n :: ns => (Node.faults n).beside (Node.faultsOfItems ns)

/-- The faults of the entries of a mapping. A list or mapping is no key. -/
def Node.faultsOfEntries : List (Node × Node) → Faults
  | [] => []
  | (k, v) :: entries =>
    let unfit : Faults := match k with
      | .scalar .. => []
      | _ => [[.notYaml]]
    ((Node.faults k).beside unfit).beside ((Node.faults v).beside (Node.faultsOfEntries entries))

end

/-- The value of a document, however deeply its collections are nested. Of several faults the uppermost one is reported. -/
def read (t : Text) : Except Fault Value := do
  let tokens ← tokens t
  match Node.ofTokens? tokens with
  | some node =>
    match node.faults.first? with
    | some e => .error e
    | none => node.value
  | none => .error .notYaml

/-- The reader of documents in YAML. -/
def reader : Document.Reader := fun t => (read t).mapError Fault.ofDocument

end Remit.Yaml
