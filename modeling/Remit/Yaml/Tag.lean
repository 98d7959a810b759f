import Remit.Text.Basic

/-!
# Tags

What kind of data a part of a document stands for. Plain texts tell their kind by their form.
-/

namespace Remit.Yaml

/-- A kind of data. -/
inductive Tag where
  | null
  | bool
  | int
  | float
  | text
  | binary
  | timestamp
  | sequence
  | mapping
  /-- A key that brings in the entries of other mappings. -/
  | merge
  /-- The key of a default value. -/
  | value
  | unknown
deriving DecidableEq

namespace Tag

/-- The start of the names of the tags known here. -/
def standard : Text := "tag:yaml.org,2002:"

/-- The tag of a full name. -/
def ofName (name : Text) : Tag :=
  let table : List (String × Tag) :=
    [("null", .null), ("bool", .bool), ("int", .int), ("float", .float), ("str", .text), ("binary", .binary),
     ("timestamp", .timestamp), ("seq", .sequence), ("map", .mapping), ("merge", .merge), ("value", .value)]
  ((table.find? fun e => standard ++ e.1 = name).map (·.2)).getD .unknown

/-! ## The forms of plain texts -/

/-- Is a text one of several words? -/
def isWord (words : List String) (t : Text) : Bool := words.any fun w => Text.ofString w = t

/-- Text behind a sign. -/
def dropSign (t : Text) : Text :=
  match t with
  | c :: rest => if c = '+' || c = '-' then rest else t
  | [] => []

/-- Is the code point a digit or an underscore? -/
def isDigitPart (c : CodePoint) : Bool := CodePoint.isAsciiDigit c || c = '_'

/-- Is the text empty or the power of a number, with a sign? -/
def isPower (t : Text) : Bool :=
  match t with
  | [] => true
  | e :: sign :: digits =>
    (e = 'e' || e = 'E') && (sign = '+' || sign = '-') && !digits.isEmpty && digits.all CodePoint.isAsciiDigit
  | _ => false

/-- Is the text a digit below six and a digit, or a digit? -/
def isSixtieth (t : Text) : Bool :=
  match t with
  | [a] => CodePoint.isAsciiDigit a
  | [a, b] => CodePoint.isBetween '0' '5' a && CodePoint.isAsciiDigit b
  | _ => false

/-- Digits and underscores, the first one a digit. -/
def isWhole (t : Text) : Bool := (t.head?.any CodePoint.isAsciiDigit) && t.all isDigitPart

/-- Is the text a number with a point? -/
def isDecimal (t : Text) : Bool :=
  let body := dropSign t
  let (whole, rest) := body.span isDigitPart
  match rest with
  | c :: rest =>
    if c = '.' then
      let (fraction, power) := rest.span isDigitPart
      if whole.isEmpty then body.length == t.length && isWhole fraction && isPower power
      else isWhole whole && isPower power
    else false
  | [] => false

/-- Is the text a number with a point, written to the base sixty? -/
def isSexagesimalDecimal (t : Text) : Bool :=
  match Text.splitAll ':' (dropSign t) with
  | first :: others =>
    match others.getLast? with
    | none => false
    | some last =>
      let (digits, rest) := last.span (· != CodePoint.ofChar '.')
      isWhole first && others.dropLast.all isSixtieth && isSixtieth digits && !rest.isEmpty &&
        rest.tail.all isDigitPart
  | [] => false

/-- Is the text a number with a point, infinity or not-a-number? -/
def isFloat (t : Text) : Bool :=
  isDecimal t || isSexagesimalDecimal t || isWord [".inf", ".Inf", ".INF"] (dropSign t) ||
    isWord [".nan", ".NaN", ".NAN"] t

/-- Is the text a whole number? A zero in front makes it octal, and colons divide places of the base sixty. -/
def isInt (t : Text) : Bool :=
  match dropSign t with
  | [] => false
  | a :: rest =>
    let based (p : CodePoint → Bool) (digits : Text) : Bool := !digits.isEmpty && digits.all fun c => p c || c = '_'
    if a = '0' then
      match rest with
      | [] => true
      | b :: digits =>
        (b = 'b' && based (CodePoint.isBetween '0' '1') digits) ||
          (b = 'x' && based (fun c => (CodePoint.hexDigit? c).isSome) digits) ||
          based (CodePoint.isBetween '0' '7') rest
    else
      match Text.splitAll ':' (a :: rest) with
      | first :: others => isWhole first && others.all isSixtieth
      | [] => false

/-! ### Dates and times -/

/-- The parts of a date, with a time of day and a distance from universal time where they are given. -/
structure Timestamp where
  year : Nat
  month : Nat
  day : Nat
  /-- Hour, minute, second and the digits of a fraction of a second. -/
  time : Option (Nat × Nat × Nat × Text) := none
  /-- Seconds by which the clock is ahead. -/
  offset : Option Int := none

/-- The value of ASCII digits. -/
def digitsValue (t : Text) : Nat := t.foldl (fun n c => 10 * n + (c.val - 48)) 0

/-- A number of at least `least` and at most `most` digits at the start of a text. -/
def number? (least most : Nat) (t : Text) : Option (Nat × Text) :=
  let digits := (t.take most).takeWhile CodePoint.isAsciiDigit
  if least ≤ digits.length then some (digitsValue digits, t.drop digits.length) else none

/-- The text behind a mark. -/
def after? (mark : Char) (t : Text) : Option Text :=
  match t with
  | c :: rest => if c = mark then some rest else none
  | [] => none

/-- Is the code point a space or a tab? -/
def isSpace (c : CodePoint) : Bool := c = ' ' || c = '\t'

/-- The distance from universal time that a text says; `none` inside for a text that says nothing. -/
def offset? (t : Text) : Option (Option Int) :=
  if t.isEmpty then some none
  else
    match t.dropWhile isSpace with
    | [] => none
    | c :: rest =>
      if c = 'Z' then (if rest.isEmpty then some (some 0) else none)
      else if c = '+' || c = '-' then do
        let (hours, rest) ← number? 1 2 rest
        let minutes ← if rest.isEmpty then some 0 else do
          let (minutes, rest) ← number? 2 2 (← after? ':' rest)
          if rest.isEmpty then some minutes else none
        let seconds : Int := (hours * 3600 + minutes * 60 : Nat)
        return some (if c = '-' then -seconds else seconds)
      else none

/-- The date or time that a text spells. Without a time, month and day have two digits. -/
def timestamp? (t : Text) : Option Timestamp := do
  let (year, rest) ← number? 4 4 t
  let (month, rest) ← number? 1 2 (← after? '-' rest)
  let (day, rest) ← number? 1 2 (← after? '-' rest)
  match rest with
  | [] => if t.length = 10 then return { year, month, day } else none
  | c :: more =>
    let rest ← if c = 'T' || c = 't' then some more
      else if isSpace c then some (more.dropWhile isSpace) else none
    let (hour, rest) ← number? 1 2 rest
    let (minute, rest) ← number? 2 2 (← after? ':' rest)
    let (second, rest) ← number? 2 2 (← after? ':' rest)
    let (fraction, rest) := match after? '.' rest with
      | some rest => rest.span CodePoint.isAsciiDigit
      | none => ([], rest)
    return { year, month, day, time := some (hour, minute, second, fraction), offset := ← offset? rest }

/-- The tag of a plain text. -/
def ofPlain (t : Text) : Tag :=
  if isWord ["", "~", "null", "Null", "NULL"] t then .null
  else if isWord ["yes", "Yes", "YES", "no", "No", "NO", "true", "True", "TRUE", "false", "False", "FALSE",
      "on", "On", "ON", "off", "Off", "OFF"] t then .bool
  else if isFloat t then .float
  else if isInt t then .int
  else if isWord ["<<"] t then .merge
  else if (timestamp? t).isSome then .timestamp
  else if isWord ["="] t then .value
  else .text

end Tag

end Remit.Yaml
