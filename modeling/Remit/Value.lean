import Remit.Bytes
import Remit.Calendar
import Remit.Number.Numeral
import Remit.Number.Shortest
import Remit.Text.Quoted

/-!
# Values

What callers, services and configuration files hand over before it is checked: data of any kind. A mapping keeps the
order in which its keys were first entered.
-/

namespace Remit

/-- Data of any kind. -/
inductive Value where
  | null
  | bool (b : Bool)
  | int (i : Int)
  | float (x : Binary64)
  | text (t : Text)
  | bytes (b : Bytes)
  | list (items : List Value)
  | mapping (entries : List (Value × Value))
  | date (day : Date)
  | moment (instant : Moment)
  /-- Parts in another form, which nothing here takes apart: what it is called, how many parts it has, and how it is shown
  if it can be. It stands for sets, for pairs, and for what is part of itself. -/
  | other (kind : Text) (length : Nat) (shown? : Option Text)
deriving Inhabited

namespace Value

instance : Coe Text Value := ⟨.text⟩
instance : Coe String Value := ⟨fun s => .text (Text.ofString s)⟩
instance : Coe Bytes Value := ⟨.bytes⟩
instance : Coe Int Value := ⟨.int⟩
instance : Coe Nat Value := ⟨fun n => .int n⟩

/-! ## Kinds -/

/-- What a message calls data of this kind. -/
def kindName : Value → Text
  | .null => "NoneType"
  | .bool _ => "bool"
  | .int _ => "int"
  | .float _ => "float"
  | .text _ => "str"
  | .bytes _ => "bytes"
  | .list _ => "list"
  | .mapping _ => "dict"
  | .date _ => "date"
  | .moment _ => "datetime"
  | .other kind .. => kind

/-- The whole number that a value stands for; a truth value stands for 0 or 1. -/
def toInt? : Value → Option Int
  | .bool b => some b.toNat
  | .int i => some i
  | _ => none

/-- The text that a value is. -/
def toText? : Value → Option Text
  | .text t => some t
  | _ => none

/-- The number of parts of a value that has parts. -/
def length? : Value → Option Nat
  | .text t => some t.length
  | .bytes b => some b.length
  | .list items => some items.length
  | .mapping entries => some entries.length
  | .other _ length _ => some length
  | _ => none

/-- Everything counts as true but nothing, zero, and what has no parts. -/
def isTruthy : Value → Bool
  | .null => false
  | .bool b => b
  | .int i => i != 0
  | .float x => !x.isZero
  | .text t => !t.isEmpty
  | .bytes b => !b.isEmpty
  | .list items => !items.isEmpty
  | .mapping entries => !entries.isEmpty
  | .date _ | .moment _ => true
  | .other _ length _ => length != 0

/-- May the value be a key? Lists and mappings may not. -/
def isKey : Value → Bool
  | .list _ | .mapping _ | .other .. => false
  | _ => true

/-! ## Equality -/

mutual

/-- How deeply lists and mappings are nested in a value. -/
def depth : Value → Nat
  | .list items => depthList items + 1
  | .mapping entries => depthEntries entries + 1
  | _ => 0

/-- The greatest depth in a list. -/
def depthList : List Value → Nat
  | [] => 0
  | v :: vs => max (depth v) (depthList vs)

/-- The greatest depth in the entries of a mapping. -/
def depthEntries : List (Value × Value) → Nat
  | [] => 0
  | (k, v) :: rest => max (max (depth k) (depth v)) (depthEntries rest)

end

/-- Equality of values that are nested at most `fuel` deep. Numbers of different kinds are equal if they are the same
number, lists if their items are, mappings if they hold the same entries in any order. -/
def equalsWithin : (fuel : Nat) → Value → Value → Bool
  | 0, _, _ => false
  | fuel + 1, v, w =>
    match v, w with
    | .null, .null => true
    | .text t, .text u => t == u
    | .bytes b, .bytes c => b == c
    | .date d, .date e => d == e
    | .moment m, .moment n => m == n
    | .other kind length shown?, .other kind' length' shown?' =>
      kind == kind' && length == length' && shown? == shown?'
    | .float x, .float y => x.equals y
    | .float x, w => (w.toInt?.map fun i => x.compareInt? i == some .eq).getD false
    | v, .float y => (v.toInt?.map fun i => y.compareInt? i == some .eq).getD false
    | .list xs, .list ys =>
      xs.length == ys.length && (xs.zip ys).all fun p => equalsWithin fuel p.1 p.2
    | .mapping xs, .mapping ys =>
      xs.length == ys.length &&
        xs.all fun x => ys.any fun y => equalsWithin fuel x.1 y.1 && equalsWithin fuel x.2 y.2
    | v, w =>
      match v.toInt?, w.toInt? with
      | some i, some j => i == j
      | _, _ => false

/-- Equality of values. -/
def equals (v w : Value) : Bool := equalsWithin (depth v + 1) v w

instance : BEq Value := ⟨equals⟩

/-! ## Mappings -/

/-- The value under a key. -/
def lookup? (key : Value) (entries : List (Value × Value)) : Option Value :=
  (entries.find? fun e => e.1 == key).map (·.2)

/-- Puts a value under a key. A key that is there keeps its place. -/
def insert (key value : Value) : List (Value × Value) → List (Value × Value)
  | [] => [(key, value)]
  | e :: rest => if e.1 == key then (e.1, value) :: rest else e :: insert key value rest

/-- The mapping that results from entering pairs in order. -/
def ofPairs (pairs : List (Value × Value)) : Value :=
  .mapping (pairs.foldl (fun entries p => insert p.1 p.2 entries) [])

/-! ## Text of a value -/

mutual

/-- Can the value be shown? A whole number of too many digits cannot, and neither can what holds one. -/
def isShowable : Value → Bool
  | .int i => i.natAbs < 10 ^ Numeral.maxDigits
  | .list items => areShowable items
  | .mapping entries => areEntriesShowable entries
  | .other _ _ shown? => shown?.isSome
  | _ => true

/-- Can the items of a list be shown? -/
def areShowable : List Value → Bool
  | [] => true
  | v :: vs => isShowable v && areShowable vs

/-- Can the entries of a mapping be shown? -/
def areEntriesShowable : List (Value × Value) → Bool
  | [] => true
  | (k, v) :: rest => isShowable k && isShowable v && areEntriesShowable rest

end

/-- The fields of a moment as a constructor's arguments; seconds and microseconds are left out if nothing follows. -/
def momentArguments (m : Moment) : List Text :=
  let fields := [m.date.year, m.date.month, m.date.day, m.hour, m.minute].map Text.ofNat
  let seconds := if m.microsecond = 0 then (if m.second = 0 then [] else [Text.ofNat m.second])
    else [Text.ofNat m.second, Text.ofNat m.microsecond]
  let zone : List Text := match m.offset with
    | none => []
    | some 0 => ["tzinfo=datetime.timezone.utc"]
    | some offset =>
      let days : Text := if offset < 0 then "days=-1, " else ""
      ["tzinfo=datetime.timezone(datetime.timedelta(" ++ days ++ "seconds=" ++
        Text.ofInt (offset % 86400) ++ "))"]
  fields ++ seconds ++ zone

mutual

/-- A value as it is shown inside a list or mapping. -/
def quoted : Value → Text
  | .null => "None"
  | .bool b => if b then "True" else "False"
  | .int i => Text.ofInt i
  | .float x => x.text
  | .text t => Text.quoted t
  | .bytes b => Text.quotedBytes b
  | .list items => "[" ++ Text.joinWith ", " (quotedList items) ++ "]"
  | .mapping entries => "\x7b" ++ Text.joinWith ", " (quotedEntries entries) ++ "\x7d"
  | .date d => "datetime.date(" ++ Text.joinWith ", " ([d.year, d.month, d.day].map Text.ofNat) ++ ")"
  | .moment m => "datetime.datetime(" ++ Text.joinWith ", " (momentArguments m) ++ ")"
  | .other _ _ shown? => shown?.getD []

/-- The items of a list. -/
def quotedList : List Value → List Text
  | [] => []
  | v :: vs => quoted v :: quotedList vs

/-- The entries of a mapping. -/
def quotedEntries : List (Value × Value) → List Text
  | [] => []
  | (k, v) :: rest => (quoted k ++ ": " ++ quoted v) :: quotedEntries rest

end

/-- A value as it is shown in a message. -/
def shown : Value → Text
  | .text t => t
  | .date d => d.text
  | .moment m => m.text
  | v => quoted v

end Value

end Remit
