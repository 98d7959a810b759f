import Remit.Error
import Remit.Number.Numeral
import Remit.Text.Case

/-!
# Settings

A setting has a name, a kind and a default. Its kind says what can be assigned to it, and how a value from the command
line, the environment or a file is understood.
-/

namespace Remit

namespace Setting

/-- What a setting is for. -/
inductive Kind where
  | text
  | decimal
  | toggle
  | path
  /-- Anything that a source holds; nothing can be assigned. -/
  | loose
deriving DecidableEq

end Setting

/-- A named setting. -/
structure Setting where
  name : Text
  kind : Setting.Kind
  default : Value

namespace Setting

/-- Checks that a value can be assigned as it is. -/
def check (s : Setting) (v : Value) : Except Error Unit :=
  match s.kind, v with
  | .text, .text _ | .path, .text _ | .decimal, .float _ | .toggle, .bool _ => .ok ()
  | .text, _ | .path, _ => .error (.settingKind s.name "string")
  | .decimal, _ => .error (.settingKind s.name "decimal")
  | .toggle, _ => .error (.settingKind s.name "true/false value")
  | .loose, _ => .error .notImplemented

/-- The decimal that ASCII bytes spell. -/
def decimalOfBytes? (bs : Bytes) : Option Binary64 :=
  if bs.all (· < 0x80) then Numeral.float? (bs.map fun b => Fin.ofNat _ b.toNat) else none

/-- What is said of a value that stands for no decimal. -/
def refusal (s : Setting) (v : Value) : Error := Error.raised (.invalidSetting s.name v)

/-- The decimal that a value stands for. A whole number beyond all decimals is an error of its own. -/
def decimalOf (s : Setting) (v : Value) : Except Error Binary64 :=
  let found (x : Option Binary64) : Except Error Binary64 :=
    match x with
    | some x => .ok x
    | none => .error (s.refusal v)
  match v with
  | .float x => .ok x
  | .bool b => found (Binary64.ofInt? b.toNat)
  | .int i =>
    match Binary64.ofInt? i with
    | some x => .ok x
    | none => .error .floatOverflow
  | .text t => found (Numeral.float? t)
  | .bytes bs => found (decimalOfBytes? bs)
  | _ => found none

/-- The words that switch a toggle on. -/
def onWords : List Text := ["1", "true", "yes", "on"]

/-- The truth that a value stands for: a text is true if it is one of a few words, any other value if it is not empty. -/
def truthOf : Value → Bool
  | .text t => onWords.contains (Text.lower t)
  | v => v.isTruthy

/-- What a value from outside means for the setting. -/
def parse (s : Setting) (v : Value) : Except Error Value :=
  match s.kind with
  | .decimal => (s.decimalOf v).map .float
  | .toggle => .ok (.bool (truthOf v))
  | .text | .path | .loose => .ok v

/-- The name of the environment variable of a setting of a name. -/
def variableOf (name : Text) : Text := "BSVALIAS_" ++ Text.upper name

/-- The name of the environment variable of a setting. -/
def environmentName (s : Setting) : Text := variableOf s.name

/-- A name as it is written in an option, with hyphens. -/
def hyphenated (s : Setting) : Text := s.name.map fun (c : CodePoint) => if c = '_' then '-' else c

end Setting

end Remit
