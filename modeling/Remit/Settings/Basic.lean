import Remit.Settings.Path
import Remit.Settings.Setting

/-!
# Layers of settings

The values of settings lie in four layers: those assigned while the program runs, those of the command line, of the
environment and of a file. A setting has the value of the first layer that holds it, and else its default.
-/

namespace Remit

/-! ## One layer -/

/-- Values of settings from one source. -/
abbrev Layer := List (Text × Value)

namespace Layer

/-- The value under a name. -/
def get? (layer : Layer) (name : Text) : Option Value := (layer.find? fun e => e.1 == name).map (·.2)

/-- Is there a value under a name? -/
def holds (layer : Layer) (name : Text) : Bool := (layer.get? name).isSome

/-- Puts a value under a name. A name that is there keeps its place. -/
def put (name : Text) (v : Value) : Layer → Layer
  | [] => [(name, v)]
  | e :: rest => if e.1 == name then (name, v) :: rest else e :: put name v rest

/-- Removes the value under a name. -/
def erase (name : Text) (layer : Layer) : Layer := layer.filter fun e => e.1 != name

/-- The entries by name, in the order of the names. -/
def sorted (layer : Layer) : Layer := layer.mergeSort fun d e => decide (d.1.map Fin.val ≤ e.1.map Fin.val)

end Layer

/-- A value as it is read. A path is read without abbreviations. -/
def Setting.shown (host : Host) (setting : Setting) (v : Value) : Except Error Value :=
  match setting.kind, v with
  | .path, .text path => (Path.expand host path).map .text
  | _, v => .ok v

/-! ## All layers -/

/-- Where a value can lie, from the first place that is searched to the last. -/
inductive Settings.Place where
  | runtime
  | arguments
  | environment
  | persisted
deriving DecidableEq

/-- The settings that there are, in the order of their names, and their values in four layers. -/
structure Settings where
  schema : List Setting
  runtime : Layer := []
  arguments : Layer := []
  environment : Layer := []
  persisted : Layer := []

namespace Settings

/-- The places in the order of the search. -/
def Place.all : List Place := [.runtime, .arguments, .environment, .persisted]

/-- The layer at a place. -/
def layer (s : Settings) : Place → Layer
  | .runtime => s.runtime
  | .arguments => s.arguments
  | .environment => s.environment
  | .persisted => s.persisted

/-- The settings with another layer at a place. -/
def withLayer (place : Place) (layer : Layer) (s : Settings) : Settings :=
  match place with
  | .runtime => { s with runtime := layer }
  | .arguments => { s with arguments := layer }
  | .environment => { s with environment := layer }
  | .persisted => { s with persisted := layer }

/-- The setting under a name. -/
def setting? (s : Settings) (name : Text) : Option Setting := s.schema.find? fun setting => setting.name == name

/-- The places that hold a value under a name. -/
def locate (s : Settings) (name : Text) : List Place := Place.all.filter fun place => (s.layer place).holds name

/-- The value of a setting as its source has it. -/
def stored (s : Settings) (setting : Setting) : Value :=
  (Place.all.findSome? fun place => (s.layer place).get? setting.name).getD setting.default

/-- The value of a setting. -/
def read (host : Host) (s : Settings) (setting : Setting) : Except Error Value := setting.shown host (s.stored setting)

/-- The value of the setting under a name, if there is such a setting. -/
def get? (host : Host) (s : Settings) (name : Text) : Option (Except Error Value) := (s.setting? name).map (s.read host)

/-- All settings with their values. -/
def all (host : Host) (s : Settings) : Except Error Layer :=
  s.schema.mapM fun setting => do return (setting.name, ← s.read host setting)

/-! ## Work on settings -/

/-- Work on settings, which may leave warnings. What it did stays done when it fails later on. -/
abbrev Work (α : Type) := ExceptT Error (StateM (Settings × List Text)) α

namespace Work

/-- The settings as they are. -/
def current : Work Settings := fun desk => (.ok desk.1, desk)

/-- Changes the settings. -/
def update (f : Settings → Settings) : Work Unit := fun desk => (.ok (), (f desk.1, desk.2))

/-- Leaves warnings. -/
def warn (warnings : List Text) : Work Unit := fun desk => (.ok (), (desk.1, desk.2 ++ warnings))

/-- A result that changes nothing. -/
def ofExcept {α : Type} (result : Except Error α) : Work α := fun desk => (result, desk)

end Work

/-- Puts a layer that some work makes at a place. The layer that was there is dropped. -/
def fill (place : Place) (make : Work Layer) : Work Unit := do
  let layer ← make
  Work.update (withLayer place layer)

/-- Assigns a value while the program runs. The value is checked first. -/
def assign (name : Text) (v : Value) : Work Unit := do
  match (← Work.current).setting? name with
  | none => pure ()
  | some setting =>
    Work.ofExcept (setting.check v)
    Work.update fun s => { s with runtime := s.runtime.put name v }

/-- Takes back what was assigned. -/
def unset (name : Text) : Work Unit := Work.update fun s => { s with runtime := s.runtime.erase name }

/-- Assigns several values, one after the other. -/
def assignAll (values : List (Text × Value)) : Work Unit := values.forM fun e => assign e.1 e.2

end Settings

end Remit
