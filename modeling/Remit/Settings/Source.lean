import Remit.Arguments
import Remit.Settings.Basic
import Remit.Settings.Document

/-!
# Sources of settings

The layers that the command line, the environment and a file fill. The layer of a source is made apart and then takes the
place of the one that was there. A file that is not there is an empty source.
-/

namespace Remit

/-- What is found at a path. -/
inductive File where
  | missing
  | directory
  | content (bytes : Bytes)

/-- What a process finds around it: its host, the files by their paths, and what reads a file as a document. -/
structure Surroundings extends Host where
  file : Text → File
  readDocument : Document.Reader

namespace Layer

/-- The layer of the values that a source has under the names of settings. -/
def ofSource (source : Setting → Option Value) : List Setting → Except Error Layer
  | [] => .ok []
  | setting :: rest =>
    match source setting with
    | none => ofSource source rest
    | some v => do
      let v ← setting.parse v
      let layer ← ofSource source rest
      return (setting.name, v) :: layer

/-- What is said of a name in a file that no setting has. -/
def unknownName (name path : Text) : Text := "Ignoring unknown setting '" ++ name ++ "' in " ++ path

/-- The layer of the entries of a file, on top of `layer`, and the warnings up to the first fault. -/
def ofEntries (schema : List Setting) (path : Text) (layer : Layer) :
    List (Value × Value) → Except Error Layer × List Text
  | [] => (.ok layer, [])
  | (.text name, v) :: rest =>
    match schema.find? fun setting => setting.name == name with
    | some setting =>
      match setting.parse v with
      | .ok v => ofEntries schema path (layer.put name v) rest
      | .error e => (.error e, [])
    | none =>
      let (result, warnings) := ofEntries schema path layer rest
      (result, unknownName name path :: warnings)
  | _ :: _ => (.error .wrongType, [])

end Layer

namespace Settings

/-! ## Command line and environment -/

/-- The options of a setting. A toggle has one for either value. -/
def flagsOf (setting : Setting) : List Arguments.Flag :=
  let name := setting.hyphenated
  match setting.kind with
  | .toggle => [⟨"--" ++ name, setting.name, .put (.bool true)⟩, ⟨"--no-" ++ name, setting.name, .put (.bool false)⟩]
  | _ => [⟨"--" ++ name, setting.name, .take⟩]

/-- The options of all settings. -/
def flags (schema : List Setting) : List Arguments.Flag := schema.flatMap flagsOf

/-- The layer of the values that a source has under the names of settings. -/
def sourceLayer (source : Setting → Option Value) : Work Layer := do
  let s ← Work.current
  Work.ofExcept (Layer.ofSource source s.schema)

/-- Takes the values that the command line gives to settings. -/
def setArguments (given : List (Text × Value)) : Work Unit :=
  fill .arguments (sourceLayer fun setting => Layer.get? given setting.name)

/-- Takes the values of the environment's variables. -/
def setVariables (given : List (Text × Value)) : Work Unit :=
  fill .environment (sourceLayer fun setting => Layer.get? given setting.environmentName)

/-- Takes the values of the variables of a process. -/
def setEnvironment (env : Environment) : Work Unit := setVariables env.entries

/-! ## Files -/

/-- Text with all line ends alike. The feed that follows a return belongs to it. -/
def unifyLinesFrom (afterReturn : Bool) : Text → Text
  | [] => []
  | c :: rest =>
    if c = '\r' then '\n' :: unifyLinesFrom true rest
    else if afterReturn && c = '\n' then unifyLinesFrom false rest
    else c :: unifyLinesFrom false rest

/-- Text in which every line ends in the same way. -/
def unifyLines (t : Text) : Text := unifyLinesFrom false t

/-- The entries of a file with settings. An empty file has none. -/
def entriesOf (readDocument : Document.Reader) (path : Text) (content : Bytes) : Except Error (List (Value × Value)) := do
  let text ← (Utf8.decode content).mapError Error.decoding
  match ← (readDocument (unifyLines text)).mapError (Document.Fault.error path) with
  | .mapping entries => .ok entries
  | v => if v.isTruthy then .error (.configFormat path .notAMapping) else .ok []

/-- The extensions that a file with settings may have. -/
def extensions : List Value := [".yml", ".yaml"]

/-- Checks the extension of a path. -/
def checkExtension (path extension : Value) : Except Error Unit :=
  if extensions.any (· == extension) then .ok () else .error (.configFormat path (.unsupportedExtension extension))

/-- The path of a file with settings, whose extension has to be right. -/
def checkPath : Value → Except Error Text
  | .text path => (checkExtension path (.text (Path.extension '/' '.' path))).map fun _ => path
  | .bytes path =>
    (checkExtension (.bytes path) (.bytes (Path.extension 0x2f 0x2e path))).map fun _ => []
  | _ => .error .wrongType

/-- The layer of the file at a path. -/
def fileLayer (around : Surroundings) (path : Text) : Work Layer := do
  match around.file path with
  | .missing => return []
  | .directory => Work.ofExcept (.error (.configRead path))
  | .content bytes =>
    let entries ← Work.ofExcept (entriesOf around.readDocument path bytes)
    let (layer, warnings) := Layer.ofEntries (← Work.current).schema path [] entries
    Work.warn warnings
    Work.ofExcept layer

/-- The path that the settings themselves name. -/
def configPath (host : Host) (s : Settings) : Except Error Value := (s.get? host "config").getD (.ok .null)

/-- The path that is given, or else the one that the settings name. -/
def pathOr (host : Host) (s : Settings) : Value → Except Error Value
  | .null => s.configPath host
  | path => .ok path

/-- Takes the values of the file at a path, or else at the path that the settings name. An empty path changes nothing. -/
def setPersisted (around : Surroundings) (path : Value) : Work Unit := do
  let s ← Work.current
  let path ← Work.ofExcept (s.pathOr around.toHost path)
  if path.isTruthy then
    let path ← Work.ofExcept (checkPath path)
    fill .persisted (fileLayer around path)

/-! ## Changes -/

/-- What can happen to settings. -/
inductive Change where
  | assign (name : Text) (v : Value)
  | unset (name : Text)
  | arguments (given : List (Text × Value))
  | environment (given : List (Text × Value))
  | persisted (path : Value)

/-- The work of a change. -/
def Change.work (around : Surroundings) : Change → Work Unit
  | .assign name v => Settings.assign name v
  | .unset name => Settings.unset name
  | .arguments given => setArguments given
  | .environment given => setVariables given
  | .persisted path => setPersisted around path

/-- Does some work. The result, the settings after it, and the warnings that it leaves. -/
def perform (work : Work Unit) (s : Settings) : Except Error Unit × Settings × List Text := work.run (s, [])

/-- Takes the values that all three sources give. -/
def load (around : Surroundings) (given : List (Text × Value)) : Work Unit := do
  setArguments given
  setEnvironment around.environment
  setPersisted around .null

end Settings

end Remit
