import Remit.Error
import Remit.Text.Utf8

/-!
# Paths

Where a file is. Variables of the environment and a home directory in front can be abbreviated. What they stand for is
asked of the system, to which names go as bytes.
-/

namespace Remit

/-- The variables of a process. -/
abbrev Environment := List (Text × Text)

namespace Environment

/-- The value of a variable. Names are told apart by their bytes. -/
def get? (env : Environment) (name : Text) : Except Error (Option Text) := do
  let key ← (Utf8.encodeForSystem name).mapError Error.encoding
  return (env.find? fun e => (Utf8.encodeForSystem e.1).toOption == some key).map (·.2)

/-- The variables as names and values. -/
def entries (env : Environment) : List (Text × Value) := env.map fun e => (e.1, .text e.2)

end Environment

/-- What a process knows of its host: its variables, the directory for a user's settings, and where users are at home, the
one who runs it and those of other names. -/
structure Host where
  environment : Environment
  settingsDirectory : Text
  ownHome? : Option Text
  homeOf? : Bytes → Option Text

namespace Host

/-- The home directory of the user of a name; without a name, of the one who runs the process. -/
def home? (host : Host) (name : Text) : Except Error (Option Text) := do
  if name.isEmpty then return (← host.environment.get? "HOME").or host.ownHome?
  else
    let key ← (Utf8.encodeForSystem name).mapError Error.encoding
    if key.contains 0 then .error .embeddedNull else return host.homeOf? key

end Host

namespace Path

/-! ## Abbreviations -/

/-- May the code point be part of a variable's name that stands without braces? -/
def isWordPart (c : CodePoint) : Bool := CodePoint.isAsciiLetter c || CodePoint.isAsciiDigit c || c = '_'

/-- The variable named behind a dollar sign, and the number of code points that name it. -/
def reference? : Text → Option (Text × Nat)
  | [] => none
  | c :: rest =>
    if c = '\x7b' then
      let name := rest.takeWhile fun (d : CodePoint) => d != '\x7d'
      if name.length < rest.length then some (name, name.length + 2) else none
    else
      let name := (c :: rest).takeWhile isWordPart
      if name.isEmpty then none else some (name, name.length)

/-- The path with the values of the variables in it, from behind the next `skip` code points on. An unknown variable stays
as it is written. -/
def expandVariablesFrom (env : Environment) : (skip : Nat) → Text → Except Error Text
  | _, [] => .ok []
  | skip + 1, _ :: rest => expandVariablesFrom env skip rest
  | 0, c :: rest =>
    match if c = '$' then reference? rest else none with
    | some (name, n) => do
      let value? ← env.get? name
      let others ← expandVariablesFrom env n rest
      return value?.getD (c :: rest.take n) ++ others
    | none => do return c :: (← expandVariablesFrom env 0 rest)

/-- The path with the values of the variables in it. -/
def expandVariables (env : Environment) (path : Text) : Except Error Text := expandVariablesFrom env 0 path

/-- The path with the home directory for a tilde in front and the name of a user behind it. -/
def expandHome (host : Host) (path : Text) : Except Error Text :=
  match path with
  | [] => .ok []
  | c :: rest =>
    if c = '~' then do
      let name := rest.takeWhile fun (d : CodePoint) => d != '/'
      match ← host.home? name with
      | none => return path
      | some home =>
        let full := Text.dropEnd (fun (d : CodePoint) => d = '/') home ++ rest.drop name.length
        return if full.isEmpty then "/" else full
    else .ok path

/-- The path without abbreviations. -/
def expand (host : Host) (path : Text) : Except Error Text := do expandHome host (← expandVariables host.environment path)

/-! ## Parts -/

/-- A path that continues another. -/
def join (directory name : Text) : Text :=
  if directory.isEmpty || directory.getLast? = some (CodePoint.ofChar '/') then directory ++ name
  else directory ++ "/" ++ name

/-- The extension of the last part of a path, with its dot. Dots in front of the part are no extension. -/
def extension {α : Type} [BEq α] (slash dot : α) (path : List α) : List α :=
  let part := ((path.reverse.takeWhile (· != slash)).reverse).dropWhile (· == dot)
  if part.contains dot then dot :: (part.reverse.takeWhile (· != dot)).reverse else []

/-- The place of the file with a user's settings. -/
def ofUserSettings (host : Host) : Text := join host.settingsDirectory "settings.yml"

end Path

end Remit
