import Remit.Settings.Path

/-!
# Users

A system lists its users line by line, each with a name, a number and a home directory. A process is run by one of them,
and finds that user's settings where desktops keep them.
-/

namespace Remit

/-- A user of a system. -/
structure User where
  name : Bytes
  number : Text
  home : Text

/-- The user that a line of the list tells of. -/
def User.ofLine? (line : Text) : Option User :=
  match Text.splitAll ':' line with
  | [name, _, number, _, _, home, _] => some ⟨name.flatMap Utf8.bytesOf, number, home⟩
  | _ => none

/-- The host that a process of the user with a number sees. Settings are in the directory that a variable names, or else
in a hidden one at home. -/
def Host.ofUsers (environment : Environment) (users : List User) (number : Text) : Host :=
  let host : Host := {
    environment
    settingsDirectory := []
    ownHome? := (users.find? fun user => user.number == number).map User.home
    homeOf? := fun name => (users.find? fun user => user.name == name).map User.home }
  let parent : Except Error Text := do
    match ← environment.get? "XDG_CONFIG_HOME" with
    | some directory => return directory
    | none => Path.expandHome host "~/.config"
  { host with settingsDirectory := Path.join (parent.toOption.getD []) "bsvalias" }

end Remit
