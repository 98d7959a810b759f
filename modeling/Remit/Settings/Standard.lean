import Remit.Settings.Basic

/-!
# Settings of the program

The settings that every program has, and those that this program adds.
-/

namespace Remit

/-- The name and version of the program. -/
def version : Text := "0.1.0"

namespace Settings

/-- The setting that names the file with settings. -/
def configSetting (default : Text) : Setting := ⟨"config", .path, default⟩

/-- The settings of the program. -/
def standardSchema (host : Host) : List Setting :=
  [configSetting (Path.ofUserSettings host),
   ⟨"request_timeout", .decimal, .float (.ofRatio false 30 1)⟩,
   ⟨"sender_handle", .text, ""⟩,
   ⟨"sender_key", .text, ""⟩,
   ⟨"sender_name", .text, ""⟩,
   ⟨"user_agent", .text, .text ("bsvalias/" ++ version)⟩,
   ⟨"verbose", .toggle, .bool false⟩]

/-- The settings of the program before anything is loaded. -/
def standard (host : Host) : Settings := { schema := standardSchema host }

end Settings

end Remit
