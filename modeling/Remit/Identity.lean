import Remit.Capabilities
import Remit.Template

/-!
# Identities

A party that can be paid: its handle, and what the site of its host can do.
-/

namespace Remit

/-- A party that can be paid. -/
structure Identity where
  handle : Handle
  capabilities : Capabilities

namespace Identity

/-- The identity behind a handle. -/
def ofHandle (handle : Value) (capabilities : Capabilities) : Except Error Identity := do
  return ⟨← Handle.parse handle, capabilities⟩

/-- The address of the service for the capability of a name, if the site has it. -/
def urlFor (i : Identity) (name : Text) : Except Error Text :=
  if i.capabilities.supports name then
    match i.capabilities.get name with
    | .text template => .ok (Template.resolve template i.handle)
    | .bytes _ => .error .wrongType
    | _ => .error .noSuchAttribute
  else .error (.notCapable name)

end Identity

end Remit
