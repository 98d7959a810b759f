import Remit.Error
import Remit.Text.Blank
import Remit.Text.Case

/-!
# Handles

A handle names a party as an alias at a host. Blanks around it and the case of its letters do not matter.
-/

namespace Remit

/-- An alias at a host. -/
structure Handle where
  aliasName : Text
  host : Text
deriving DecidableEq

namespace Handle

/-- The mark between alias and host. -/
def mark : CodePoint := '@'

/-- The handle that a text spells: one mark in it, no blank inside, and something on either side of the mark. -/
def parse? (t : Text) : Option Handle :=
  if t.count mark ≠ 1 then none
  else
    let stripped := Text.strip t
    match Text.splitFirst mark stripped with
    | (name, some host) =>
      if name.isEmpty || host.isEmpty || stripped.any Text.isBlank then none
      else some ⟨Text.lower name, Text.lower host⟩
    | (_, none) => none

/-- The handle that a value spells. -/
def parse (v : Value) : Except Error Handle :=
  match v.toText?.bind parse? with
  | some handle => .ok handle
  | none => .error (Error.raised (.invalidHandle v))

/-- The handle as a text. -/
def text (h : Handle) : Text := h.aliasName ++ [mark] ++ h.host

end Handle

end Remit
