import Remit.Handle

/-!
# Templates

The address of a service, with places for the alias and the host of a handle.
-/

namespace Remit

namespace Text

/-- Text with every occurrence of `old` replaced, from the left; the first `skip` code points belong to an occurrence
that was replaced already. -/
def replaceFrom (old new : Text) : (skip : Nat) → Text → Text
  | _, [] => []
  | skip + 1, _ :: rest => replaceFrom old new skip rest
  | 0, c :: rest =>
    if old.isPrefixOf (c :: rest) then new ++ replaceFrom old new (old.length - 1) rest
    else c :: replaceFrom old new 0 rest

/-- Text with every occurrence of `old`, which is not empty, replaced by `new`. -/
def replace (old new t : Text) : Text := replaceFrom old new 0 t

end Text

namespace Template

/-- The place for the alias. -/
def aliasPlace : Text := "\x7balias\x7d"

/-- The place for the host. -/
def hostPlace : Text := "\x7bdomain.tld\x7d"

/-- A template with the alias in its place and then the host, also where the alias brings in a place for it. -/
def resolve (template : Text) (h : Handle) : Text :=
  Text.replace hostPlace h.host (Text.replace aliasPlace h.aliasName template)

end Template

end Remit
