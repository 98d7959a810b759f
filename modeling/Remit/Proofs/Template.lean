import Remit.Proofs.Text.Replace

/-!
# Filling in templates

A template is filled in by one pass that puts the alias and the host in their places and copies all else. Resolving it
takes two passes, the second one over the alias too. Both come to the same between the places for the host, unless the
alias makes up another place for the host there, alone or with the text around it.
-/

namespace Remit.Template

open Text (Opens)

/-- The brace that every place begins with. -/
def mark : CodePoint := '\x7b'

theorem opens_aliasPlace : Opens mark aliasPlace := ⟨_, rfl, by decide⟩

theorem opens_hostPlace : Opens mark hostPlace := ⟨_, rfl, by decide⟩

/-- What belongs into the places. -/
def places (h : Handle) : List (Text × Text) := [(aliasPlace, h.aliasName), (hostPlace, h.host)]

/-- A template with the alias and the host in their places, after one pass. -/
def filled (template : Text) (h : Handle) : Text := Text.pass (places h) template

variable {template : Text} {h : Handle}

theorem opens_places (h : Handle) : ∀ entry ∈ places h, Opens mark entry.1 :=
  List.forall_mem_cons.mpr ⟨opens_aliasPlace, List.forall_mem_singleton.mpr opens_hostPlace⟩

/-- A place for the host is none for the alias. -/
theorem not_isPrefixOf_hostPlace (rest : Text) : aliasPlace.isPrefixOf (hostPlace ++ rest) = false := rfl

theorem filled_hostPlace (h : Handle) (rest : Text) : filled (hostPlace ++ rest) h = h.host ++ filled rest h := by
  apply Text.pass_place opens_hostPlace.ne_nil
  rw [places, List.find?_cons, not_isPrefixOf_hostPlace, List.find?_cons, Text.isPrefixOf_append]

theorem filled_joinWith (h : Handle) (parts : List Text) :
    filled (Text.joinWith hostPlace parts) h = Text.joinWith h.host (parts.map fun part => filled part h) :=
  Text.pass_joinWith (opens_places h) opens_hostPlace (filled_hostPlace h) parts

/-- Where there is no place for the host, only the alias is put in its places. -/
theorem filled_of_not_isInfix (hno : ¬ hostPlace <:+: template) (h : Handle) :
    filled template h = Text.replace aliasPlace h.aliasName template := by
  rw [Text.replace_eq_pass]
  exact Text.pass_concat_of_not_isInfix [(aliasPlace, h.aliasName)] h.host hno

theorem replace_alias_hostPlace (aliasName rest : Text) :
    Text.replace aliasPlace aliasName (hostPlace ++ rest) = hostPlace ++ Text.replace aliasPlace aliasName rest := by
  obtain ⟨body, hbody, hmark⟩ := opens_hostPlace
  have hopens : ∀ entry ∈ [(aliasPlace, aliasName)], Opens mark entry.1 :=
    List.forall_mem_singleton.mpr opens_aliasPlace
  have hp := not_isPrefixOf_hostPlace rest
  rw [hbody, List.cons_append] at hp ⊢
  rw [Text.replace_eq_pass, Text.replace_eq_pass, Text.pass, Text.passFrom, List.find?_cons, hp]
  exact congrArg (mark :: ·) (Text.pass_append_of_not_mem hopens hmark)

theorem replace_alias_joinWith (aliasName : Text) (parts : List Text) :
    Text.replace aliasPlace aliasName (Text.joinWith hostPlace parts) =
      Text.joinWith hostPlace (parts.map (Text.replace aliasPlace aliasName)) :=
  Text.replace_joinWith_of_place opens_aliasPlace opens_hostPlace (replace_alias_hostPlace aliasName) parts

/-- Between the places for the host, the alias is put in its places; then the host is put where these parts hold a place
for it. -/
theorem resolve_joinWith (parts : List Text) (h : Handle) :
    resolve (Text.joinWith hostPlace parts) h =
      Text.joinWith h.host ((parts.map (Text.replace aliasPlace h.aliasName)).map (Text.replace hostPlace h.host)) := by
  rw [resolve, replace_alias_joinWith, Text.replace_joinWith opens_hostPlace]

/-- Between the places for the host, one pass does no more than to put the alias in its places. -/
theorem filled_parts {parts : List Text} (hparts : ∀ part ∈ parts, ¬ hostPlace <:+: part) (h : Handle) :
    filled (Text.joinWith hostPlace parts) h =
      Text.joinWith h.host (parts.map (Text.replace aliasPlace h.aliasName)) := by
  rw [filled_joinWith]
  apply congrArg
  exact List.map_congr_left fun part hpart => filled_of_not_isInfix (hparts part hpart) h

/-- Resolving the parts gives what one pass gives unless the alias brings a place for the host into one of them. -/
theorem resolve_parts_iff {parts : List Text} (hparts : ∀ part ∈ parts, ¬ hostPlace <:+: part) (h : Handle) :
    resolve (Text.joinWith hostPlace parts) h = filled (Text.joinWith hostPlace parts) h ↔
      h.host = hostPlace ∨ ∀ part ∈ parts, ¬ hostPlace <:+: Text.replace aliasPlace h.aliasName part := by
  rw [filled_parts hparts, resolve_joinWith, Text.joinWith_map_replace_eq_iff opens_hostPlace, List.forall_mem_map]

/-- Resolving a template gives what one pass gives if and only if no part of it between the places for the host holds
such a place once the alias is filled in, or if the host is itself the place. Whatever else there is, the host included,
is copied as it is. -/
theorem resolve_eq_filled_iff (template : Text) (h : Handle) :
    ∃ parts : List Text, Text.joinWith hostPlace parts = template ∧ (∀ part ∈ parts, ¬ hostPlace <:+: part) ∧
      filled template h = Text.joinWith h.host (parts.map (Text.replace aliasPlace h.aliasName)) ∧
      resolve template h =
        Text.joinWith h.host ((parts.map (Text.replace aliasPlace h.aliasName)).map (Text.replace hostPlace h.host)) ∧
      (resolve template h = filled template h ↔
        h.host = hostPlace ∨ ∀ part ∈ parts, ¬ hostPlace <:+: Text.replace aliasPlace h.aliasName part) := by
  obtain ⟨parts, -, rfl, hparts⟩ := Text.exists_parts opens_hostPlace.ne_nil template
  exact ⟨parts, rfl, hparts, filled_parts hparts h, resolve_joinWith parts h, resolve_parts_iff hparts h⟩

/-- The place for the host may be an alias, and then the host stands where the alias belongs. -/
example :
    (Handle.parse? ("\x7bdomain.tld\x7d@x.com" : Text)).map (fun h => (resolve aliasPlace h, filled aliasPlace h)) =
      some (Text.ofString "x.com", hostPlace) := by decide

/-- Where every brace of a template opens a place, only an alias with such a brace makes a difference. -/
theorem resolve_eq_filled_of_not_mem (ht : mark ∉ filled template ⟨[], []⟩) (hname : mark ∉ h.aliasName) :
    resolve template h = filled template h := by
  obtain ⟨parts, -, rfl, hparts⟩ := Text.exists_parts opens_hostPlace.ne_nil template
  rw [filled_parts hparts] at ht
  apply (resolve_parts_iff hparts h).mpr
  right
  intro part hpart hplace
  have hmark : mark ∈ Text.replace aliasPlace h.aliasName part := hplace.subset List.mem_cons_self
  rcases Text.mem_or_mem_of_mem_replace opens_aliasPlace hmark with hm | hm
  · exact hname hm
  · exact ht (Text.mem_joinWith_of_mem (List.mem_map_of_mem hpart) hm [])

end Remit.Template
