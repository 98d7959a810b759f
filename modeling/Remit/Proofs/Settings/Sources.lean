import Remit.Proofs.Arguments
import Remit.Proofs.Settings.Conversion

/-!
# Loads of settings

The command line and the environment supply words: texts, and the truth values of toggles. A load from them takes all
words, or reports the first one that does not convert; a load of a file does the same for its entries.
-/

namespace Remit.Settings

/-! ## Schemas -/

/-- The settings have different names, and each default is of the setting's kind. -/
structure IsTyped (schema : List Setting) : Prop where
  nodup : (schema.map Setting.name).Nodup
  admits : ∀ setting ∈ schema, setting.kind.Admits setting.default

/-- The grammar reads the options of the settings. It may have others, which file nothing under the settings' names. -/
structure Contributes (schema : List Setting) (g : Arguments.Grammar) : Prop where
  flags : ∀ f ∈ g.flags, ∀ setting ∈ schema, f.target = setting.name → f ∈ flags schema
  operands : ∀ o ∈ g.operands, ∀ setting ∈ schema, o.name ≠ setting.name

variable {schema : List Setting} {setting : Setting} {v : Value}

theorem IsTyped.find?_eq (hs : IsTyped schema) (h : setting ∈ schema) :
    (schema.find? fun s => s.name == setting.name) = some setting := by
  obtain ⟨nodup, -⟩ := hs
  induction schema with
  | nil => cases h
  | cons s schema ih =>
    obtain ⟨hn, hnodup⟩ := List.nodup_cons.mp nodup
    rcases List.mem_cons.mp h with rfl | h
    · exact List.find?_cons_of_pos (beq_self_eq_true _)
    · have hne : s.name ≠ setting.name := fun heq => hn (heq ▸ List.mem_map_of_mem h)
      rw [List.find?_cons, beq_eq_false_iff_ne.mpr hne]
      exact ih h hnodup

theorem IsTyped.kind_ne_loose (hs : IsTyped schema) (h : setting ∈ schema) : setting.kind ≠ .loose := by
  intro hk
  have hd := hs.admits setting h
  rw [hk] at hd
  cases hd

/-! ## Words of sources -/

theorem mem_of_get?_eq_some {layer : Layer} {name : Text} (h : layer.get? name = some v) : (name, v) ∈ layer := by
  obtain ⟨e, he, rfl⟩ := Option.map_eq_some_iff.mp h
  obtain rfl : e.1 = name := by simpa using List.find?_some he
  exact List.mem_of_find?_eq_some he

theorem isWord_of_mem_flags (hs : IsTyped schema) (h : setting ∈ schema) {f : Arguments.Flag} (hf : f ∈ flags schema)
    (ht : f.target = setting.name) (hv : f.Files v) : setting.IsWord v := by
  obtain ⟨s, hs', hf⟩ := List.mem_flatMap.mp hf
  have hname : f.target = s.name := by
    rw [flagsOf] at hf
    split at hf
    · rcases List.mem_pair.mp hf with rfl | rfl <;> rfl
    · rw [List.mem_singleton.mp hf]
  obtain rfl : s = setting := by
    have := hs.find?_eq hs'
    rw [← hname, ht, hs.find?_eq h] at this
    exact (Option.some.inj this).symm
  cases hv with
  | taken t he => exact .text t
  | fixed v he =>
    rw [flagsOf] at hf
    split at hf
    case h_1 hk =>
      rcases List.mem_pair.mp hf with rfl | rfl
      · cases he
        exact .switch hk true
      · cases he
        exact .switch hk false
    case h_2 =>
      obtain rfl := List.mem_singleton.mp hf
      cases he

/-- The command line supplies words. -/
theorem isWord_of_readPart (hs : IsTyped schema) (h : setting ∈ schema) {g : Arguments.Grammar}
    (hg : Contributes schema g) {line : List Text} {given : List (Text × Value)} {isStrange : Bool}
    (hread : g.readPart line = .ok (given, isStrange)) (hv : Layer.get? given setting.name = some v) :
    setting.IsWord v := by
  rcases Arguments.Grammar.sourced_of_readPart hread _ (mem_of_get?_eq_some hv) with ⟨f, hf, ht, hfiles⟩ | ⟨o, ho, hn⟩
  · exact isWord_of_mem_flags hs h (hg.flags f hf setting h ht) ht hfiles
  · exact absurd hn (hg.operands o ho setting h)

/-- The environment supplies texts. -/
theorem isWord_of_environment {env : Environment} {name : Text} (hv : Layer.get? env.entries name = some v) :
    setting.IsWord v := by
  obtain ⟨e, -, he⟩ := List.mem_map.mp (mem_of_get?_eq_some hv)
  obtain ⟨-, rfl⟩ := Prod.mk.inj he
  exact .text e.2

/-! ## Loads -/

theorem settles_fill {make : Work Layer} {s : Settings} {content : Except Error Content} {checks : List Check}
    {good : Content → Prop} (hm : Makes make s content) (hc : Check.Settles checks good content) (place : Place) :
    Check.Settles checks (fun _ => True) (s.perform (fill place make)).1 := by
  rw [(hm.perform_fill place).result]
  have hwhole : Check.Settles checks (fun _ => True) (content.map (Effect.whole place)) := hc.map fun _ _ => trivial
  exact hwhole.map fun _ _ => trivial

/-- A load from the command line takes what it supplies, or reports the first value that does not convert. -/
theorem settles_setArguments {s : Settings} (hs : IsTyped s.schema) {g : Arguments.Grammar}
    (hg : Contributes s.schema g) {line : List Text} {given : List (Text × Value)} {isStrange : Bool}
    (hread : g.readPart line = .ok (given, isStrange)) :
    Check.Settles (s.schema.map fun setting => setting.supplied (Layer.get? given setting.name)) (fun _ => True)
      (s.perform (setArguments given)).1 := by
  have words (setting : Setting) (h : setting ∈ s.schema) (v : Value) (hv : Layer.get? given setting.name = some v) :
      setting.IsWord v := isWord_of_readPart hs h hg hread hv
  exact settles_fill (makes_sourceLayer (fun _ => rfl) s) (Content.settles_ofSource words) .arguments

/-- A load from the environment takes what it supplies, or reports the first value that does not convert. -/
theorem settles_setEnvironment (s : Settings) (env : Environment) :
    Check.Settles (s.schema.map fun setting => setting.supplied (Layer.get? env.entries setting.environmentName))
      (fun _ => True) (s.perform (setEnvironment env)).1 := by
  let given? (name : Text) : Option Value := Layer.get? env.entries (Setting.variableOf name)
  have words (setting : Setting) (_ : setting ∈ s.schema) (v : Value) (hv : given? setting.name = some v) :
      setting.IsWord v := isWord_of_environment hv
  exact settles_fill (makes_sourceLayer (fun _ => rfl) s) (Content.settles_ofSource words) .environment

/-- What a load from a path comes to: what is found there, unless the path is empty or has the wrong extension. -/
def resultAt (schema : List Setting) (around : Surroundings) (path : Value) : Except Error Unit :=
  if path.isTruthy then (checkPath path).bind fun path => (Content.ofFile schema around path).map fun _ => ()
  else .ok ()

theorem setPersisted_result (s : Settings) (around : Surroundings) (given : Value) :
    (s.perform (setPersisted around given)).1 = (s.pathOr around.toHost given).bind (resultAt s.schema around) := by
  rw [(perform_setPersisted s around given).result, Change.effect]
  cases s.pathOr around.toHost given with
  | error e => rfl
  | ok path =>
    dsimp only [Except.bind]
    rw [resultAt]
    split
    case isTrue =>
      cases checkPath path with
      | error e => rfl
      | ok path =>
        change Except.map _ (Except.map _ (Content.ofFile s.schema around path)) = Except.map _ _
        cases Content.ofFile s.schema around path <;> rfl
    case isFalse => rfl

theorem isTruthy_of_checkPath {path p : Text} (h : checkPath (.text path) = .ok p) : (Value.text path).isTruthy = true := by
  cases path with
  | nil => cases h
  | cons c rest => rfl

/-- A load of a file with entries takes these, or reports the first one that does not fit. -/
theorem settles_setPersisted {s : Settings} {around : Surroundings} {given : Value} {path : Text} {bytes : Bytes}
    {entries : List (Value × Value)} (hgiven : s.pathOr around.toHost given = .ok (.text path))
    (hpath : checkPath (.text path) = .ok path) (hfile : around.file path = .content bytes)
    (hentries : entriesOf around.readDocument path bytes = .ok entries) :
    Check.Settles (entries.map (Content.entryCheck s.schema)) (fun _ => True)
      (s.perform (setPersisted around given)).1 := by
  have hcontent : Content.ofFile s.schema around path = Content.ofEntries s.schema entries := by
    rw [Content.ofFile, hfile]
    dsimp only
    rw [hentries]
    rfl
  rw [setPersisted_result, hgiven]
  dsimp only [Except.bind]
  rw [resultAt, if_pos (isTruthy_of_checkPath hpath), hpath]
  change Check.Settles _ _ ((Content.ofFile s.schema around path).map _)
  rw [hcontent]
  exact (Content.settles_ofEntries s.schema entries).map fun _ _ => trivial

end Remit.Settings
