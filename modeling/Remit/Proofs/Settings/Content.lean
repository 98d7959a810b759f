import Mathlib.Data.List.Basic
import Remit.Settings.Source

/-!
# What sources hold

A layer matters for the values that it has under names, and not for the order of its entries. A source means such values,
or an error: the first that comes up where its values are understood one after the other. The layers that are made of
sources hold what these mean.
-/

namespace Remit

/-- Values under names. -/
abbrev Content := Text → Option Value

/-! ## Layers -/

namespace Layer

@[simp] theorem get?_nil (name : Text) : get? [] name = none := rfl

theorem get?_cons (e : Text × Value) (rest : Layer) (name : Text) :
    get? (e :: rest) name = if e.1 = name then some e.2 else get? rest name := by
  rw [get?, List.find?_cons]
  by_cases h : e.1 = name
  · rw [if_pos h, beq_iff_eq.mpr h]
    rfl
  · rw [if_neg h, beq_eq_false_iff_ne.mpr h]
    rfl

theorem get?_put (name : Text) (v : Value) (layer : Layer) (n : Text) :
    (layer.put name v).get? n = if n = name then some v else layer.get? n := by
  induction layer with
  | nil =>
    rw [put, get?_cons]
    simp only [eq_comm]
  | cons e rest ih =>
    rw [put]
    by_cases he : e.1 = name
    · rw [if_pos (beq_iff_eq.mpr he), get?_cons, get?_cons, he]
      by_cases hn : n = name
      · rw [if_pos hn, if_pos hn.symm]
      · rw [if_neg hn, if_neg (Ne.symm hn), if_neg (Ne.symm hn)]
    · rw [if_neg (mt beq_iff_eq.mp he), get?_cons, get?_cons, ih]
      by_cases hn : e.1 = n
      · rw [if_pos hn, if_pos hn, if_neg (hn ▸ he)]
      · rw [if_neg hn, if_neg hn]

theorem get?_erase (name : Text) (layer : Layer) (n : Text) :
    (layer.erase name).get? n = if n = name then none else layer.get? n := by
  induction layer with
  | nil => simp [erase]
  | cons e rest ih =>
    rw [erase] at ih ⊢
    by_cases he : e.1 = name
    · rw [List.filter_cons_of_neg (by simp [he]), ih, get?_cons, he]
      by_cases hn : n = name
      · rw [if_pos hn, if_pos hn]
      · rw [if_neg hn, if_neg hn, if_neg (Ne.symm hn)]
    · rw [List.filter_cons_of_pos (by simp [he]), get?_cons, get?_cons, ih]
      by_cases hn : e.1 = n
      · rw [if_pos hn, if_pos hn, if_neg (hn ▸ he)]
      · rw [if_neg hn, if_neg hn]

theorem ofSource_cons_of_none {source : Setting → Option Value} {setting : Setting} (h : source setting = none)
    (schema : List Setting) : ofSource source (setting :: schema) = ofSource source schema := by
  rw [ofSource, h]

theorem ofSource_cons_of_some {source : Setting → Option Value} {setting : Setting} {v : Value}
    (h : source setting = some v) (schema : List Setting) :
    ofSource source (setting :: schema) =
      setting.parse v >>= fun v => ofSource source schema >>= fun layer => .ok ((setting.name, v) :: layer) := by
  rw [ofSource, h]
  rfl

end Layer

/-! ## Values that are asked for -/

namespace Content

/-- A content, unless there is a fault. -/
def guarded (fault? : Option Error) (content : Content) : Except Error Content :=
  match fault? with
  | some e => .error e
  | none => .ok content

theorem map_guarded (f : Content → Content) (fault? : Option Error) (content : Content) :
    (guarded fault? content).map f = guarded fault? (f content) := by
  cases fault? <;> rfl

/-- The error that a value leads to. -/
def faultOf? (setting : Setting) (v : Value) : Option Error :=
  match setting.parse v with
  | .error e => some e
  | .ok _ => none

/-- What a source means that has values under names: each as the setting of the name understands it. -/
def meant (schema : List Setting) (given? : Text → Option Value) : Content := fun name =>
  (schema.find? fun setting => setting.name == name).bind fun setting =>
    (given? name).bind fun v => (setting.parse v).toOption

/-- What such a source means if it is asked for all settings in turn. -/
def ofSource (schema : List Setting) (given? : Text → Option Value) : Except Error Content :=
  guarded (schema.findSome? fun setting => (given? setting.name).bind (faultOf? setting)) (meant schema given?)

theorem meant_cons (setting : Setting) (schema : List Setting) (given? : Text → Option Value) (name : Text) :
    meant (setting :: schema) given? name =
      if setting.name = name then (given? name).bind fun v => (setting.parse v).toOption
      else meant schema given? name := by
  rw [meant, List.find?_cons]
  by_cases h : setting.name = name
  · rw [if_pos h, beq_iff_eq.mpr h]
    rfl
  · rw [if_neg h, beq_eq_false_iff_ne.mpr h]
    rfl

/-- A setting for which nothing is given does not matter, nor does another one of its name. -/
theorem meant_cons_of_eq_none {setting : Setting} {given? : Text → Option Value} (h : given? setting.name = none)
    (schema : List Setting) : meant (setting :: schema) given? = meant schema given? := by
  funext name
  rw [meant_cons]
  split
  case isTrue hn =>
    rw [hn] at h
    rw [meant, h]
    simp
  case isFalse => rfl

theorem ofSource_eq_map_get? {source : Setting → Option Value} {given? : Text → Option Value}
    (h : ∀ setting, source setting = given? setting.name) (schema : List Setting) :
    (Layer.ofSource source schema).map Layer.get? = ofSource schema given? := by
  induction schema with
  | nil => rfl
  | cons setting schema ih =>
    rw [ofSource] at ih ⊢
    rw [List.findSome?_cons]
    cases hg : given? setting.name with
    | none => rw [Layer.ofSource_cons_of_none ((h setting).trans hg), meant_cons_of_eq_none hg, ih, Option.bind_none]
    | some v =>
      rw [Layer.ofSource_cons_of_some ((h setting).trans hg), Option.bind_some, faultOf?]
      cases hp : setting.parse v with
      | error e => rfl
      | ok w =>
        let onTop (content : Content) : Content := fun name => if setting.name = name then some w else content name
        calc ((Layer.ofSource source schema).bind fun layer => .ok ((setting.name, w) :: layer)).map Layer.get?
            = ((Layer.ofSource source schema).map Layer.get?).map onTop := by
              cases Layer.ofSource source schema with
              | error e => rfl
              | ok layer => exact congrArg Except.ok (funext (Layer.get?_cons _ layer))
          _ = guarded _ (onTop (meant schema given?)) := by rw [ih, map_guarded]
          _ = guarded _ (meant (setting :: schema) given?) := by
              refine congrArg (guarded _) (funext fun name => ?_)
              rw [meant_cons]
              by_cases hn : setting.name = name
              · rw [if_pos hn, ← hn, hg, Option.bind_some, hp]
                exact if_pos rfl
              · rw [if_neg hn]
                exact if_neg hn

/-! ## Entries -/

/-- The error that an entry of a file leads to. Its key has to be a text; under unknown names anything may stand. -/
def entryFault? (schema : List Setting) : Value × Value → Option Error
  | (.text name, v) => (schema.find? fun setting => setting.name == name).bind fun setting => faultOf? setting v
  | _ => some .wrongType

/-- The value that an entry of a file has for the setting under a name. -/
def entryValue? (schema : List Setting) (name : Text) : Value × Value → Option Value
  | (.text n, v) =>
    if n = name then (schema.find? fun setting => setting.name == n).bind fun setting => (setting.parse v).toOption
    else none
  | _ => none

/-- What the entries of a file mean. The last one of a name counts. -/
def ofEntries (schema : List Setting) (entries : List (Value × Value)) : Except Error Content :=
  guarded (entries.findSome? (entryFault? schema)) fun name => entries.reverse.findSome? (entryValue? schema name)

theorem map_get?_ofEntries (schema : List Setting) (path : Text) (layer : Layer) (entries : List (Value × Value)) :
    (Layer.ofEntries schema path layer entries).1.map Layer.get? =
      guarded (entries.findSome? (entryFault? schema)) fun name =>
        (entries.reverse.findSome? (entryValue? schema name)).or (layer.get? name) := by
  induction entries generalizing layer with
  | nil => rfl
  | cons e rest ih =>
    rw [List.findSome?_cons]
    simp only [List.reverse_cons, List.findSome?_append, List.findSome?_singleton, Option.or_assoc]
    obtain ⟨key, v⟩ := e
    cases key with
    | text name =>
      rw [Layer.ofEntries, entryFault?]
      cases hs : schema.find? fun setting => setting.name == name with
      | none =>
        change Except.map _ (Layer.ofEntries schema path layer rest).1 = _
        rw [ih]
        refine congrArg (guarded _) (funext fun n => ?_)
        rw [entryValue?, hs, Option.bind_none, ite_self, Option.none_or]
      | some setting =>
        rw [Option.bind_some, faultOf?]
        dsimp only
        cases hp : setting.parse v with
        | error e => rfl
        | ok w =>
          dsimp only
          rw [ih]
          refine congrArg (guarded _) (funext fun n => ?_)
          rw [Layer.get?_put, entryValue?, hs, Option.bind_some, hp]
          by_cases hn : n = name
          · rw [if_pos hn, if_pos hn.symm]
            rfl
          · rw [if_neg hn, if_neg (Ne.symm hn), Option.none_or]
    | _ => rfl

theorem ofEntries_eq_map_get? (schema : List Setting) (path : Text) (entries : List (Value × Value)) :
    (Layer.ofEntries schema path [] entries).1.map Layer.get? = ofEntries schema entries := by
  rw [map_get?_ofEntries, ofEntries]
  simp only [Layer.get?_nil, Option.or_none]

/-! ## Files -/

/-- What the file at a path means. A file that is not there holds nothing. -/
def ofFile (schema : List Setting) (around : Surroundings) (path : Text) : Except Error Content :=
  match around.file path with
  | .missing => .ok fun _ => none
  | .directory => .error (.configRead path)
  | .content bytes => do ofEntries schema (← Settings.entriesOf around.readDocument path bytes)

end Content

end Remit
