import Mathlib.Data.List.Nodup
import Remit.Proofs.Settings.Content

/-!
# Precedence of settings

Settings change step by step. What a step is to do is told beforehand: it says something of the entry of one name, or of
all that one place holds, or it fails and says nothing. After any number of steps a place holds under a name what was
last said of it, and a setting has the value of the first place that holds one. Loads that do not look at the settings
say what they say in any order.
-/

namespace Remit.Settings

/-! ## Work -/

namespace Work

variable {α β : Type}

theorem run_bind (work : Work α) (next : α → Work β) (desk : Settings × List Text) :
    (work >>= next).run desk =
      match work.run desk with
      | (.ok a, desk) => (next a).run desk
      | (.error e, desk) => (.error e, desk) := by
  change (work.run desk >>= fun p => ExceptT.bindCont next p.1 p.2 : Id _) = _
  rcases work.run desk with ⟨_ | _, _⟩ <;> rfl

@[simp] theorem run_current (desk : Settings × List Text) : current.run desk = (.ok desk.1, desk) := rfl

@[simp] theorem run_ofExcept (result : Except Error α) (desk : Settings × List Text) :
    (ofExcept result).run desk = (result, desk) := rfl

end Work

/-! ## Effects -/

/-- What a step says. -/
inductive Effect where
  | nothing
  /-- The entry of a name among the values that were assigned. -/
  | entry (name : Text) (v? : Option Value)
  /-- All that a place holds. -/
  | whole (place : Place) (content : Content)

/-- What a step says of the entry of a name at a place, if it says anything. A step that fails says nothing. -/
def said (outcome : Except Error Effect) (place : Place) (name : Text) : Option (Option Value) :=
  match outcome with
  | .error _ | .ok .nothing => none
  | .ok (.entry n v?) => if place = .runtime ∧ name = n then some v? else none
  | .ok (.whole p content) => if place = p then some (content name) else none

/-- What a change is to do. An assigned value is checked as it is. Values of a source are understood as their settings do,
and one that means nothing fails the whole source. -/
def Change.effect (around : Surroundings) (s : Settings) : Change → Except Error Effect
  | .assign name v =>
    match s.setting? name with
    | none => .ok .nothing
    | some setting => (setting.check v).map fun _ => .entry name (some v)
  | .unset name => .ok (.entry name none)
  | .arguments given => (Content.ofSource s.schema (Layer.get? given)).map (.whole .arguments)
  | .environment given =>
    (Content.ofSource s.schema fun name => Layer.get? given (Setting.variableOf name)).map (.whole .environment)
  | .persisted path =>
    (s.pathOr around.toHost path).bind fun path =>
      if path.isTruthy then
        (checkPath path).bind fun path => (Content.ofFile s.schema around path).map (.whole .persisted)
      else .ok .nothing

/-- The settings become what was told: the result is the same, each entry of which something was said is what was said,
and all others stay. After an error the settings are the same. -/
structure Follows (s : Settings) (outcome : Except Error Effect) (after : Except Error Unit × Settings × List Text) :
    Prop where
  result : after.1 = outcome.map fun _ => ()
  schema : after.2.1.schema = s.schema
  holds : ∀ place name,
    (after.2.1.layer place).get? name = (said outcome place name).getD ((s.layer place).get? name)
  unchanged : ∀ e, outcome = .error e → after.2.1 = s

namespace Follows

variable {s : Settings}

theorem error (e : Error) (warnings : List Text) : Follows s (.error e) (.error e, s, warnings) :=
  ⟨rfl, rfl, fun _ _ => rfl, fun _ _ => rfl⟩

theorem nothing (warnings : List Text) : Follows s (.ok .nothing) (.ok (), s, warnings) :=
  ⟨rfl, rfl, fun _ _ => rfl, fun _ _ => rfl⟩

theorem entry {name : Text} {v? : Option Value} {layer : Layer}
    (h : ∀ n, layer.get? n = if n = name then v? else s.runtime.get? n) (warnings : List Text) :
    Follows s (.ok (.entry name v?)) (.ok (), { s with runtime := layer }, warnings) where
  result := rfl
  schema := rfl
  holds place n := by
    cases place with
    | runtime =>
      rw [said]
      refine (h n).trans ?_
      by_cases hn : n = name
      · rw [if_pos hn, if_pos ⟨rfl, hn⟩, Option.getD_some]
      · rw [if_neg hn, if_neg (fun hp => hn hp.2), Option.getD_none]
        rfl
    | _ => rfl
  unchanged _ h := nomatch h

theorem whole (place : Place) (layer : Layer) (warnings : List Text) :
    Follows s (.ok (.whole place layer.get?)) (.ok (), s.withLayer place layer, warnings) where
  result := rfl
  schema := by cases place <;> rfl
  holds p name := by cases place <;> cases p <;> rfl
  unchanged _ h := nomatch h

end Follows

/-! ## Steps -/

/-- The work makes a layer that holds what was told, or it fails, and the settings stay as they are. -/
def Makes (make : Work Layer) (s : Settings) (content : Except Error Content) : Prop :=
  ∀ warnings, (make.run (s, warnings)).1.map Layer.get? = content ∧ (make.run (s, warnings)).2.1 = s

theorem Makes.perform_fill {make : Work Layer} {s : Settings} {content : Except Error Content}
    (h : Makes make s content) (place : Place) :
    Follows s (content.map (.whole place)) (s.perform (fill place make)) := by
  obtain ⟨rfl, hs⟩ := h []
  rw [perform, fill, Work.run_bind]
  rcases hr : make.run (s, []) with ⟨e | layer, t, warnings⟩ <;> rw [hr] at hs <;> obtain rfl : t = s := hs
  · exact .error e warnings
  · exact .whole place layer warnings

theorem makes_sourceLayer {source : Setting → Option Value} {given? : Text → Option Value}
    (h : ∀ setting, source setting = given? setting.name) (s : Settings) :
    Makes (sourceLayer source) s (Content.ofSource s.schema given?) :=
  fun _ => ⟨Content.ofSource_eq_map_get? h s.schema, rfl⟩

theorem makes_fileLayer (around : Surroundings) (path : Text) (s : Settings) :
    Makes (fileLayer around path) s (Content.ofFile s.schema around path) := by
  intro warnings
  rw [fileLayer, Content.ofFile]
  cases around.file path with
  | missing => exact ⟨rfl, rfl⟩
  | directory => exact ⟨rfl, rfl⟩
  | content bytes =>
    dsimp only
    rw [Work.run_bind, Work.run_ofExcept]
    cases entriesOf around.readDocument path bytes with
    | error e => exact ⟨rfl, rfl⟩
    | ok entries => exact ⟨Content.ofEntries_eq_map_get? s.schema path entries, rfl⟩

theorem perform_assign (s : Settings) (name : Text) (v : Value) (around : Surroundings) :
    Follows s ((Change.assign name v).effect around s) (s.perform (assign name v)) := by
  rw [perform, assign, Work.run_bind, Work.run_current, Change.effect]
  dsimp only
  cases s.setting? name with
  | none => exact .nothing []
  | some setting =>
    dsimp only
    rw [Work.run_bind, Work.run_ofExcept]
    cases setting.check v with
    | error e => exact .error e []
    | ok _ => exact .entry (s.runtime.get?_put name v) []

theorem perform_setPersisted (s : Settings) (around : Surroundings) (path : Value) :
    Follows s ((Change.persisted path).effect around s) (s.perform (setPersisted around path)) := by
  rw [perform, setPersisted, Work.run_bind, Work.run_current, Change.effect]
  dsimp only
  rw [Work.run_bind, Work.run_ofExcept]
  cases s.pathOr around.toHost path with
  | error e => exact .error e []
  | ok path =>
    dsimp only [Except.bind]
    split
    case isFalse => exact .nothing []
    case isTrue =>
      rw [Work.run_bind, Work.run_ofExcept]
      cases checkPath path with
      | error e => exact .error e []
      | ok path => exact (makes_fileLayer around path s).perform_fill .persisted

/-- Every step does what it is to do. -/
theorem perform_work (around : Surroundings) (c : Change) (s : Settings) :
    Follows s (c.effect around s) (s.perform (c.work around)) := by
  cases c with
  | assign name v => exact perform_assign s name v around
  | unset name => exact .entry (s.runtime.get?_erase name) []
  | arguments given => exact (makes_sourceLayer (fun _ => rfl) s).perform_fill .arguments
  | environment given => exact (makes_sourceLayer (fun _ => rfl) s).perform_fill .environment
  | persisted path => exact perform_setPersisted s around path

/-! ## Runs -/

/-- The settings after changes, each in surroundings of its own. Where one fails the next goes on with what it left. -/
def after (past : List (Surroundings × Change)) (s : Settings) : Settings :=
  past.foldl (fun s c => (s.perform (c.2.work c.1)).2.1) s

/-- What the changes are to do, one after the other. -/
def outcomes : List (Surroundings × Change) → Settings → List (Except Error Effect)
  | [], _ => []
  | c :: rest, s => c.2.effect c.1 s :: outcomes rest (s.perform (c.2.work c.1)).2.1

/-- What was last said of the entry of a name at a place; where nothing was said, there is none. -/
def lastSaid (told : List (Except Error Effect)) (place : Place) (name : Text) : Option Value :=
  (told.reverse.findSome? fun outcome => said outcome place name).getD none

theorem schema_after (past : List (Surroundings × Change)) (s : Settings) : (after past s).schema = s.schema := by
  induction past generalizing s with
  | nil => rfl
  | cons c rest ih => exact (ih _).trans (perform_work c.1 c.2 s).schema

/-- A place holds what was last said of it, or else what it held at first. -/
theorem get?_layer_after (past : List (Surroundings × Change)) (s : Settings) (place : Place) (name : Text) :
    ((after past s).layer place).get? name =
      ((outcomes past s).reverse.findSome? fun outcome => said outcome place name).getD ((s.layer place).get? name) := by
  induction past generalizing s with
  | nil => rfl
  | cons c rest ih =>
    rw [outcomes, List.reverse_cons, List.findSome?_append, List.findSome?_singleton]
    refine (ih _).trans ?_
    rw [(perform_work c.1 c.2 s).holds]
    cases (outcomes rest _).reverse.findSome? fun outcome => said outcome place name <;> rfl

/-! ## Orders -/

/-- The place that a load fills. A load that looks at the settings first, for a path, is none here. -/
def Change.fills? : Change → Option Place
  | .arguments _ => some .arguments
  | .environment _ => some .environment
  | .persisted .null => none
  | .persisted _ => some .persisted
  | .assign .. | .unset _ => none

theorem Change.ne_null_of_fills? {path : Value} {p : Place} (h : (persisted path).fills? = some p) :
    path ≠ .null ∧ p = .persisted := by
  cases path with
  | null => cases h
  | _ =>
    cases h
    exact ⟨nofun, rfl⟩

theorem pathOr_of_ne_null {path : Value} (h : path ≠ .null) (host : Host) (s : Settings) :
    s.pathOr host path = .ok path := by
  cases path with
  | null => exact absurd rfl h
  | _ => rfl

/-- What a load says does not depend on what the settings hold. -/
theorem Change.effect_congr {c : Change} {p : Place} (h : c.fills? = some p) (around : Surroundings) {s t : Settings}
    (hs : s.schema = t.schema) : c.effect around s = c.effect around t := by
  cases c with
  | assign name v => cases h
  | unset name => cases h
  | arguments given => rw [effect, effect, hs]
  | environment given => rw [effect, effect, hs]
  | persisted path =>
    obtain ⟨hn, -⟩ := ne_null_of_fills? h
    rw [effect, effect, pathOr_of_ne_null hn, pathOr_of_ne_null hn, hs]

theorem said_map_whole {place p : Place} (h : place ≠ p) (content : Except Error Content) (name : Text) :
    said (content.map (.whole p)) place name = none := by
  cases content with
  | error e => rfl
  | ok content => exact if_neg h

/-- A load says nothing of other places. -/
theorem Change.said_effect {c : Change} {p place : Place} (h : c.fills? = some p) (hp : place ≠ p)
    (around : Surroundings) (s : Settings) (name : Text) : said (c.effect around s) place name = none := by
  cases c with
  | assign n v => cases h
  | unset n => cases h
  | arguments given =>
    cases h
    exact said_map_whole hp _ name
  | environment given =>
    cases h
    exact said_map_whole hp _ name
  | persisted path =>
    obtain ⟨-, rfl⟩ := ne_null_of_fills? h
    rw [effect]
    cases s.pathOr around.toHost path with
    | error e => rfl
    | ok path =>
      dsimp only [Except.bind]
      split
      case isFalse => rfl
      case isTrue =>
        cases checkPath path with
        | error e => rfl
        | ok path => exact said_map_whole hp _ name

theorem get?_layer_after_loads {loads : List (Surroundings × Change)} (hl : ∀ c ∈ loads, c.2.fills?.isSome)
    {s t : Settings} (hs : s.schema = t.schema) (place : Place) (name : Text) :
    ((after loads s).layer place).get? name =
      loads.foldl (fun v? c => (said (c.2.effect c.1 t) place name).getD v?) ((s.layer place).get? name) := by
  induction loads generalizing s with
  | nil => rfl
  | cons c rest ih =>
    obtain ⟨p, hp⟩ := Option.isSome_iff_exists.mp (hl c (List.mem_cons_self ..))
    have hc := perform_work c.1 c.2 s
    refine (ih (fun d hd => hl d (List.mem_cons_of_mem _ hd)) (hc.schema.trans hs)).trans ?_
    rw [hc.holds, Change.effect_congr hp c.1 hs, List.foldl_cons]

/-- Loads that fill different places can change places. -/
theorem get?_layer_after_perm {loads order : List (Surroundings × Change)} (h : order.Perm loads)
    (hl : ∀ c ∈ loads, c.2.fills?.isSome) (hd : (loads.map fun c => c.2.fills?).Nodup) (s : Settings) (place : Place)
    (name : Text) : ((after order s).layer place).get? name = ((after loads s).layer place).get? name := by
  rw [get?_layer_after_loads hl rfl, get?_layer_after_loads (fun c hc => hl c (h.mem_iff.mp hc)) rfl]
  refine (h.symm.foldl_eq' (fun x hx y hy v? => ?_) _).symm
  obtain ⟨p, hp⟩ := Option.isSome_iff_exists.mp (hl x hx)
  obtain ⟨q, hq⟩ := Option.isSome_iff_exists.mp (hl y hy)
  by_cases hpq : p = q
  · rw [List.inj_on_of_nodup_map hd hx hy (hp.trans (hpq ▸ hq.symm))]
  · -- Nothing can be said of one place by loads of two.
    by_cases hplace : place = p
    · rw [Change.said_effect hq (hplace ▸ hpq), Option.getD_none, Option.getD_none]
    · rw [Change.said_effect hp hplace, Option.getD_none, Option.getD_none]

/-! ## Reading -/

/-- A setting has the value of the first place that holds one, and else its default; a path is then expanded. -/
theorem get?_eq (host : Host) (s : Settings) (name : Text) :
    s.get? host name = (s.schema.find? fun setting => setting.name == name).map fun setting =>
      setting.shown host (((s.runtime.get? name).or ((s.arguments.get? name).or
        ((s.environment.get? name).or (s.persisted.get? name)))).getD setting.default) := by
  rw [get?, setting?]
  cases h : s.schema.find? fun setting => setting.name == name with
  | none => rfl
  | some setting =>
    obtain rfl : setting.name = name := by simpa using List.find?_some h
    rw [Option.map_some, Option.map_some, read, stored]
    refine congrArg (fun v? : Option Value => some (setting.shown host (v?.getD setting.default))) ?_
    simp only [Place.all, List.findSome?_cons, List.findSome?_nil, layer]
    cases s.runtime.get? setting.name <;> cases s.arguments.get? setting.name <;>
      cases s.environment.get? setting.name <;> cases s.persisted.get? setting.name <;> rfl

theorem get?_congr {s t : Settings} (hs : s.schema = t.schema)
    (h : ∀ place name, (s.layer place).get? name = (t.layer place).get? name) (host : Host) (name : Text) :
    s.get? host name = t.get? host name := by
  rw [get?_eq, get?_eq, hs]
  have hr : s.runtime.get? name = t.runtime.get? name := h .runtime name
  have ha : s.arguments.get? name = t.arguments.get? name := h .arguments name
  have he : s.environment.get? name = t.environment.get? name := h .environment name
  have hp : s.persisted.get? name = t.persisted.get? name := h .persisted name
  rw [hr, ha, he, hp]

/-- After any changes to fresh settings, each place holds what was last said of it, and settings are read from the places
in their order. The next change does what it is to do: it changes the one entry or the one place that it speaks of, and
nothing if it fails. Three loads of which the last is of a given path can be made in any order. -/
theorem after_reads_last_said (schema : List Setting) (past : List (Surroundings × Change)) :
    (∀ place name,
        ((after past { schema }).layer place).get? name = lastSaid (outcomes past { schema }) place name) ∧
      (∀ host name,
        (after past { schema }).get? host name = (schema.find? fun setting => setting.name == name).map fun setting =>
          setting.shown host
            (((lastSaid (outcomes past { schema }) .runtime name).or
              ((lastSaid (outcomes past { schema }) .arguments name).or
              ((lastSaid (outcomes past { schema }) .environment name).or
              (lastSaid (outcomes past { schema }) .persisted name)))).getD setting.default)) ∧
      (∀ around (c : Change), Follows (after past { schema }) (c.effect around (after past { schema }))
        ((after past { schema }).perform (c.work around))) ∧
      ∀ a b c given vars path order, path ≠ .null →
        order.Perm [(a, .arguments given), (b, .environment vars), (c, .persisted path)] →
        ∀ host name, (after order (after past { schema })).get? host name =
          (after [(a, .arguments given), (b, .environment vars), (c, .persisted path)]
            (after past { schema })).get? host name := by
  have holds : ∀ place name,
      ((after past { schema }).layer place).get? name = lastSaid (outcomes past { schema }) place name := by
    intro place name
    have hempty : ((({ schema } : Settings).layer place).get? name) = none := by cases place <;> rfl
    rw [get?_layer_after, hempty, lastSaid]
  refine ⟨holds, ?_, fun around c => perform_work around c _, ?_⟩
  · intro host name
    rw [get?_eq, schema_after, ← holds .runtime, ← holds .arguments, ← holds .environment, ← holds .persisted]
    rfl
  · intro a b c given vars path order hpath horder host name
    refine get?_congr ((schema_after ..).trans (schema_after ..).symm) (fun place n => ?_) host name
    refine get?_layer_after_perm horder ?_ ?_ _ place n
    · simp [Change.fills?]
    · simp [Change.fills?]

/-- An assignment of the wrong kind and a load that fails change nothing. What was loaded before is read, and no longer
once its place is loaded again, here in another order. A path is read with the home directory in it. -/
theorem after_reads_last_said_refused :
    let schema : List Setting := [⟨"file", .path, "~/file"⟩, ⟨"limit", .decimal, .null⟩, ⟨"name", .text, "nobody"⟩,
      ⟨"quiet", .toggle, .bool false⟩]
    let host : Host := ⟨[("HOME", "/home/bob/")], "/home/bob/.config", none, fun _ => none⟩
    let around : Surroundings := { toHost := host, file := fun _ => .missing, readDocument := fun _ => .ok .null }
    let s := after [(around, .environment [("BSVALIAS_QUIET", "yes")]), (around, .arguments [("name", "argument")]),
      (around, .assign "name" (.int 1)), (around, .environment [("BSVALIAS_LIMIT", "abc")])] { schema }
    s.get? host "name" = some (.ok "argument") ∧ s.get? host "quiet" = some (.ok (.bool true)) ∧
      s.get? host "file" = some (.ok "/home/bob/file") ∧
      (after [(around, .persisted "settings.yml"), (around, .environment [("BSVALIAS_NAME", "variable")]),
        (around, .arguments [])] s).get? host "name" = some (.ok "variable") := by
  intro schema host around s
  obtain ⟨-, reads, -, orders⟩ := after_reads_last_said schema
    [(around, .environment [("BSVALIAS_QUIET", "yes")]), (around, .arguments [("name", "argument")]),
      (around, .assign "name" (.int 1)), (around, .environment [("BSVALIAS_LIMIT", "abc")])]
  refine ⟨(reads host "name").trans rfl, (reads host "quiet").trans rfl, (reads host "file").trans rfl, ?_⟩
  refine (orders around around around [] [("BSVALIAS_NAME", "variable")] "settings.yml" _ nofun (List.reverse_perm _)
    host "name").trans ?_
  rfl

end Remit.Settings
