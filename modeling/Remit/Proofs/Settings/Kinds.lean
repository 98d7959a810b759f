import Remit.Proofs.Settings.Path
import Remit.Proofs.Settings.Sources

/-!
# Kinds of settings

What is read from a setting is of the setting's kind, whatever assigned or loaded it, but for one gap: a file may hold
anything under the name of a text or path, and it is taken as it is. It is read where nothing else holds a value.
-/

namespace Remit.Settings

/-! ## Changes and places -/

/-- The change loads what its source can supply: the command line what a grammar with the settings' options reads, the
environment texts. Anything can be assigned, and a file can hold anything. -/
def Change.IsSourced (schema : List Setting) : Change → Prop
  | .arguments given => ∃ g line isStrange, Contributes schema g ∧ g.readPart line = .ok (given, isStrange)
  | .environment given => ∃ env : Environment, given = env.entries
  | .assign .. | .unset _ | .persisted _ => True

/-- What may stand for a setting at a place. -/
def Place.Allows (setting : Setting) (v : Value) : Place → Prop
  | .persisted => ∃ given, setting.Means given v
  | .runtime | .arguments | .environment => setting.kind.Admits v

/-- The setting wants a text, nothing but a file holds a value for it, and that value is no text. -/
structure LeavesKind (s : Settings) (setting : Setting) (v : Value) : Prop where
  kind : setting.kind.WantsText
  unset : ∀ place, place ≠ .persisted → (s.layer place).get? setting.name = none
  filed : s.persisted.get? setting.name = some v
  foreign : ∀ t, v ≠ .text t

variable {schema : List Setting} {setting : Setting} {v : Value}

/-! ## Contents -/

theorem exists_means_of_meant {given? : Text → Option Value} (hs : IsTyped schema) (h : setting ∈ schema)
    (hv : Content.meant schema given? setting.name = some v) :
    ∃ given, given? setting.name = some given ∧ setting.Means given v := by
  rw [Content.meant, hs.find?_eq h, Option.bind_some] at hv
  obtain ⟨given, hgiven, hv⟩ := Option.bind_eq_some_iff.mp hv
  exact ⟨given, hgiven, Setting.means_of_toOption_parse hv⟩

theorem exists_means_of_ofFile (hs : IsTyped schema) (h : setting ∈ schema) {around : Surroundings} {path : Text}
    {content : Content} (hfile : Content.ofFile schema around path = .ok content) (hv : content setting.name = some v) :
    ∃ given, setting.Means given v := by
  rw [Content.ofFile] at hfile
  split at hfile
  case h_1 =>
    cases hfile
    cases hv
  case h_2 => cases hfile
  case h_3 =>
    obtain ⟨entries, -, hfile⟩ := exists_of_bind_eq_ok hfile
    obtain rfl := Content.eq_of_guarded_eq_ok hfile
    obtain ⟨⟨key, given⟩, -, hentry⟩ := List.exists_of_findSome?_eq_some hv
    cases key with
    | text name =>
      rw [Content.entryValue?] at hentry
      split at hentry
      case isTrue hname =>
        rw [hname, hs.find?_eq h] at hentry
        exact ⟨given, Setting.means_of_toOption_parse hentry⟩
      case isFalse => cases hentry
    | _ => cases hentry

/-! ## Steps and runs -/

theorem of_said_whole {p place : Place} {content : Except Error Content} {name : Text}
    (h : said (content.map (.whole p)) place name = some (some v)) :
    place = p ∧ ∃ c, content = .ok c ∧ c name = some v := by
  cases content with
  | error e => cases h
  | ok c =>
    change (if place = p then some (c name) else none) = _ at h
    split at h
    case isTrue hp => exact ⟨hp, c, rfl, Option.some.inj h⟩
    case isFalse => cases h

theorem of_said_assign {s : Settings} {around : Surroundings} {place : Place} {name n : Text} {w : Value}
    (h : said ((Change.assign name w).effect around s) place n = some (some v)) :
    place = .runtime ∧ n = name ∧ v = w ∧ ∃ setting, s.setting? name = some setting ∧ setting.check w = .ok () := by
  rw [Change.effect] at h
  cases hs : s.setting? name with
  | none =>
    rw [hs] at h
    cases h
  | some setting =>
    rw [hs] at h
    dsimp only at h
    cases hc : setting.check w with
    | error e =>
      rw [hc] at h
      cases h
    | ok u =>
      rw [hc] at h
      change (if place = .runtime ∧ n = name then some (some w) else none) = _ at h
      split at h
      case isTrue hat =>
        cases h
        exact ⟨hat.1, hat.2, rfl, setting, rfl, hc⟩
      case isFalse => cases h

/-- What a step says of a setting's entry may stand there. -/
theorem allows_of_said (hs : IsTyped schema) (h : setting ∈ schema) {s : Settings} (hschema : s.schema = schema)
    {around : Surroundings} {c : Change} (hc : c.IsSourced schema) {place : Place}
    (hsaid : said (c.effect around s) place setting.name = some (some v)) : place.Allows setting v := by
  cases c with
  | assign name w =>
    obtain ⟨rfl, rfl, rfl, t, ht, hcheck⟩ := of_said_assign hsaid
    rw [setting?, hschema, hs.find?_eq h] at ht
    cases ht
    exact Setting.check_eq_ok_iff.mp hcheck
  | unset name =>
    change (if place = .runtime ∧ setting.name = name then some none else none) = _ at hsaid
    split at hsaid <;> cases hsaid
  | arguments given =>
    obtain ⟨g, line, isStrange, hg, hread⟩ := hc
    obtain ⟨rfl, content, hcontent, hv⟩ := of_said_whole hsaid
    obtain rfl := Content.eq_of_guarded_eq_ok hcontent
    rw [hschema] at hv
    obtain ⟨w, hw, hmeans⟩ := exists_means_of_meant hs h hv
    exact (isWord_of_readPart hs h hg hread hw).admits hmeans (hs.kind_ne_loose h)
  | environment given =>
    obtain ⟨env, rfl⟩ := hc
    obtain ⟨rfl, content, hcontent, hv⟩ := of_said_whole hsaid
    obtain rfl := Content.eq_of_guarded_eq_ok hcontent
    rw [hschema] at hv
    obtain ⟨w, hw, hmeans⟩ := exists_means_of_meant hs h hv
    exact (isWord_of_environment hw).admits hmeans (hs.kind_ne_loose h)
  | persisted path =>
    rw [Change.effect] at hsaid
    cases hgiven : s.pathOr around.toHost path with
    | error e =>
      rw [hgiven] at hsaid
      cases hsaid
    | ok path =>
      rw [hgiven] at hsaid
      dsimp only [Except.bind] at hsaid
      split at hsaid
      case isTrue =>
        cases hpath : checkPath path with
        | error e =>
          rw [hpath] at hsaid
          cases hsaid
        | ok path =>
          rw [hpath] at hsaid
          obtain ⟨rfl, content, hcontent, hv⟩ := of_said_whole hsaid
          rw [hschema] at hcontent
          exact exists_means_of_ofFile hs h hcontent hv
      case isFalse => cases hsaid

/-- Whatever the steps are, what stands for a setting is what may stand there. -/
theorem allows_after (hs : IsTyped schema) (h : setting ∈ schema) {past : List (Surroundings × Change)}
    (hpast : ∀ c ∈ past, c.2.IsSourced schema) {s : Settings} (hschema : s.schema = schema)
    (hold : ∀ place v, (s.layer place).get? setting.name = some v → place.Allows setting v) {place : Place}
    (hv : ((after past s).layer place).get? setting.name = some v) : place.Allows setting v := by
  induction past generalizing s with
  | nil => exact hold place v hv
  | cons c past ih =>
    obtain ⟨hc, hpast⟩ := List.forall_mem_cons.mp hpast
    have step := perform_work c.1 c.2 s
    -- What is there after a step was said by it, or was there before.
    refine ih hpast (step.schema.trans hschema) (fun place w hw => ?_) hv
    rw [step.holds] at hw
    cases hsaid : said (c.2.effect c.1 s) place setting.name with
    | none =>
      rw [hsaid] at hw
      exact hold place w hw
    | some w? =>
      rw [hsaid] at hw
      obtain rfl : w? = some w := hw
      exact allows_of_said hs h hschema hc hsaid

/-! ## Reading -/

/-- A setting has the value of a place in front of the file, or none of these holds one. -/
theorem stored_cases (s : Settings) (setting : Setting) :
    (∃ place, place ≠ .persisted ∧ (s.layer place).get? setting.name = some (s.stored setting)) ∨
      (∀ place, place ≠ .persisted → (s.layer place).get? setting.name = none) ∧
        s.stored setting = (s.persisted.get? setting.name).getD setting.default := by
  rw [stored]
  simp only [Place.all, List.findSome?_cons, List.findSome?_nil, layer]
  cases hr : s.runtime.get? setting.name with
  | some v => exact .inl ⟨.runtime, by decide, hr⟩
  | none =>
    cases ha : s.arguments.get? setting.name with
    | some v => exact .inl ⟨.arguments, by decide, ha⟩
    | none =>
      cases he : s.environment.get? setting.name with
      | some v => exact .inl ⟨.environment, by decide, he⟩
      | none =>
        refine .inr ⟨fun place hp => ?_, ?_⟩
        · cases place with
          | runtime => exact hr
          | arguments => exact ha
          | environment => exact he
          | persisted => exact absurd rfl hp
        · cases s.persisted.get? setting.name <;> rfl

theorem admits_iff_of_shown {host : Host} {w : Value} (h : setting.shown host v = .ok w) :
    setting.kind.Admits w ↔ setting.kind.Admits v := by
  rcases Setting.shown_cases host setting v with hv | ⟨hk, t, rfl, ht⟩
  · cases hv.symm.trans h
    exact Iff.rfl
  · cases hexpand : Path.expand host t with
    | error e =>
      rw [ht, hexpand] at h
      cases h
    | ok path =>
      rw [ht, hexpand] at h
      cases h
      rw [hk]
      exact ⟨fun _ => .path t, fun _ => .path path⟩

theorem LeavesKind.not_admits {s : Settings} (h : s.LeavesKind setting v) : ¬ setting.kind.Admits v := by
  obtain ⟨name, kind, default⟩ := setting
  obtain ⟨hk, -, -, hf⟩ := h
  rintro (t | t | x | b)
  · exact hf t rfl
  · exact hf t rfl
  · rcases hk with hk | hk <;> cases hk
  · rcases hk with hk | hk <;> cases hk

/-- What is read is of the setting's kind, or it is what a file holds. -/
theorem read_admits_iff (hs : IsTyped schema) (h : setting ∈ schema) {s : Settings}
    (hold : ∀ place v, (s.layer place).get? setting.name = some v → place.Allows setting v) {host : Host}
    (hv : s.read host setting = .ok v) : ¬ setting.kind.Admits v ↔ s.LeavesKind setting v := by
  refine ⟨fun hn => ?_, LeavesKind.not_admits⟩
  rw [read] at hv
  rw [admits_iff_of_shown hv] at hn
  rcases stored_cases s setting with ⟨place, hp, hfound⟩ | ⟨hunset, hstored⟩
  · refine absurd (hold place _ hfound) ?_
    cases place with
    | persisted => exact absurd rfl hp
    | _ => exact hn
  · cases hfound : s.persisted.get? setting.name with
    | none =>
      rw [hfound, Option.getD_none] at hstored
      exact absurd (hstored ▸ hs.admits setting h) hn
    | some w =>
      rw [hfound, Option.getD_some] at hstored
      obtain ⟨given, hmeans⟩ := hold .persisted w hfound
      rw [hstored] at hn hv
      obtain ⟨hk, hforeign⟩ := (hmeans.admits_or_foreign (hs.kind_ne_loose h)).resolve_left hn
      rw [Setting.shown_of_forall_ne hforeign] at hv
      cases hv
      exact ⟨hk, hunset, hfound, hforeign⟩

/-! ## Kinds after changes -/

/-- After any changes, what is read from a setting is of its kind, unless it comes from a file, is wanted to be a text and
is none; only a path that cannot be expanded cannot be read. Loads from the command line and the environment succeed if all
that they supply converts, and else report the first value that does not as an invalid setting. So do loads of a file, but
for keys that are no texts, whole numbers beyond all decimals, and values that cannot be shown. -/
theorem read_keeps_kind {schema : List Setting} (hs : IsTyped schema) {past : List (Surroundings × Change)}
    (hpast : ∀ c ∈ past, c.2.IsSourced schema) :
    (∀ host, ∀ setting ∈ schema, ∃ result, (after past { schema }).get? host setting.name = some result ∧
        (∀ v, result = .ok v → (¬ setting.kind.Admits v ↔ (after past { schema }).LeavesKind setting v)) ∧
        ∀ e, result = .error e ↔ setting.kind = .path ∧
          ∃ t, (after past { schema }).stored setting = .text t ∧ Path.expand host t = .error e) ∧
      (∀ g line given isStrange, Contributes schema g → g.readPart line = .ok (given, isStrange) →
        Check.Settles (schema.map fun setting => setting.supplied (Layer.get? given setting.name)) (fun _ => True)
          ((after past { schema }).perform (setArguments given)).1) ∧
      (∀ env : Environment,
        Check.Settles (schema.map fun setting => setting.supplied (Layer.get? env.entries setting.environmentName))
          (fun _ => True) ((after past { schema }).perform (setEnvironment env)).1) ∧
      ∀ (around : Surroundings) given path bytes entries,
        (after past { schema }).pathOr around.toHost given = .ok (.text path) →
        checkPath (.text path) = .ok path → around.file path = .content bytes →
        entriesOf around.readDocument path bytes = .ok entries →
        Check.Settles (entries.map (Content.entryCheck schema)) (fun _ => True)
          ((after past { schema }).perform (setPersisted around given)).1 := by
  have hschema : (after past { schema }).schema = schema := schema_after past { schema }
  refine ⟨fun host setting h => ?_, fun g line given isStrange hg hread => ?_, fun env => ?_,
    fun around given path bytes entries hgiven hpath hfile hentries => ?_⟩
  · have fresh (place : Place) (v : Value) (hv : (({ schema } : Settings).layer place).get? setting.name = some v) :
        place.Allows setting v := by cases place <;> cases hv
    have hold (place : Place) (v : Value) (hv : ((after past { schema }).layer place).get? setting.name = some v) :
        place.Allows setting v := allows_after hs h hpast rfl fresh hv
    refine ⟨(after past { schema }).read host setting, ?_, fun v => read_admits_iff hs h hold,
      fun e => Setting.shown_eq_error_iff⟩
    rw [get?, setting?, hschema, hs.find?_eq h, Option.map_some]
  · have := settles_setArguments (s := after past { schema }) (hschema.symm ▸ hs) (hschema.symm ▸ hg) hread
    rwa [hschema] at this
  · have := settles_setEnvironment (after past { schema }) env
    rwa [hschema] at this
  · have := settles_setPersisted hgiven hpath hfile hentries
    rwa [hschema] at this

/-- A toggle that the command line switches and a decimal that the environment spells are of their kinds. A number in the
file under the name of a text is read as that number. -/
theorem read_keeps_kind_numbered :
    let schema : List Setting :=
      [⟨"limit", .decimal, .float (.zero false)⟩, ⟨"name", .text, "nobody"⟩, ⟨"quiet", .toggle, .bool false⟩]
    let host : Host := ⟨[], "/home/bob/.config", none, fun _ => none⟩
    -- The file reads "name: 5", and a line end.
    let around : Surroundings := {
      toHost := host
      file := fun _ => .content [0x6e, 0x61, 0x6d, 0x65, 0x3a, 0x20, 0x35, 0x0a]
      readDocument := fun t =>
        if t = "name: 5\n" then .ok (.mapping [("name", .int 5)]) else .error (.noDocument "unknown") }
    let past : List (Surroundings × Change) := [(around, .arguments [("quiet", .bool true)]),
      (around, .environment [("BSVALIAS_LIMIT", "2.5")]), (around, .assign "limit" (.int 3)), (around, .persisted "s.yml")]
    IsTyped schema ∧ (∀ c ∈ past, c.2.IsSourced schema) ∧
      (∃ v, (after past { schema }).get? host "limit" = some (.ok v) ∧ Setting.Kind.decimal.Admits v) ∧
      (∃ v, (after past { schema }).get? host "quiet" = some (.ok v) ∧ Setting.Kind.toggle.Admits v) ∧
      (after past { schema }).get? host "name" = some (.ok (.int 5)) ∧ ¬ Setting.Kind.text.Admits (.int 5) := by
  intro schema host around past
  have hs : IsTyped schema := by
    refine ⟨by decide, ?_⟩
    simp only [schema, List.forall_mem_cons]
    exact ⟨.decimal _, .text _, .toggle _, List.forall_mem_nil _⟩
  have hpast : ∀ c ∈ past, c.2.IsSourced schema := by
    simp only [past, List.forall_mem_cons]
    refine ⟨⟨⟨flags schema, [], []⟩, ["--quiet"], false, ⟨fun f hf _ _ _ => hf, List.forall_mem_nil _⟩, rfl⟩,
      ⟨[("BSVALIAS_LIMIT", "2.5")], rfl⟩, trivial, trivial, List.forall_mem_nil _⟩
  obtain ⟨reads, -⟩ := read_keeps_kind hs hpast
  have kept (setting : Setting) (h : setting ∈ schema) (ht : setting.kind ≠ .text) (hp : setting.kind ≠ .path) :
      ∃ v, (after past { schema }).get? host setting.name = some (.ok v) ∧ setting.kind.Admits v := by
    obtain ⟨result, hresult, hadmits, hfails⟩ := reads host setting h
    cases result with
    | error e => exact absurd ((hfails e).mp rfl).1 hp
    | ok v =>
      refine ⟨v, hresult, not_not.mp fun hn => ?_⟩
      rcases ((hadmits v rfl).mp hn).kind with hk | hk
      · exact ht hk
      · exact hp hk
  refine ⟨hs, hpast, kept ⟨"limit", .decimal, _⟩ (.head _) (by decide) (by decide),
    kept ⟨"quiet", .toggle, _⟩ (.tail _ (.tail _ (.head _))) (by decide) (by decide), ?_, fun h => by cases h⟩
  rfl

end Remit.Settings
