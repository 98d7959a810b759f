import Remit.Command
import Remit.Proofs.Settings.Faults
import Remit.Proofs.Settings.Kinds

/-!
# Settings of the program

The program loads its settings from the command line, the environment and the file that these name. If it cannot, it tells
what is reported and ends, unless a fault of the file or of its path is passed on: this stops it.
-/

namespace Remit.Settings

variable {e : Error}

/-! ## Schema and grammars -/

/-- The names of the settings of the program. -/
def standardNames : List Text :=
  ["config", "request_timeout", "sender_handle", "sender_key", "sender_name", "user_agent", "verbose"]

theorem map_name_standardSchema (host : Host) : (standardSchema host).map Setting.name = standardNames := rfl

theorem isTyped_standardSchema (host : Host) : IsTyped (standardSchema host) where
  nodup := by
    rw [map_name_standardSchema]
    decide
  admits := by
    simp only [standardSchema, List.forall_mem_cons]
    exact ⟨.path _, .decimal _, .text _, .text _, .text _, .text _, .toggle _, List.forall_mem_nil _⟩

/-- The commands read the options of the settings. -/
theorem contributes_grammar (host : Host) (c : Capability) :
    Contributes (standardSchema host) (Command.grammar (standardSchema host) c) := by
  -- All other options and operands file under names that no setting has.
  have named {setting : Setting} (h : setting ∈ standardSchema host) : setting.name ∈ standardNames :=
    map_name_standardSchema host ▸ List.mem_map_of_mem h
  have common {f : Arguments.Flag} (hf : f ∈ Command.commonFlags (standardSchema host)) {setting : Setting}
      (h : setting ∈ standardSchema host) (ht : f.target = setting.name) : f ∈ flags (standardSchema host) := by
    refine (List.mem_append.mp hf).resolve_left fun hf => ?_
    have others : ∀ f ∈ Command.helpFlags ++
        [⟨"--url-template", "url_template", .take⟩, ⟨"--purpose", "purpose", .take⟩], f.target ∉ standardNames := by decide
    exact others f hf (ht ▸ named h)
  have operands : ∀ o ∈ Command.operands, ∀ setting ∈ standardSchema host, o.name ≠ setting.name := by
    intro o ho setting h hn
    have others : ∀ o ∈ Command.operands, o.name ∉ standardNames := by decide
    exact others o ho (hn ▸ named h)
  cases c with
  | paymentDestination => exact ⟨fun f hf setting h ht => common hf h ht, operands⟩
  | paymentRequest =>
    refine ⟨fun f hf setting h ht => ?_, operands⟩
    rcases List.mem_append.mp hf with hf | hf
    · exact common hf h ht
    · obtain rfl := List.mem_singleton.mp hf
      have other : ("asset_id" : Text) ∉ standardNames := by decide
      rw [show ("asset_id" : Text) = setting.name from ht] at other
      exact absurd (named h) other

/-! ## Loading -/

/-- A load from the command line or the environment leaves no warnings. -/
theorem run_fill_sourceLayer (place : Place) (source : Setting → Option Value) (s : Settings) :
    (∃ e, (fill place (sourceLayer source)).run (s, []) = (.error e, s, [])) ∨
      ∃ t, (fill place (sourceLayer source)).run (s, []) = (.ok (), t, []) := by
  rw [fill, Work.run_bind, sourceLayer, Work.run_bind, Work.run_current]
  dsimp only
  rw [Work.run_ofExcept]
  cases Layer.ofSource source s.schema with
  | error e => exact .inl ⟨e, rfl⟩
  | ok layer => exact .inr ⟨s.withLayer place layer, rfl⟩

theorem run_setArguments (given : List (Text × Value)) (s : Settings) :
    (∃ e, (setArguments given).run (s, []) = (.error e, s, [])) ∨ ∃ t, (setArguments given).run (s, []) = (.ok (), t, []) :=
  run_fill_sourceLayer .arguments _ s

theorem run_setEnvironment (env : Environment) (s : Settings) :
    (∃ e, (setEnvironment env).run (s, []) = (.error e, s, [])) ∨ ∃ t, (setEnvironment env).run (s, []) = (.ok (), t, []) :=
  run_fill_sourceLayer .environment _ s

/-- The settings before a load of the program's file. -/
def beforeFile (around : Surroundings) (given : List (Text × Value)) (s : Settings) : Settings :=
  after [(around, .arguments given), (around, .environment around.environment.entries)] s

/-- A program that loads its settings fails where one of the three loads does. -/
theorem perform_load_eq_error {s t : Settings} {around : Surroundings} {given : List (Text × Value)}
    {warnings : List Text} (h : s.perform (load around given) = (.error e, t, warnings)) :
    (s.perform (setArguments given)).1 = .error e ∨
      (∃ s' : Settings, (s'.perform (setEnvironment around.environment)).1 = .error e) ∨
      ((beforeFile around given s).perform (setPersisted around .null)).1 = .error e := by
  change (setArguments given >>= fun _ => setEnvironment around.environment >>= fun _ => setPersisted around .null).run
    (s, []) = _ at h
  rcases run_setArguments given s with ⟨e', ha⟩ | ⟨s', ha⟩
  · rw [Work.run_bind, ha] at h
    cases h
    exact .inl (congrArg Prod.fst ha)
  · rw [Work.run_bind, ha] at h
    dsimp only at h
    rcases run_setEnvironment around.environment s' with ⟨e', he⟩ | ⟨s'', he⟩
    · rw [Work.run_bind, he] at h
      cases h
      exact .inr (.inl ⟨_, congrArg Prod.fst he⟩)
    · rw [Work.run_bind, he] at h
      have hbefore : beforeFile around given s = s'' := by
        change ((setEnvironment around.environment).run (((setArguments given).run (s, [])).2.1, [])).2.1 = _
        rw [ha, he]
      rw [hbefore]
      exact .inr (.inr (congrArg Prod.fst h))

theorem get?_persisted_beforeFile (around : Surroundings) (given : List (Text × Value)) (s : Settings) (name : Text) :
    (beforeFile around given s).persisted.get? name = s.persisted.get? name := by
  have step {c : Change} {p : Place} (hc : c.fills? = some p) (hp : .persisted ≠ p) (s : Settings) :
      ((s.perform (c.work around)).2.1.layer .persisted).get? name = (s.layer .persisted).get? name := by
    rw [(perform_work around c s).holds, Change.said_effect hc hp, Option.getD_none]
  have harguments := step (c := .arguments given) rfl nofun s
  have henvironment :=
    step (c := .environment around.environment.entries) rfl nofun (s.perform (setArguments given)).2.1
  exact henvironment.trans harguments

theorem isSourced_of_read {host : Host} {line : List Text} {c : Command}
    (h : Command.read (standardSchema host) line = .ok c) : (Change.arguments c.given).IsSourced (standardSchema host) := by
  obtain ⟨⟨name, values⟩, hread, h⟩ := exists_of_bind_eq_ok h
  cases h
  obtain ⟨g, rest, isStrange, hg, hread⟩ := Arguments.readPart_of_readCommand hread
  obtain ⟨capability, -, rfl⟩ := Option.map_eq_some_iff.mp hg
  exact ⟨_, rest, isStrange, contributes_grammar host capability, hread⟩

/-- The path of the program's file is a text, whatever the command line and the environment say. -/
theorem exists_text_of_configPath {around : Surroundings} {given : List (Text × Value)} {path : Value}
    (hgiven : (Change.arguments given).IsSourced (standardSchema around.toHost))
    (hpath : (beforeFile around given (standard around.toHost)).configPath around.toHost = .ok path) :
    ∃ t, path = .text t := by
  let config := configSetting (Path.ofUserSettings around.toHost)
  have hs := isTyped_standardSchema around.toHost
  have hconfig : config ∈ standardSchema around.toHost := .head _
  have hpast : ∀ c ∈ [(around, Change.arguments given), (around, .environment around.environment.entries)],
      c.2.IsSourced (standardSchema around.toHost) :=
    List.forall_mem_cons.mpr ⟨hgiven, List.forall_mem_singleton.mpr ⟨around.environment, rfl⟩⟩
  have fresh (place : Place) (v : Value)
      (hv : ((standard around.toHost).layer place).get? config.name = some v) : place.Allows config v := by
    cases place <;> cases hv
  have hunfiled : (beforeFile around given (standard around.toHost)).persisted.get? config.name = none :=
    get?_persisted_beforeFile around given _ config.name
  have hread : (beforeFile around given (standard around.toHost)).read around.toHost config = .ok path := by
    rw [← hpath, configPath, get?, setting?, beforeFile, schema_after]
    rfl
  have hadmits : Setting.Kind.path.Admits path := by
    by_contra hn
    have hleaves := (read_admits_iff hs hconfig (fun _ _ => allows_after hs hconfig hpast rfl fresh) hread).mp hn
    exact Option.some_ne_none _ (hleaves.filed.symm.trans hunfiled)
  cases hadmits with
  | path t => exact ⟨t, rfl⟩

/-! ## Failing -/

theorem isReport_of_settles_supplied {schema : List Setting} {given? : Setting → Option Value} {result : Except Error Unit}
    (h : Check.Settles (schema.map fun setting => setting.supplied (given? setting)) (fun _ => True) result)
    (he : result = .error e) : ∃ name v, e = .invalidSetting name v := by
  subst he
  obtain ⟨c, hc, hr⟩ := Check.FirstFault.exists_reports h
  obtain ⟨setting, -, rfl⟩ := List.mem_map.mp hc
  obtain ⟨v, -, rfl⟩ := hr
  exact ⟨setting.name, v, rfl⟩

/-- What a program comes to whose settings cannot be loaded. -/
theorem run_of_perform_load {around : Surroundings} {line : List Text} {c : Command} {t : Settings}
    {warnings : List Text} (hread : Command.read (standardSchema around.toHost) line = .ok c)
    (hload : (standard around.toHost).perform (load around c.given) = (.error e, t, warnings)) (now : Moment)
    (connect : Value → Value → Payment.Transport) :
    Command.run around now connect line = { Command.Report.ofResult (.error e) with warnings } := by
  rw [Command.run]
  dsimp only [standard] at hload ⊢
  rw [hread]
  dsimp only
  rw [hload]

/-- Loads from the environment fail with reports of values only. Loads of a file fail with a report, or with a fault of the
path or the file that is passed on, and they do so for every such fault. A program that cannot load its settings tells the
report on the error stream and ends with 1, or is stopped by such a fault; its own path is never anything but a text. -/
theorem loads_fail_with_reports_or_pass (s : Settings) (around : Surroundings) (given : Value) (now : Moment)
    (connect : Value → Value → Payment.Transport) (line : List Text) (e : Error) :
    ((s.perform (setEnvironment around.environment)).1 = .error e → ∃ name v, e = .invalidSetting name v) ∧
      ((s.perform (setPersisted around given)).1 = .error e ∧ ¬ e.IsReport ↔ Passes s around given e) ∧
      ∀ c t warnings, Command.read (standardSchema around.toHost) line = .ok c →
        (standard around.toHost).perform (load around c.given) = (.error e, t, warnings) →
        (e.IsReport ∧ Command.run around now connect line =
            { ending := .done 1, errors := "error: " ++ e.message ++ "\n", warnings }) ∨
          Passes (beforeFile around c.given (standard around.toHost)) around .null e ∧
            (∀ path, (beforeFile around c.given (standard around.toHost)).configPath around.toHost = .ok path →
              ∃ t, path = .text t) ∧
            Command.run around now connect line = { ending := .failed e, warnings } := by
  have environment (s : Settings) (h : (s.perform (setEnvironment around.environment)).1 = .error e) :
      ∃ name v, e = .invalidSetting name v := isReport_of_settles_supplied (settles_setEnvironment s _) h
  refine ⟨environment s, setPersisted_error_iff s around given, ?_⟩
  intro c t warnings hread hload
  have hsourced := isSourced_of_read hread
  have hrun := run_of_perform_load hread hload now connect
  by_cases hreport : e.IsReport
  · refine .inl ⟨hreport, ?_⟩
    rw [hrun, Command.Report.ofResult, if_pos hreport.isOwn]
  · right
    rcases perform_load_eq_error hload with h | ⟨s, h⟩ | h
    · obtain ⟨g, _, isStrange, hg, hread⟩ := hsourced
      have hs : IsTyped (standard around.toHost).schema := isTyped_standardSchema around.toHost
      obtain ⟨name, v, rfl⟩ := isReport_of_settles_supplied (settles_setArguments hs hg hread) h
      exact absurd (.value _ _) hreport
    · obtain ⟨name, v, rfl⟩ := environment s h
      exact absurd (.value _ _) hreport
    · have hpasses := (setPersisted_error_iff _ around .null).mp ⟨h, hreport⟩
      refine ⟨hpasses, fun path => exists_text_of_configPath hsourced, ?_⟩
      have hown : e.isOwn = false := by rw [Error.isOwn, hpasses.kind?_eq, Option.isSome_none]
      rw [hrun, Command.Report.ofResult, hown]
      rfl

theorem exists_of_mapError_eq_error {α β γ : Type} {result : Except α γ} {f : α → β} {b : β}
    (h : result.mapError f = .error b) : ∃ a, result = .error a ∧ f a = b := by
  cases result with
  | ok c => cases h
  | error a => exact ⟨a, rfl, Except.error.inj h⟩

/-- A list in the file is told, and a byte that is no text stops the program. -/
theorem loads_fail_with_reports_or_pass_binary :
    let host : Host := ⟨[("BSVALIAS_CONFIG", "s.yml")], "/home/bob/.config", none, fun _ => none⟩
    let around (content : Bytes) : Surroundings := {
      toHost := host
      file := fun _ => .content content
      readDocument := fun t => if t = "- a\n" then .ok (.list ["a"]) else .error (.noDocument "unknown") }
    let now : Moment := ⟨⟨2020, 1, 2⟩, 15, 4, 5, 0, some 0⟩
    let connect : Value → Value → Payment.Transport := fun _ _ _ _ => .error .disconnected
    let line : List Text := ["payment-destination", "bob@example.org", "1", "--url-template", "x"]
    (∃ c, Command.read (standardSchema host) line = .ok c) ∧
      -- The file reads "- a", and a line end.
      (Command.run (around [0x2d, 0x20, 0x61, 0x0a]) now connect line).ending = .done 1 ∧
      ∃ e, Slips (standardSchema host) (around [0xff]).readDocument [0xff] e ∧
        (Command.run (around [0xff]) now connect line).ending = .failed e := by
  intro host around now connect line
  let given : List (Text × Value) := [("handle", "bob@example.org"), ("amount", .int 1), ("url_template", "x")]
  obtain ⟨c, hc, hgiven⟩ : ∃ c, Command.read (standardSchema host) line = .ok c ∧ c.given = given := ⟨_, rfl, rfl⟩
  have told (content : Bytes) (e : Error) (he : ((standard host).perform (load (around content) c.given)).1 = .error e) :=
    (loads_fail_with_reports_or_pass (standard host) (around content) .null now connect line e).2.2 c _ _ hc
      (Prod.ext he rfl)
  rw [hgiven] at told
  refine ⟨⟨c, hc⟩, ?_, ?_⟩
  · have hlist : ((standard host).perform (load (around [0x2d, 0x20, 0x61, 0x0a]) given)).1.mapError Error.kind? =
        .error (some .configFormat) := by decide +kernel +zetaReduce
    obtain ⟨e, he, hkind⟩ := exists_of_mapError_eq_error hlist
    rcases told _ _ he with ⟨-, hrun⟩ | ⟨hpasses, -, -⟩
    · rw [hrun]
    · cases hpasses.kind?_eq.symm.trans hkind
  · obtain ⟨f, hbinary⟩ : ∃ f, ((standard host).perform (load (around [0xff]) given)).1 = .error (.decoding f) :=
      ⟨_, rfl⟩
    rcases told _ _ hbinary with ⟨hreport, -⟩ | ⟨hpasses, -, hrun⟩
    · cases hreport
    · refine ⟨_, ?_, by rw [hrun]⟩
      cases hpasses with
      | expansion _ _ _ _ h => cases Path.isUnaskable_of_expand h
      | file _ _ hfile hslips =>
        cases hfile
        exact hslips

end Remit.Settings
