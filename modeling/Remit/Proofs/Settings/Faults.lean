import Remit.Proofs.Settings.Path
import Remit.Proofs.Settings.Sources

/-!
# Faults of loads

A load of settings that fails reports a path, a file or a value. Five faults of a file are passed on as they are instead:
bytes that are no text, a failure of what reads the document, a key that is no text, a whole number beyond all decimals,
and a value that cannot be shown. So are two faults of the path: it cannot be expanded, or it is neither text nor bytes.
-/

namespace Remit

/-- The error reports a path, a file or a value of a setting. -/
inductive Error.IsReport : Error → Prop
  | path (path : Value) : IsReport (.configRead path)
  | file (path : Value) (reason : Error) : IsReport (.configFormat path reason)
  | value (name value : Value) : IsReport (.invalidSetting name value)

theorem Error.IsReport.isOwn {e : Error} (h : e.IsReport) : e.isOwn = true := by cases h <;> rfl

theorem Error.not_isReport {e : Error} (h : e.kind? = none) : ¬ e.IsReport := by
  rintro (_ | _ | _) <;> cases h

namespace Settings

/-! ## Faults of files -/

/-- The bytes spell a mapping with these entries. -/
def Lists (readDocument : Document.Reader) (bytes : Bytes) (entries : List (Value × Value)) : Prop :=
  ∃ t, Utf8.decode bytes = .ok t ∧ readDocument (unifyLines t) = .ok (.mapping entries)

/-- The bytes spell a mapping, and all that stands in front of this entry fits. -/
def Reaches (schema : List Setting) (readDocument : Document.Reader) (bytes : Bytes) (entry : Value × Value) : Prop :=
  ∃ before after, Lists readDocument bytes (before ++ entry :: after) ∧
    Check.AllHold (before.map (Content.entryCheck schema))

/-- The fault of a file is passed on as it is. -/
inductive Slips (schema : List Setting) (readDocument : Document.Reader) (bytes : Bytes) : Error → Prop
  | encoding {fault : Utf8.DecodeFault} (h : Utf8.decode bytes = .error fault) :
      Slips schema readDocument bytes (.decoding fault)
  | document {t : Text} {m : Mishap} (ht : Utf8.decode bytes = .ok t)
      (h : readDocument (unifyLines t) = .error (.failure m)) : Slips schema readDocument bytes (.mishap m)
  | key {key v : Value} (h : Reaches schema readDocument bytes (key, v)) (hk : ∀ t, key ≠ .text t) :
      Slips schema readDocument bytes .wrongType
  | number {name : Text} {i : Int} {setting : Setting} (h : Reaches schema readDocument bytes (.text name, .int i))
      (hs : (schema.find? fun s => s.name == name) = some setting) (hk : setting.kind = .decimal)
      (hi : Binary64.ofInt? i = none) : Slips schema readDocument bytes .floatOverflow
  | digits {name : Text} {v : Value} {setting : Setting} (h : Reaches schema readDocument bytes (.text name, v))
      (hs : (schema.find? fun s => s.name == name) = some setting) (hk : setting.kind = .decimal)
      (hv : Setting.decimal? v = none) (hi : ∀ i, v ≠ .int i) (hd : v.isShowable = false) :
      Slips schema readDocument bytes .tooLongToShow

variable {schema : List Setting} {around : Surroundings} {readDocument : Document.Reader} {bytes : Bytes} {path : Text}
variable {e : Error}

theorem Slips.kind?_eq (h : Slips schema readDocument bytes e) : e.kind? = none := by cases h <;> rfl

/-! ### Documents -/

theorem entriesOf_of_decode {t : Text} (ht : Utf8.decode bytes = .ok t) :
    entriesOf readDocument path bytes =
      match readDocument (unifyLines t) with
      | .error fault => .error (fault.error path)
      | .ok (.mapping entries) => .ok entries
      | .ok v => if v.isTruthy then .error (.configFormat path .notAMapping) else .ok [] := by
  rw [entriesOf, ht]
  dsimp only [Except.mapError, bind, Except.bind]
  cases readDocument (unifyLines t) with
  | error fault => rfl
  | ok v => cases v <;> rfl

theorem Lists.entriesOf_eq {entries : List (Value × Value)} (h : Lists readDocument bytes entries) (path : Text) :
    entriesOf readDocument path bytes = .ok entries := by
  obtain ⟨t, ht, hread⟩ := h
  rw [entriesOf_of_decode ht, hread]

theorem lists_of_entriesOf_eq_ok {entries : List (Value × Value)} (h : entriesOf readDocument path bytes = .ok entries) :
    entries = [] ∨ Lists readDocument bytes entries := by
  cases ht : Utf8.decode bytes with
  | error fault =>
    rw [entriesOf, ht] at h
    cases h
  | ok t =>
    rw [entriesOf_of_decode ht] at h
    split at h
    case h_1 => cases h
    case h_2 entries' hread =>
      cases h
      exact .inr ⟨t, ht, hread⟩
    case h_3 =>
      split at h
      · cases h
      · cases h
        exact .inl rfl

theorem entriesOf_eq_error (h : entriesOf readDocument path bytes = .error e) :
    e.IsReport ∨ Slips schema readDocument bytes e := by
  cases ht : Utf8.decode bytes with
  | error fault =>
    rw [entriesOf, ht] at h
    cases h
    exact .inr (.encoding ht)
  | ok t =>
    rw [entriesOf_of_decode ht] at h
    split at h
    case h_1 fault hread =>
      cases h
      cases fault with
      | noDocument reason => exact .inl (.file _ _)
      | failure m => exact .inr (.document ht hread)
    case h_2 => cases h
    case h_3 =>
      split at h
      · cases h
        exact .inl (.file _ _)
      · cases h

/-! ### Entries -/

/-- The fault of an entry is reported or passed on. -/
theorem slips_of_reports {entry : Value × Value} (h : Reaches schema readDocument bytes entry)
    (hc : ¬ (Content.entryCheck schema entry).holds) (he : (Content.entryCheck schema entry).reports e) :
    e.IsReport ∨ Slips schema readDocument bytes e := by
  obtain ⟨key, v⟩ := entry
  rcases he with ⟨hk, rfl⟩ | ⟨name, setting, hname, hs, rfl⟩
  · exact .inr (.key h hk)
  · obtain rfl : key = .text name := hname
    rw [Content.entryCheck_holds_iff hs, Setting.not_exists_means_iff] at hc
    obtain ⟨hk, hv⟩ := hc
    by_cases hi : ∃ i, v = .int i
    · obtain ⟨i, rfl⟩ := hi
      exact .inr (.number h hs hk hv)
    · have hi : ∀ i, v ≠ .int i := not_exists.mp hi
      change Error.IsReport (setting.complaint v) ∨ Slips schema readDocument bytes (setting.complaint v)
      rw [Setting.complaint_eq_refusal hi, Setting.refusal_eq]
      split
      case isTrue => exact .inl (.value _ _)
      case isFalse hd => exact .inr (.digits h hs hk hv hi (Bool.eq_false_iff.mpr hd))

/-- The faults of a file are reported or passed on. -/
theorem ofFile_eq_error (h : Content.ofFile schema around path = .error e) :
    e.IsReport ∨ ∃ bytes, around.file path = .content bytes ∧ Slips schema around.readDocument bytes e := by
  rw [Content.ofFile] at h
  split at h
  case h_1 => cases h
  case h_2 =>
    cases h
    exact .inl (.path _)
  case h_3 bytes hfile =>
    cases hentries : entriesOf around.readDocument path bytes with
    | error e' =>
      rw [hentries] at h
      cases h
      exact (entriesOf_eq_error hentries).imp_right fun hslips => ⟨bytes, hfile, hslips⟩
    | ok entries =>
      rw [hentries] at h
      have hsettles := Content.settles_ofEntries schema entries
      rw [show Content.ofEntries schema entries = .error e from h] at hsettles
      obtain ⟨front, c, rest, hsplit, hf, hc, hr⟩ := hsettles
      obtain ⟨before, others, rfl, rfl, hothers⟩ := List.map_eq_append_iff.mp hsplit
      obtain ⟨entry, after, rfl, rfl, rfl⟩ := List.map_eq_cons_iff.mp hothers
      have hlists := (lists_of_entriesOf_eq_ok hentries).resolve_left (by simp)
      exact (slips_of_reports ⟨before, after, hlists, hf⟩ hc hr).imp_right fun hslips => ⟨bytes, hfile, hslips⟩

theorem ofFile_eq (h : around.file path = .content bytes) :
    Content.ofFile schema around path = entriesOf around.readDocument path bytes >>= Content.ofEntries schema := by
  rw [Content.ofFile, h]

/-- The first entry that does not fit is what the file comes to. -/
theorem Reaches.ofFile_eq (hfile : around.file path = .content bytes) {entry : Value × Value}
    (h : Reaches schema around.readDocument bytes entry) (hc : ¬ (Content.entryCheck schema entry).holds)
    (hr : ∀ e', (Content.entryCheck schema entry).reports e' → e' = e) :
    Content.ofFile schema around path = .error e := by
  obtain ⟨before, after, h, hb⟩ := h
  have hsettles := Content.settles_ofEntries schema (before ++ entry :: after)
  rw [List.map_append, List.map_cons] at hsettles
  rw [Settings.ofFile_eq hfile, h.entriesOf_eq path]
  change Content.ofEntries schema (before ++ entry :: after) = .error e
  cases hcontent : Content.ofEntries schema (before ++ entry :: after) with
  | ok content =>
    rw [hcontent] at hsettles
    exact absurd (hsettles.1 _ (List.mem_append_right _ List.mem_cons_self)) hc
  | error e' =>
    -- No other entry can be the first that does not fit.
    rw [hcontent] at hsettles
    rw [hr e' (hsettles.reports hb hc)]

/-- A fault that is passed on is what the file comes to. -/
theorem Slips.ofFile_eq (h : Slips schema around.readDocument bytes e) (hfile : around.file path = .content bytes) :
    Content.ofFile schema around path = .error e := by
  cases h with
  | encoding h =>
    rw [Settings.ofFile_eq hfile, entriesOf, h]
    rfl
  | document ht h =>
    rw [Settings.ofFile_eq hfile, entriesOf_of_decode ht, h]
    rfl
  | @key key v h hk =>
    refine h.ofFile_eq hfile (Content.entryCheck_of_forall_ne hk).1 ?_
    rintro e' (⟨-, rfl⟩ | ⟨name, _, hname, _⟩)
    · rfl
    · exact absurd hname (hk name)
  | number h hs hk hi =>
    refine h.ofFile_eq hfile ?_ fun e' he => (Content.entryCheck_reports_iff hs).mp he
    rw [Content.entryCheck_holds_iff hs, Setting.not_exists_means_iff]
    exact ⟨hk, hi⟩
  | digits h hs hk hv hi hd =>
    refine h.ofFile_eq hfile ?_ fun e' he => ?_
    · rw [Content.entryCheck_holds_iff hs, Setting.not_exists_means_iff]
      exact ⟨hk, hv⟩
    · rw [(Content.entryCheck_reports_iff hs).mp he, Setting.complaint_eq_refusal hi, Setting.refusal_eq, hd]
      rfl

/-! ## Paths -/

/-- A load from a path passes a fault on: the path that the settings name cannot be expanded, the path is neither text nor
bytes, or the file there is at fault. -/
inductive Passes (s : Settings) (around : Surroundings) (given : Value) : Error → Prop
  | expansion {setting : Setting} {t : Text} {e : Error} (hgiven : given = .null)
      (hs : s.setting? "config" = some setting) (hk : setting.kind = .path) (ht : s.stored setting = .text t)
      (h : Path.expand around.toHost t = .error e) : Passes s around given e
  | path {path : Value} (h : s.pathOr around.toHost given = .ok path) (hv : path.isTruthy = true)
      (ht : ∀ t, path ≠ .text t) (hb : ∀ bs, path ≠ .bytes bs) : Passes s around given .wrongType
  | file {path : Text} {bytes : Bytes} {e : Error} (h : s.pathOr around.toHost given = .ok (.text path))
      (hpath : checkPath (.text path) = .ok path) (hfile : around.file path = .content bytes)
      (hs : Slips s.schema around.readDocument bytes e) : Passes s around given e

variable {s : Settings} {given : Value}

theorem Passes.kind?_eq (h : Passes s around given e) : e.kind? = none := by
  cases h with
  | expansion _ _ _ _ h => exact (Path.isUnaskable_of_expand h).kind?_eq
  | path => rfl
  | file _ _ _ h => exact h.kind?_eq

theorem Passes.not_isReport (h : Passes s around given e) : ¬ e.IsReport := Error.not_isReport h.kind?_eq

/-- The path to load from is not known if it is the one that the settings name, and this cannot be expanded. -/
theorem pathOr_eq_error_iff :
    s.pathOr around.toHost given = .error e ↔
      given = .null ∧ ∃ setting t, s.setting? "config" = some setting ∧ setting.kind = .path ∧
        s.stored setting = .text t ∧ Path.expand around.toHost t = .error e := by
  by_cases hg : given = .null
  · subst hg
    rw [and_iff_right rfl, pathOr, configPath, get?]
    cases hs : s.setting? "config" with
    | none =>
      refine iff_of_false (fun h => by cases h) ?_
      rintro ⟨_, _, hnone, -⟩
      cases hnone
    | some setting =>
      rw [Option.map_some, Option.getD_some, read, Setting.shown_eq_error_iff]
      constructor
      · rintro ⟨hk, t, ht, h⟩
        exact ⟨setting, t, rfl, hk, ht, h⟩
      · rintro ⟨_, t, ⟨⟩, hk, ht, h⟩
        exact ⟨hk, t, ht, h⟩
  · rw [pathOr_of_ne_null hg]
    exact iff_of_false (fun h => by cases h) fun h => hg h.1

/-- A path is right, its extension is reported, or it is neither text nor bytes. -/
theorem checkPath_cases (path : Value) :
    (∃ t, path = .text t ∧ checkPath path = .ok t) ∨ (∃ reason, checkPath path = .error (.configFormat path reason)) ∨
      (∀ t, path ≠ .text t) ∧ (∀ bs, path ≠ .bytes bs) ∧ checkPath path = .error .wrongType := by
  cases path with
  | text t =>
    rw [checkPath, checkExtension]
    split
    case isTrue => exact .inl ⟨t, rfl, rfl⟩
    case isFalse => exact .inr (.inl ⟨_, rfl⟩)
  | bytes bs => exact .inr (.inl ⟨_, rfl⟩)
  | _ =>
    refine .inr (.inr ⟨fun t h => ?_, fun bs h => ?_, rfl⟩)
    · cases h
    · cases h

/-- A load from a path that fails otherwise than with a report passes a fault on. -/
theorem passes_of_resultAt {path : Value} (hgiven : s.pathOr around.toHost given = .ok path)
    (h : resultAt s.schema around path = .error e) (hn : ¬ e.IsReport) : Passes s around given e := by
  rw [resultAt] at h
  split at h
  case isFalse => cases h
  case isTrue hv =>
    rcases checkPath_cases path with ⟨t, rfl, ht⟩ | ⟨reason, hr⟩ | ⟨ht, hb, hw⟩
    · rw [ht] at h
      change Except.map _ (Content.ofFile s.schema around t) = _ at h
      cases hfile : Content.ofFile s.schema around t with
      | ok content =>
        rw [hfile] at h
        cases h
      | error e' =>
        rw [hfile] at h
        cases h
        obtain ⟨bytes, hbytes, hslips⟩ := (ofFile_eq_error hfile).resolve_left hn
        exact .file hgiven ht hbytes hslips
    · rw [hr] at h
      cases h
      exact absurd (.file _ _) hn
    · rw [hw] at h
      cases h
      exact .path hgiven hv ht hb

/-- A fault that is passed on is what the load comes to. -/
theorem Passes.result_eq (h : Passes s around given e) : (s.perform (setPersisted around given)).1 = .error e := by
  rw [setPersisted_result]
  cases h with
  | expansion hgiven hs hk ht h =>
    rw [pathOr_eq_error_iff.mpr ⟨hgiven, _, _, hs, hk, ht, h⟩]
    rfl
  | @path path h hv ht hb =>
    have hw : checkPath path = .error .wrongType := by
      cases path with
      | text t => exact absurd rfl (ht t)
      | bytes bs => exact absurd rfl (hb bs)
      | _ => rfl
    rw [h]
    dsimp only [Except.bind]
    rw [resultAt, if_pos hv, hw]
    rfl
  | file h hpath hfile hslips =>
    rw [h]
    dsimp only [Except.bind]
    rw [resultAt, if_pos (isTruthy_of_checkPath hpath), hpath]
    change Except.map _ (Content.ofFile s.schema around _) = _
    rw [hslips.ofFile_eq hfile]
    rfl

/-- A load from a path fails with a report, or with a fault that is passed on. -/
theorem setPersisted_error_iff (s : Settings) (around : Surroundings) (given : Value) :
    (s.perform (setPersisted around given)).1 = .error e ∧ ¬ e.IsReport ↔ Passes s around given e := by
  refine ⟨fun ⟨h, hn⟩ => ?_, fun h => ⟨h.result_eq, h.not_isReport⟩⟩
  rw [setPersisted_result] at h
  cases hpath : s.pathOr around.toHost given with
  | error e' =>
    rw [hpath] at h
    cases h
    obtain ⟨hgiven, setting, t, hs, hk, ht, hexpand⟩ := pathOr_eq_error_iff.mp hpath
    exact .expansion hgiven hs hk ht hexpand
  | ok path =>
    rw [hpath] at h
    exact passes_of_resultAt hpath h hn

end Settings

end Remit
