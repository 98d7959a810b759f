import Remit.Proofs.Check
import Remit.Proofs.Settings.Precedence

/-!
# What values mean to settings

A value from outside means something to a setting, or it does not convert. A source of values is looked through in order:
all that it supplies has to convert, and the first value that does not is reported.
-/

namespace Remit

namespace Setting

/-! ## Values -/

/-- The values of a kind. -/
inductive Kind.Admits : Kind → Value → Prop
  | text (t : Text) : Admits .text (.text t)
  | path (t : Text) : Admits .path (.text t)
  | decimal (x : Binary64) : Admits .decimal (.float x)
  | toggle (b : Bool) : Admits .toggle (.bool b)

/-- Are texts wanted? -/
def Kind.WantsText (kind : Kind) : Prop := kind = .text ∨ kind = .path

/-- The decimal that a value stands for: the value itself, or the one that is nearest to the number that it is or spells.
A number beyond all decimals has none. -/
def decimal? : Value → Option Binary64
  | .float x => some x
  | .bool b => Binary64.ofInt? b.toNat
  | .int i => Binary64.ofInt? i
  | .text t => Numeral.float? t
  | .bytes bs => decimalOfBytes? bs
  | _ => none

/-- What a value from outside means to a setting. Where texts are wanted anything means itself. -/
inductive Means (s : Setting) (v : Value) : Value → Prop
  | decimal {x : Binary64} (hk : s.kind = .decimal) (h : decimal? v = some x) : Means s v (.float x)
  | toggle (hk : s.kind = .toggle) : Means s v (.bool (truthOf v))
  | itself (hd : s.kind ≠ .decimal) (ht : s.kind ≠ .toggle) : Means s v v

/-- What is said of a value that does not convert. -/
def complaint (s : Setting) : Value → Error
  | .int _ => .floatOverflow
  | v => s.refusal v

/-- The value has to mean something to the setting. -/
def convertible (s : Setting) (v : Value) : Check := .of (∃ w, s.Means v w) (s.complaint v)

variable {s : Setting} {v w : Value}

theorem check_eq_ok_iff : s.check v = .ok () ↔ s.kind.Admits v := by
  obtain ⟨name, kind, default⟩ := s
  constructor
  · intro h
    cases kind <;> cases v <;> first | constructor | cases h
  · rintro (_ | _ | _ | _) <;> rfl

theorem decimalOf_eq (s : Setting) (v : Value) :
    s.decimalOf v = match decimal? v with | some x => .ok x | none => .error (s.complaint v) := by
  cases v <;> rfl

/-- Only decimals are asked for in vain. -/
theorem not_exists_means_iff : (¬ ∃ w, s.Means v w) ↔ s.kind = .decimal ∧ decimal? v = none := by
  constructor
  · intro h
    have hk : s.kind = .decimal := by
      by_contra hd
      by_cases ht : s.kind = .toggle
      · exact h ⟨_, .toggle ht⟩
      · exact h ⟨v, .itself hd ht⟩
    refine ⟨hk, ?_⟩
    cases hx : decimal? v with
    | none => rfl
    | some x => exact absurd ⟨_, .decimal hk hx⟩ h
  · rintro ⟨hk, hv⟩ ⟨w, ⟨-, hx⟩ | ht | ⟨hd, -⟩⟩
    · exact nomatch hv.symm.trans hx
    · exact nomatch hk.symm.trans ht
    · exact hd hk

theorem settles_parse (s : Setting) (v : Value) : Check.Settles [s.convertible v] (s.Means v) (s.parse v) := by
  rw [parse]
  split
  case h_1 hk =>
    rw [decimalOf_eq]
    cases hx : decimal? v with
    | some x =>
      refine .single (fun w hw => ?_) nofun
      cases hw
      exact ⟨⟨_, .decimal hk hx⟩, .decimal hk hx⟩
    | none =>
      refine .single nofun fun e he => ?_
      cases he
      exact ⟨not_exists_means_iff.mpr ⟨hk, hx⟩, rfl⟩
  case h_2 hk =>
    refine .single (fun w hw => ?_) nofun
    cases hw
    exact ⟨⟨_, .toggle hk⟩, .toggle hk⟩
  all_goals
    rename_i hk
    refine .single (fun w hw => ?_) nofun
    cases hw
    have itself : s.Means v v := .itself (by rw [hk]; nofun) (by rw [hk]; nofun)
    exact ⟨⟨v, itself⟩, itself⟩

theorem means_of_parse_eq_ok (h : s.parse v = .ok w) : s.Means v w := by
  have hp := settles_parse s v
  rw [h] at hp
  exact hp.2

theorem not_means_of_parse_eq_error {e : Error} (h : s.parse v = .error e) :
    (¬ ∃ w, s.Means v w) ∧ e = s.complaint v := by
  have hp := settles_parse s v
  rw [h] at hp
  obtain ⟨c, hc, he⟩ := Check.FirstFault.exists_reports hp
  obtain rfl := List.mem_singleton.mp hc
  refine ⟨fun hw => ?_, he⟩
  exact (Check.allHold_cons.mpr ⟨hw, Check.allHold_nil⟩).not_firstFault hp

theorem means_of_toOption_parse (h : (s.parse v).toOption = some w) : s.Means v w := by
  cases hp : s.parse v with
  | ok u =>
    rw [hp] at h
    cases h
    exact means_of_parse_eq_ok hp
  | error e =>
    rw [hp] at h
    cases h

theorem refusal_eq (s : Setting) (v : Value) :
    s.refusal v = if v.isShowable then .invalidSetting s.name v else .tooLongToShow := rfl

theorem complaint_eq_refusal (h : ∀ i, v ≠ .int i) : s.complaint v = s.refusal v := by
  cases v with
  | int i => exact absurd rfl (h i)
  | _ => rfl

/-! ## Words -/

theorem Kind.WantsText.admits {kind : Kind} (h : kind.WantsText) (t : Text) : kind.Admits (.text t) := by
  rcases h with rfl | rfl
  · exact .text t
  · exact .path t

/-- A value that means something to a setting is of its kind, unless the setting wants a text and it is none. -/
theorem Means.admits_or_foreign (h : s.Means v w) (hk : s.kind ≠ .loose) :
    s.kind.Admits w ∨ s.kind.WantsText ∧ ∀ t, w ≠ .text t := by
  cases h with
  | decimal hd hx => exact .inl (hd ▸ .decimal _)
  | toggle ht => exact .inl (ht ▸ .toggle _)
  | itself hd ht =>
    have htext : s.kind.WantsText := by
      rw [Kind.WantsText]
      cases hs : s.kind with
      | text => exact .inl rfl
      | path => exact .inr rfl
      | decimal => exact absurd hs hd
      | toggle => exact absurd hs ht
      | loose => exact absurd hs hk
    by_cases hv : ∃ t, v = .text t
    · obtain ⟨t, rfl⟩ := hv
      exact .inl (htext.admits t)
    · exact .inr ⟨htext, not_exists.mp hv⟩

/-- What the command line and the environment can hold for a setting: a text, or the truth value that a toggle is switched
to. -/
inductive IsWord (s : Setting) : Value → Prop
  | text (t : Text) : IsWord s (.text t)
  | switch (hk : s.kind = .toggle) (b : Bool) : IsWord s (.bool b)

theorem IsWord.complaint_eq (h : s.IsWord v) : s.complaint v = .invalidSetting s.name v := by cases h <;> rfl

/-- What a word means is of the kind of the setting. -/
theorem IsWord.admits (h : s.IsWord v) (hw : s.Means v w) (hk : s.kind ≠ .loose) : s.kind.Admits w := by
  cases hw with
  | decimal hd hx => exact hd ▸ .decimal _
  | toggle ht => exact ht ▸ .toggle _
  | itself hd ht =>
    cases h with
    | switch ht' => exact absurd ht' ht
    | text t => exact ((Means.itself hd ht).admits_or_foreign hk).resolve_right fun hf => hf.2 t rfl

/-- The word that a source supplies to the setting, if it supplies any, has to mean something. -/
def supplied (s : Setting) (v? : Option Value) : Check where
  holds := ∀ v, v? = some v → ∃ w, s.Means v w
  reports e := ∃ v, v? = some v ∧ e = .invalidSetting s.name v

end Setting

namespace Content

/-! ## Sources -/

variable {α : Type} {fault? : α → Option Error} {check : α → Check}

theorem eq_of_guarded_eq_ok {found? : Option Error} {content c : Content} (h : guarded found? content = .ok c) :
    c = content := by
  cases found? with
  | some e => cases h
  | none =>
    cases h
    rfl

/-- Where each part is checked, and an error is found where the check does not hold, the first error is the first fault. -/
theorem settles_guarded {items : List α} (hnone : ∀ a ∈ items, fault? a = none → (check a).holds)
    (hsome : ∀ a ∈ items, ∀ e, fault? a = some e → ¬ (check a).holds ∧ (check a).reports e) (content : Content) :
    Check.Settles (items.map check) (· = content) (guarded (items.findSome? fault?) content) := by
  induction items with
  | nil => exact .ok rfl
  | cons a items ih =>
    obtain ⟨hnone, hnones⟩ := List.forall_mem_cons.mp hnone
    obtain ⟨hsome, hsomes⟩ := List.forall_mem_cons.mp hsome
    replace ih := ih hnones hsomes
    rw [List.map_cons, List.findSome?_cons]
    cases ha : fault? a with
    | some e => exact ⟨[], check a, items.map check, rfl, Check.allHold_nil, hsome e ha⟩
    | none =>
      dsimp only
      have holds := hnone ha
      cases hf : items.findSome? fault? with
      | none =>
        rw [hf] at ih
        exact ⟨Check.allHold_cons.mpr ⟨holds, ih.1⟩, rfl⟩
      | some e =>
        rw [hf] at ih
        exact Check.FirstFault.after ih (Check.allHold_cons.mpr ⟨holds, Check.allHold_nil⟩)

theorem exists_means_of_faultOf?_eq_none {s : Setting} {v : Value} (h : faultOf? s v = none) : ∃ w, s.Means v w := by
  rw [faultOf?] at h
  cases hv : s.parse v with
  | ok w => exact ⟨w, Setting.means_of_parse_eq_ok hv⟩
  | error e =>
    rw [hv] at h
    cases h

theorem not_means_of_faultOf?_eq_some {s : Setting} {v : Value} {e : Error} (h : faultOf? s v = some e) :
    (¬ ∃ w, s.Means v w) ∧ e = s.complaint v := by
  rw [faultOf?] at h
  cases hv : s.parse v with
  | ok w =>
    rw [hv] at h
    cases h
  | error e' =>
    rw [hv] at h
    cases h
    exact Setting.not_means_of_parse_eq_error hv

/-- Settings are asked for in turn, and the words that are supplied to them have to mean something. -/
theorem settles_ofSource {schema : List Setting} {given? : Text → Option Value}
    (hwords : ∀ s ∈ schema, ∀ v, given? s.name = some v → s.IsWord v) :
    Check.Settles (schema.map fun s => s.supplied (given? s.name)) (· = meant schema given?) (ofSource schema given?) := by
  refine settles_guarded ?_ ?_ _
  · intro s _ hs v hv
    rw [hv, Option.bind_some] at hs
    exact exists_means_of_faultOf?_eq_none hs
  · intro s hmem e he
    obtain ⟨v, hv, he⟩ := Option.bind_eq_some_iff.mp he
    obtain ⟨hmeans, rfl⟩ := not_means_of_faultOf?_eq_some he
    exact ⟨fun h => hmeans (h v hv), v, hv, (hwords s hmem v hv).complaint_eq⟩

/-- The key of an entry has to be a text. What stands under the name of a setting has to mean something. -/
def entryCheck (schema : List Setting) (entry : Value × Value) : Check where
  holds := ∃ name, entry.1 = .text name ∧
    ∀ s, (schema.find? fun setting => setting.name == name) = some s → ∃ w, s.Means entry.2 w
  reports e := ((∀ name, entry.1 ≠ .text name) ∧ e = .wrongType) ∨
    ∃ name s, entry.1 = .text name ∧ (schema.find? fun setting => setting.name == name) = some s ∧ e = s.complaint entry.2

variable {schema : List Setting} {name : Text} {s : Setting} {v : Value} {e : Error}

theorem entryCheck_holds_iff (hs : (schema.find? fun setting => setting.name == name) = some s) :
    (entryCheck schema (.text name, v)).holds ↔ ∃ w, s.Means v w := by
  constructor
  · rintro ⟨_, ⟨⟩, h⟩
    exact h s hs
  · refine fun h => ⟨name, rfl, fun t ht => ?_⟩
    cases hs.symm.trans ht
    exact h

theorem entryCheck_reports_iff (hs : (schema.find? fun setting => setting.name == name) = some s) :
    (entryCheck schema (.text name, v)).reports e ↔ e = s.complaint v := by
  constructor
  · rintro (⟨h, -⟩ | ⟨_, t, ⟨⟩, ht, rfl⟩)
    · exact absurd rfl (h name)
    · cases hs.symm.trans ht
      rfl
  · exact fun h => .inr ⟨name, s, rfl, hs, h⟩

theorem entryCheck_of_forall_ne {key : Value} (h : ∀ t, key ≠ .text t) :
    ¬ (entryCheck schema (key, v)).holds ∧ (entryCheck schema (key, v)).reports .wrongType := by
  refine ⟨?_, .inl ⟨h, rfl⟩⟩
  rintro ⟨t, ht, -⟩
  exact h t ht

theorem settles_ofEntries (schema : List Setting) (entries : List (Value × Value)) :
    Check.Settles (entries.map (entryCheck schema)) (fun _ => True) (ofEntries schema entries) := by
  refine (settles_guarded ?_ ?_ _).mono fun _ _ => trivial
  · rintro ⟨key, v⟩ - hnone
    cases key with
    | text name =>
      refine ⟨name, rfl, fun s hs => ?_⟩
      rw [entryFault?, hs] at hnone
      exact exists_means_of_faultOf?_eq_none hnone
    | _ => cases hnone
  · rintro ⟨key, v⟩ - e he
    cases key with
    | text name =>
      obtain ⟨s, hs, he⟩ := Option.bind_eq_some_iff.mp he
      obtain ⟨hmeans, he⟩ := not_means_of_faultOf?_eq_some he
      exact ⟨mt (entryCheck_holds_iff hs).mp hmeans, (entryCheck_reports_iff hs).mpr he⟩
    | _ =>
      cases he
      refine entryCheck_of_forall_ne fun t ht => ?_
      cases ht

end Content

end Remit
