import Mathlib.Data.List.Count
import Remit.Identity
import Remit.Proofs.Text.Case
import Remit.Proofs.Text.Trim

/-!
# Handles

A handle is spelled by its two sides with the mark between them and blanks around them. A side is not empty and has no
blank and no mark in it, and lower case leaves it so. That is why what is read of a text is read once more of the handle
that was found.
-/

namespace Remit

namespace Handle

/-- The text can stand at one side of the mark. -/
structure IsSide (t : Text) : Prop where
  ne_nil : t ≠ []
  not_mem : mark ∉ t
  not_isBlank : ∀ c ∈ t, Text.isBlank c = false

/-- The text spells the two sides. -/
structure Spells (t name host : Text) : Prop where
  isSide_name : IsSide name
  isSide_host : IsSide host
  exists_blanks : ∃ front back, (∀ c ∈ front ++ back, Text.isBlank c = true) ∧
    front ++ (name ++ mark :: host) ++ back = t

variable {t name host : Text} {handle : Handle}

/-! ## Sides -/

theorem isBlank_mark : Text.isBlank mark = false := by decide

theorem not_isFree_mark : ¬ Text.IsFree mark := by decide

theorem not_mem_of_isBlank (h : ∀ c ∈ t, Text.isBlank c = true) : mark ∉ t := by
  intro hmem
  cases isBlank_mark.symm.trans (h mark hmem)

/-- Neither the mark nor a blank comes in with lower case. -/
theorem IsSide.lower (h : IsSide t) : IsSide (Text.lower t) where
  ne_nil := Text.lower_ne_nil h.ne_nil
  not_mem hmem := h.not_mem (Text.mem_of_mem_lower hmem not_isFree_mark)
  not_isBlank c hc := by
    by_contra hblank
    rw [Bool.not_eq_false] at hblank
    have hmem := Text.mem_of_mem_lower hc (Text.not_isFree_of_isBlank hblank)
    cases hblank.symm.trans (h.not_isBlank c hmem)

/-- No blank is between the two sides. -/
theorem not_isBlank_of_isSide (hn : IsSide name) (hh : IsSide host) :
    ∀ c ∈ name ++ mark :: host, Text.isBlank c = false := by
  rw [List.forall_mem_append, List.forall_mem_cons]
  exact ⟨hn.not_isBlank, isBlank_mark, hh.not_isBlank⟩

/-! ## Spelling -/

theorem Spells.strip_eq (h : Spells t name host) : Text.strip t = name ++ mark :: host := by
  obtain ⟨front, back, hends, rfl⟩ := h.exists_blanks
  exact Text.trim_append hends (not_isBlank_of_isSide h.isSide_name h.isSide_host) (by simp)

theorem Spells.count_mark (h : Spells t name host) : t.count mark = 1 := by
  obtain ⟨front, back, hends, rfl⟩ := h.exists_blanks
  obtain ⟨hfront, hback⟩ := List.forall_mem_append.mp hends
  simp only [List.count_append, List.count_cons_self, List.count_eq_zero.mpr (not_mem_of_isBlank hfront),
    List.count_eq_zero.mpr (not_mem_of_isBlank hback), List.count_eq_zero.mpr h.isSide_name.not_mem,
    List.count_eq_zero.mpr h.isSide_host.not_mem]

/-- A text spells two sides if there is one mark in it, and if between the blanks around it there is no further one and
something on either side of the mark. -/
theorem spells_iff : Spells t name host ↔
    t.count mark = 1 ∧ (∀ c ∈ Text.strip t, Text.isBlank c = false) ∧ Text.strip t = name ++ mark :: host ∧
      name ≠ [] ∧ host ≠ [] := by
  constructor
  · intro h
    refine ⟨h.count_mark, ?_, h.strip_eq, h.isSide_name.ne_nil, h.isSide_host.ne_nil⟩
    rw [h.strip_eq]
    exact not_isBlank_of_isSide h.isSide_name h.isSide_host
  · rintro ⟨hcount, hblank, hstrip, hname, hhost⟩
    obtain ⟨front, back, hends, ht⟩ := Text.exists_append_trim_append Text.isBlank t
    change front ++ Text.strip t ++ back = t at ht
    rw [hstrip] at ht hblank
    rw [List.forall_mem_append, List.forall_mem_cons] at hblank
    -- The one mark of the text is the one between the sides.
    have hzero : name.count mark = 0 ∧ host.count mark = 0 := by
      rw [← ht] at hcount
      simp only [List.count_append, List.count_cons_self] at hcount
      omega
    rw [List.count_eq_zero, List.count_eq_zero] at hzero
    exact ⟨⟨hname, hzero.1, hblank.1⟩, ⟨hhost, hzero.2, hblank.2.2⟩, front, back, hends, ht⟩

/-- The sides side by side spell themselves. -/
theorem spells_append (hn : IsSide name) (hh : IsSide host) : Spells (name ++ [mark] ++ host) name host :=
  ⟨hn, hh, [], [], List.forall_mem_nil _, by rw [List.append_nil, List.nil_append, List.append_assoc]; rfl⟩

/-! ## Reading -/

theorem parse?_of_spells (h : Spells t name host) : parse? t = some ⟨Text.lower name, Text.lower host⟩ := by
  have hsplit : Text.splitFirst mark (Text.strip t) = (name, some host) :=
    Text.splitFirst_eq_some.mpr ⟨h.strip_eq, h.isSide_name.not_mem⟩
  have hblank : (Text.strip t).any Text.isBlank = false := by
    simpa only [List.any_eq_false, Bool.not_eq_true] using (spells_iff.mp h).2.1
  have hempty : (name.isEmpty || host.isEmpty) = false := by
    rw [Bool.or_eq_false_iff, List.isEmpty_eq_false_iff, List.isEmpty_eq_false_iff]
    exact ⟨h.isSide_name.ne_nil, h.isSide_host.ne_nil⟩
  simp only [parse?, h.count_mark, hsplit, hempty, hblank, ne_eq, not_true_eq_false, if_false, Bool.or_self,
    Bool.false_eq_true]

theorem exists_spells_of_parse? (h : parse? t = some handle) :
    ∃ name host, Spells t name host ∧ handle = ⟨Text.lower name, Text.lower host⟩ := by
  rw [parse?] at h
  split_ifs at h with hcount
  dsimp only at h
  split at h
  case h_1 name host hsplit =>
    split_ifs at h with hbad
    rw [Bool.or_eq_true, Bool.or_eq_true, not_or, not_or, List.isEmpty_iff, List.isEmpty_iff, Bool.not_eq_true,
      List.any_eq_false] at hbad
    obtain ⟨⟨hname, hhost⟩, hblank⟩ := hbad
    have hstrip := (Text.splitFirst_eq_some.mp hsplit).1
    refine ⟨name, host, spells_iff.mpr ⟨Decidable.not_not.mp hcount, ?_, hstrip, hname, hhost⟩, ?_⟩
    · exact fun c hc => eq_false_of_ne_true (hblank c hc)
    · exact (Option.some.inj h).symm
  case h_2 => cases h

/-- What a text is read as: its sides in lower case. -/
theorem parse?_eq_some :
    parse? t = some handle ↔ ∃ name host, Spells t name host ∧ handle = ⟨Text.lower name, Text.lower host⟩ := by
  constructor
  · exact exists_spells_of_parse?
  · rintro ⟨name, host, hs, rfl⟩
    exact parse?_of_spells hs

theorem parse_eq_ok {v : Value} : parse v = .ok handle ↔ v.toText?.bind parse? = some handle := by
  rw [parse]
  cases v.toText?.bind parse? with
  | none => exact iff_of_false (fun h => nomatch h) (fun h => nomatch h)
  | some found => rw [Except.ok.injEq, Option.some.injEq]

theorem parse_text_eq_ok :
    parse (.text t) = .ok handle ↔ ∃ name host, Spells t name host ∧ handle = ⟨Text.lower name, Text.lower host⟩ :=
  parse_eq_ok.trans parse?_eq_some

theorem parse_text_eq_error (h : ∀ handle, parse (.text t) ≠ .ok handle) :
    parse (.text t) = .error (.invalidHandle (.text t)) := by
  have hnone : (Value.text t).toText?.bind parse? = none := by
    rw [Option.eq_none_iff_forall_ne_some]
    exact fun handle hv => h handle (parse_eq_ok.mpr hv)
  rw [parse, hnone, Error.raised_eq_self rfl]

/-- A handle that was read is what its text spells. -/
theorem parse_text_of_parse {v : Value} (h : parse v = .ok handle) : parse (.text handle.text) = .ok handle := by
  obtain ⟨t, -, ht⟩ := Option.bind_eq_some_iff.mp (parse_eq_ok.mp h)
  obtain ⟨name, host, hs, rfl⟩ := parse?_eq_some.mp ht
  refine parse_text_eq_ok.mpr ⟨_, _, spells_append hs.isSide_name.lower hs.isSide_host.lower, ?_⟩
  rw [Text.lower_lower, Text.lower_lower]

end Handle

theorem Identity.ofHandle_eq_ok {v : Value} {capabilities : Capabilities} {i : Identity} :
    ofHandle v capabilities = .ok i ↔ Handle.parse v = .ok i.handle ∧ i.capabilities = capabilities := by
  rw [ofHandle]
  cases hp : Handle.parse v with
  | error e => exact iff_of_false (fun h => nomatch h) (fun h => nomatch h.1)
  | ok handle =>
    constructor
    · rintro ⟨⟩
      exact ⟨rfl, rfl⟩
    · rintro ⟨hh, rfl⟩
      cases hh
      rfl

/-- A text is read as a handle if and only if it has one mark, no blank but around the whole, and something on either
side of the mark; then the sides in lower case are the handle. Every other text is refused and named in the error. What
was read is read of its own text once more, and so is an identity. -/
theorem Handle.parse_reads_spelled (t : Text) :
    ((∃ handle, parse (.text t) = .ok handle) ↔
        t.count mark = 1 ∧ (∀ c ∈ Text.strip t, Text.isBlank c = false) ∧
          ∃ name host, Text.strip t = name ++ mark :: host ∧ name ≠ [] ∧ host ≠ []) ∧
      (∀ handle, parse (.text t) = .ok handle ↔
        ∃ name host, Spells t name host ∧ handle = ⟨Text.lower name, Text.lower host⟩) ∧
      ((∀ handle, parse (.text t) ≠ .ok handle) → parse (.text t) = .error (.invalidHandle (.text t))) ∧
      (∀ handle, parse (.text t) = .ok handle → parse (.text handle.text) = .ok handle) ∧
      ∀ v capabilities i, Identity.ofHandle v capabilities = .ok i →
        Identity.ofHandle (.text i.handle.text) i.capabilities = .ok i := by
  refine ⟨?_, fun _ => parse_text_eq_ok, parse_text_eq_error, fun _ => parse_text_of_parse, fun v capabilities i h => ?_⟩
  · simp only [parse_text_eq_ok, spells_iff]
    constructor
    · rintro ⟨_, name, host, ⟨hcount, hblank, hsides⟩, -⟩
      exact ⟨hcount, hblank, name, host, hsides⟩
    · rintro ⟨hcount, hblank, name, host, hsides⟩
      exact ⟨_, name, host, ⟨hcount, hblank, hsides⟩, rfl⟩
  · obtain ⟨hp, -⟩ := Identity.ofHandle_eq_ok.mp h
    exact Identity.ofHandle_eq_ok.mpr ⟨parse_text_of_parse hp, rfl⟩

/-- A sigma at the end of a word and one before a dot, and a dotted I, which becomes two code points. A text with a
blank in front of the mark is no handle. -/
theorem Handle.parse_reads_spelled_greek :
    ∃ handle : Handle, handle.text = ("οδος@i\u0307σ.gr" : Text) ∧
      parse (.text "\u2003ΟΔΟΣ@\u0130Σ.GR\n") = .ok handle ∧ parse (.text handle.text) = .ok handle ∧
      Identity.ofHandle (.text handle.text) .empty = .ok ⟨handle, .empty⟩ ∧
      parse (.text "a @b") = .error (.invalidHandle (.text "a @b")) := by
  obtain ⟨-, -, -, hagain, hidentity⟩ := parse_reads_spelled "\u2003ΟΔΟΣ@\u0130Σ.GR\n"
  obtain ⟨-, -, hrefused, -, -⟩ := parse_reads_spelled "a @b"
  have hread : parse (.text "\u2003ΟΔΟΣ@\u0130Σ.GR\n") = .ok ⟨"οδος", "i\u0307σ.gr"⟩ := by
    rw [parse_eq_ok]
    decide +kernel
  have hnone : parse? "a @b" = none := by decide
  have hunread (handle : Handle) : parse (.text "a @b") ≠ .ok handle := by
    intro h
    cases hnone.symm.trans (parse_eq_ok.mp h)
  have hmade : Identity.ofHandle (.text "\u2003ΟΔΟΣ@\u0130Σ.GR\n") .empty = .ok ⟨⟨"οδος", "i\u0307σ.gr"⟩, .empty⟩ :=
    Identity.ofHandle_eq_ok.mpr ⟨hread, rfl⟩
  exact ⟨_, by decide, hread, hagain _ hread, hidentity _ _ _ hmade, hrefused hunread⟩

end Remit
