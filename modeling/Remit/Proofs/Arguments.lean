import Remit.Arguments
import Remit.Proofs.Check

/-!
# Where the values of a command line come from

Whatever the words of a command line are, a value that is filed under a name was filed by an option or an operand of that
name: it is the text that the option takes, or the value that it stands for.
-/

namespace Remit

namespace Arguments

/-! ## Options that words mean -/

/-- If the word is a known option, it is one of these. -/
def Word.IsOf (flags : List Flag) : Word → Prop
  | .flag (some f) _ => f ∈ flags
  | _ => True

variable {flags : List Flag} {f : Flag}

theorem mem_of_find? {spelling : Text} (h : find? flags spelling = some f) : f ∈ flags := List.mem_of_find?_eq_some h

theorem mem_of_mem_candidates {t : Text} {p : Flag × Attachment} (h : p ∈ candidates flags t) : p.1 ∈ flags := by
  unfold candidates at h
  split at h
  case h_1 a b rest =>
    split at h
    · dsimp only at h
      obtain ⟨f, hf, rfl⟩ := List.mem_map.mp h
      exact (List.mem_filter.mp hf).1
    · obtain ⟨f, hf, hp⟩ := List.mem_filterMap.mp h
      split at hp
      · cases hp
        exact hf
      · split at hp
        · cases hp
          exact hf
        · cases hp
  case h_2 => cases h

theorem isOf_of_classify {t : Text} {w : Word} (h : classify flags t = .ok w) : w.IsOf flags := by
  rw [classify] at h
  split at h
  · cases h
    trivial
  · split at h
    case h_1 f hf =>
      cases h
      exact mem_of_find? hf
    case h_2 =>
      dsimp only at h
      split at h
      case h_1 f _ hf =>
        cases h
        exact mem_of_find? hf
      case h_2 =>
        split at h
        case h_1 f attached hc =>
          cases h
          exact mem_of_mem_candidates (hc ▸ List.mem_singleton_self (f, attached))
        case h_2 =>
          cases h
          split <;> trivial
        case h_3 => cases h

theorem isOf_of_words {line : List Text} {ws : List Word} (h : words flags line = .ok ws) : ∀ w ∈ ws, w.IsOf flags := by
  induction line generalizing ws with
  | nil =>
    cases h
    exact fun _ h => nomatch h
  | cons t ts ih =>
    rw [words] at h
    split at h
    · cases h
      rintro w (_ | ⟨_, hw⟩)
      · trivial
      · obtain ⟨t, -, rfl⟩ := List.mem_map.mp hw
        trivial
    · obtain ⟨w, hc, h⟩ := exists_of_bind_eq_ok h
      obtain ⟨ws', hws, h⟩ := exists_of_bind_eq_ok h
      cases h
      exact List.forall_mem_cons.mpr ⟨isOf_of_classify hc, ih hws⟩

theorem mem_of_bundle (hf : f ∈ flags) {t : Text} {options : List (Flag × Attachment)} {isStrange : Bool}
    (h : bundle flags f t = .ok (options, isStrange)) : ∀ p ∈ options, p.1 ∈ flags := by
  induction t generalizing f options isStrange with
  | nil =>
    cases h
    exact List.forall_mem_singleton.mpr hf
  | cons c rest ih =>
    rw [bundle] at h
    split at h
    · cases h
      exact List.forall_mem_singleton.mpr hf
    · split at h
      · cases h
      · split at h
        case h_1 =>
          cases h
          exact List.forall_mem_singleton.mpr hf
        case h_2 g hg =>
          have hg := mem_of_find? hg
          split at h
          · split at h
            · cases h
              exact List.forall_mem_cons.mpr ⟨hf, List.forall_mem_singleton.mpr hg⟩
            · cases h
          · cases hb : bundle flags g rest with
            | error e =>
              rw [hb] at h
              cases h
            | ok p =>
              rw [hb] at h
              cases h
              exact List.forall_mem_cons.mpr ⟨hf, ih hg hb⟩

theorem mem_of_optionsIn (hf : f ∈ flags) {attached : Attachment} {options : List (Flag × Attachment)} {isStrange : Bool}
    (h : optionsIn flags f attached = .ok (options, isStrange)) : ∀ p ∈ options, p.1 ∈ flags := by
  cases attached with
  | joined t => exact mem_of_bundle hf h
  | assigned t =>
    rw [optionsIn] at h
    split at h
    · cases h
      exact List.forall_mem_singleton.mpr hf
    · cases h
  | none =>
    cases h
    exact List.forall_mem_singleton.mpr hf

/-! ## What is filed -/

/-- The values that an option files: the text that it takes, or the value that it stands for. -/
inductive Flag.Files (f : Flag) : Value → Prop
  | taken (t : Text) (h : f.effect = .take) : Files f (.text t)
  | fixed (v : Value) (h : f.effect = .put v) : Files f v

/-- Every value was filed by an option or an operand of its name. -/
def Sourced (flags : List Flag) (operands : List Operand) (values : List (Text × Value)) : Prop :=
  ∀ e ∈ values, (∃ f ∈ flags, f.target = e.1 ∧ f.Files e.2) ∨ ∃ o ∈ operands, o.name = e.1

variable {operands : List Operand}

theorem Sourced.file {name : Text} {v : Value} {st : State} (h : Sourced flags operands st.values)
    (hv : (∃ f ∈ flags, f.target = name ∧ f.Files v) ∨ ∃ o ∈ operands, o.name = name) :
    Sourced flags operands (st.file name v).values := by
  intro e he
  rcases List.mem_append.mp he with he | he
  · exact h e ((List.mem_filter.mp he).1)
  · obtain rfl := List.mem_singleton.mp he
    exact hv

/-- Options file values of their own and leave the operands alone. -/
theorem sourced_of_perform {next : Option Text} {options : List (Flag × Attachment)} {st st' : State} {usesNext : Bool}
    (hm : ∀ p ∈ options, p.1 ∈ flags) (hs : Sourced flags operands st.values)
    (h : perform next options st = .ok (st', usesNext)) :
    Sourced flags operands st'.values ∧ st'.operands = st.operands := by
  fun_induction perform next options st with
  | case1 =>
    cases h
    exact ⟨hs, rfl⟩
  | case2 => cases h
  | case3 f _ st v others next he ih =>
    obtain ⟨hf, ho⟩ := List.forall_mem_cons.mp hm
    exact ih ho (hs.file (.inl ⟨f, hf, rfl, .fixed v he⟩)) h
  | case4 f st t others next he ih =>
    obtain ⟨hf, ho⟩ := List.forall_mem_cons.mp hm
    exact ih ho (hs.file (.inl ⟨f, hf, rfl, .taken t he⟩)) h
  | case5 f _ st t he =>
    cases h
    exact ⟨hs.file (.inl ⟨f, (List.forall_mem_cons.mp hm).1, rfl, .taken t he⟩), rfl⟩
  | case6 => cases h

/-- Words file values of the options that they mean, and of operands that are still to come. -/
theorem sourced_of_readWords {before : Before} {ws : List Word} (hw : ∀ w ∈ ws, w.IsOf flags) {st st' : State}
    (ho : ∀ o ∈ st.operands, o ∈ operands) (hs : Sourced flags operands st.values)
    (h : readWords flags before st ws = .ok st') : Sourced flags operands st'.values := by
  fun_induction readWords flags before st ws
  case case1 =>
    cases h
    exact hs
  case case2 ih | case3 ih | case4 ih | case5 ih | case8 ih => exact ih (List.forall_mem_cons.mp hw).2 ho hs h
  case case6 => cases h
  case case7 st _ _ o others hst v _ ih =>
    rw [hst, List.forall_mem_cons] at ho
    exact ih (List.forall_mem_cons.mp hw).2 ho.2 (hs.file (.inr ⟨o, ho.1, rfl⟩)) h
  case case9 st f attached rest ih =>
    obtain ⟨hf, hrest⟩ := List.forall_mem_cons.mp hw
    obtain ⟨⟨options, isStrange⟩, hopt, h⟩ := exists_of_bind_eq_ok h
    obtain ⟨⟨st₁, usesNext⟩, hperform, h⟩ := exists_of_bind_eq_ok h
    have hnote : Sourced flags operands (st.note isStrange).values := hs
    obtain ⟨hs₁, ho₁⟩ := sourced_of_perform (mem_of_optionsIn hf hopt) hnote hperform
    dsimp only at h
    replace ih := ih st₁
    replace ho : ∀ o ∈ st₁.operands, o ∈ operands := fun o hm => ho o (ho₁ ▸ hm)
    split at h
    case h_1 w others =>
      split at h
      · exact ih.1 (List.forall_mem_cons.mp hrest).2 ho hs₁ h
      · exact ih.2 hrest ho hs₁ h
    case h_2 =>
      cases h
      exact hs₁

/-- A grammar reads values of its options and operands. -/
theorem Grammar.sourced_of_readPart {g : Grammar} {line : List Text} {values : List (Text × Value)} {isStrange : Bool}
    (h : g.readPart line = .ok (values, isStrange)) : Sourced g.flags g.operands values := by
  obtain ⟨ws, hws, h⟩ := exists_of_bind_eq_ok h
  obtain ⟨st, hst, h⟩ := exists_of_bind_eq_ok h
  split at h
  · cases h
  · cases h
    refine sourced_of_readWords (isOf_of_words hws) ?_ ?_ hst
    · exact fun _ ho => ho
    · exact List.forall_mem_nil _

/-- The values behind the name of a command are read by its grammar. -/
theorem readPart_of_readCommand {grammar? : Text → Option Grammar} {line : List Text} {name : Text}
    {values : List (Text × Value)} (h : readCommand flags grammar? line = .ok (name, values)) :
    ∃ g rest isStrange, grammar? name = some g ∧ g.readPart rest = .ok (values, isStrange) := by
  obtain ⟨ws, -, h⟩ := exists_of_bind_eq_ok h
  obtain ⟨⟨n, rest, isStrange⟩, -, h⟩ := exists_of_bind_eq_ok h
  dsimp only at h
  cases hg : grammar? n with
  | none =>
    rw [hg] at h
    cases h
  | some g =>
    rw [hg] at h
    obtain ⟨⟨read, others⟩, hread, h⟩ := exists_of_bind_eq_ok h
    dsimp only at h
    split at h
    · cases h
    · cases h
      exact ⟨g, rest, others, hg, hread⟩

end Arguments

end Remit
