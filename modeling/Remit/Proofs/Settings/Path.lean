import Remit.Proofs.Check
import Remit.Settings.Basic

/-!
# Paths that cannot be read

What is abbreviated in a path is asked of the system by name. A path fails to be expanded only if one of these names cannot
be put to the system: it has no bytes there, or it would end too early. A setting with such a path cannot be read, and all
others can.
-/

namespace Remit

/-- A name cannot be put to the system. -/
inductive Error.IsUnaskable : Error → Prop
  | encoding (fault : Utf8.EncodeFault) : IsUnaskable (.encoding fault)
  | embeddedNull : IsUnaskable .embeddedNull

theorem Error.IsUnaskable.kind?_eq {e : Error} (h : e.IsUnaskable) : e.kind? = none := by cases h <;> rfl

variable {name path : Text} {e : Error}

theorem Error.isUnaskable_of_encodeForSystem
    (h : (Utf8.encodeForSystem name).mapError Error.encoding = .error e) : e.IsUnaskable := by
  cases hn : Utf8.encodeForSystem name with
  | error fault =>
    rw [hn] at h
    cases h
    exact .encoding fault
  | ok key =>
    rw [hn] at h
    cases h

theorem Environment.isUnaskable_of_get? {env : Environment} (h : env.get? name = .error e) : e.IsUnaskable := by
  rcases eq_error_or_exists_of_bind_eq_error h with h | ⟨_, -, h⟩
  · exact Error.isUnaskable_of_encodeForSystem h
  · cases h

theorem Host.isUnaskable_of_home? {host : Host} (h : host.home? name = .error e) : e.IsUnaskable := by
  rw [home?] at h
  split at h
  case isTrue =>
    rcases eq_error_or_exists_of_bind_eq_error h with h | ⟨_, -, h⟩
    · exact Environment.isUnaskable_of_get? h
    · cases h
  case isFalse =>
    rcases eq_error_or_exists_of_bind_eq_error h with h | ⟨_, -, h⟩
    · exact Error.isUnaskable_of_encodeForSystem h
    · split at h
      case isTrue =>
        cases h
        exact .embeddedNull
      case isFalse => cases h

namespace Path

theorem isUnaskable_of_expandVariablesFrom {env : Environment} {skip : Nat}
    (h : expandVariablesFrom env skip path = .error e) : e.IsUnaskable := by
  induction skip, path using expandVariablesFrom.induct with
  | case1 skip => cases h
  | case2 skip c rest ih => exact ih h
  | case3 c rest name n hr ih =>
    rw [expandVariablesFrom, hr] at h
    rcases eq_error_or_exists_of_bind_eq_error h with h | ⟨_, -, h⟩
    · exact Environment.isUnaskable_of_get? h
    · rcases eq_error_or_exists_of_bind_eq_error h with h | ⟨_, -, h⟩
      · exact ih h
      · cases h
  | case4 c rest hr ih =>
    rw [expandVariablesFrom, hr] at h
    rcases eq_error_or_exists_of_bind_eq_error h with h | ⟨_, -, h⟩
    · exact ih h
    · cases h

/-- A path can be expanded unless a name in it cannot be put to the system. -/
theorem isUnaskable_of_expand {host : Host} (h : expand host path = .error e) : e.IsUnaskable := by
  rcases eq_error_or_exists_of_bind_eq_error h with h | ⟨expanded, -, h⟩
  · exact isUnaskable_of_expandVariablesFrom h
  · cases expanded with
    | nil => cases h
    | cons c rest =>
      rw [expandHome] at h
      split at h
      case isTrue =>
        rcases eq_error_or_exists_of_bind_eq_error h with h | ⟨home?, -, h⟩
        · exact Host.isUnaskable_of_home? h
        · cases home? <;> cases h
      case isFalse => cases h

end Path

namespace Setting

variable {setting : Setting} {host : Host} {v w : Value}

theorem shown_of_path (hk : setting.kind = .path) (host : Host) (t : Text) :
    setting.shown host (.text t) = (Path.expand host t).map .text := by
  obtain ⟨name, kind, default⟩ := setting
  obtain rfl : kind = .path := hk
  rfl

/-- A value is read as it is, or it is a path and is expanded. -/
theorem shown_cases (host : Host) (setting : Setting) (v : Value) :
    setting.shown host v = .ok v ∨
      setting.kind = .path ∧ ∃ t, v = .text t ∧ setting.shown host v = (Path.expand host t).map .text := by
  unfold shown
  split
  case h_1 t hk => exact .inr ⟨hk, t, rfl, rfl⟩
  case h_2 => exact .inl rfl

theorem shown_of_forall_ne (h : ∀ t, v ≠ .text t) (host : Host) : setting.shown host v = .ok v :=
  (shown_cases host setting v).resolve_right fun ⟨_, t, ht, _⟩ => h t ht

theorem shown_eq_error_iff :
    setting.shown host v = .error e ↔ setting.kind = .path ∧ ∃ t, v = .text t ∧ Path.expand host t = .error e := by
  constructor
  · intro h
    rcases shown_cases host setting v with hs | ⟨hk, t, rfl, hs⟩
    · cases hs.symm.trans h
    · rw [hs] at h
      cases ht : Path.expand host t with
      | error e' =>
        rw [ht] at h
        cases h
        exact ⟨hk, t, rfl, ht⟩
      | ok path =>
        rw [ht] at h
        cases h
  · rintro ⟨hk, t, rfl, ht⟩
    rw [shown_of_path hk host t, ht]
    rfl

end Setting

end Remit
