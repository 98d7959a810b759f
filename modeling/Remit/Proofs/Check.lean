import Remit.Error

/-!
# Checks in order

Where several things have to hold, they are looked at in a fixed order, and the first that does not hold is reported. A
check says what has to hold and which errors report that it does not. A result settles a list of checks if it is right
where all of them hold, and reports the first fault where not. Results that are bound together settle their checks one
list after the other, and the later ones only matter where the earlier ones hold.
-/

namespace Remit

variable {α β : Type}

theorem exists_of_bind_eq_ok {ε : Type} {x : Except ε α} {f : α → Except ε β} {b : β} (h : x >>= f = .ok b) :
    ∃ a, x = .ok a ∧ f a = .ok b := by
  cases x with
  | error e => cases h
  | ok a => exact ⟨a, rfl, h⟩

theorem eq_error_or_exists_of_bind_eq_error {ε : Type} {x : Except ε α} {f : α → Except ε β} {e : ε}
    (h : x >>= f = .error e) : x = .error e ∨ ∃ a, x = .ok a ∧ f a = .error e := by
  cases x with
  | error e' =>
    cases h
    exact .inl rfl
  | ok a => exact .inr ⟨a, rfl, h⟩

theorem mapM_eq_ok_map {ε : Type} {f : α → Except ε β} {g : α → β} {as : List α} (h : ∀ a ∈ as, f a = .ok (g a)) :
    as.mapM f = .ok (as.map g) := by
  induction as with
  | nil => rfl
  | cons a as ih =>
    rw [List.forall_mem_cons] at h
    rw [List.mapM_cons, h.1, ih h.2]
    rfl

/-- Something that has to hold, and the errors that report that it does not. -/
structure Check where
  holds : Prop
  reports : Error → Prop

namespace Check

/-- A check that one error reports. -/
def of (holds : Prop) (e : Error) : Check := ⟨holds, (· = e)⟩

/-- All checks hold. -/
def AllHold (checks : List Check) : Prop := ∀ c ∈ checks, c.holds

/-- The error reports the first check that does not hold. -/
def FirstFault (checks : List Check) (e : Error) : Prop :=
  ∃ before c after, checks = before ++ c :: after ∧ AllHold before ∧ ¬ c.holds ∧ c.reports e

/-- The result is a value of which `good` holds, and all checks hold, or it reports the first that does not. -/
def Settles (checks : List Check) (good : α → Prop) : Except Error α → Prop
  | .ok a => AllHold checks ∧ good a
  | .error e => FirstFault checks e

variable {c : Check} {checks others : List Check} {e : Error} {good : α → Prop} {result : Except Error α}

@[simp] theorem allHold_nil : AllHold [] := fun _ h => nomatch h

@[simp] theorem allHold_cons : AllHold (c :: checks) ↔ c.holds ∧ AllHold checks := List.forall_mem_cons

@[simp] theorem allHold_append : AllHold (checks ++ others) ↔ AllHold checks ∧ AllHold others := List.forall_mem_append

theorem AllHold.not_firstFault (h : AllHold checks) : ¬ FirstFault checks e := by
  rintro ⟨before, c, after, rfl, -, hc, -⟩
  exact hc (h c (List.mem_append_right _ List.mem_cons_self))

theorem FirstFault.exists_reports (h : FirstFault checks e) : ∃ c ∈ checks, c.reports e := by
  obtain ⟨before, c, after, rfl, -, -, hc⟩ := h
  exact ⟨c, List.mem_append_right _ List.mem_cons_self, hc⟩

/-- There is only one first check that does not hold. -/
theorem FirstFault.reports {before after : List Check} (h : FirstFault (before ++ c :: after) e) (hb : AllHold before)
    (hc : ¬ c.holds) : c.reports e := by
  obtain ⟨front, d, rest, heq, hf, hd, hr⟩ := h
  induction before generalizing front with
  | nil =>
    cases front with
    | nil =>
      cases heq
      exact hr
    | cons b front =>
      cases heq
      exact absurd (allHold_cons.mp hf).1 hc
  | cons b before ih =>
    cases front with
    | nil =>
      cases heq
      exact absurd (allHold_cons.mp hb).1 hd
    | cons b' front =>
      obtain ⟨-, htail⟩ := List.cons.inj heq
      exact ih (allHold_cons.mp hb).2 front htail (allHold_cons.mp hf).2

theorem FirstFault.append (h : FirstFault checks e) (others : List Check) : FirstFault (checks ++ others) e := by
  obtain ⟨before, c, after, rfl, hb, hc⟩ := h
  exact ⟨before, c, after ++ others, by rw [List.append_assoc, List.cons_append], hb, hc⟩

theorem FirstFault.after (h : FirstFault others e) (ha : AllHold checks) : FirstFault (checks ++ others) e := by
  obtain ⟨before, c, after, rfl, hb, hc⟩ := h
  exact ⟨checks ++ before, c, after, by rw [List.append_assoc], allHold_append.mpr ⟨ha, hb⟩, hc⟩

namespace Settles

theorem ok {a : α} (h : good a) : Settles [] good (.ok a) := ⟨allHold_nil, h⟩

/-- A single check. -/
theorem single (hok : ∀ a, result = .ok a → c.holds ∧ good a) (he : ∀ e, result = .error e → ¬ c.holds ∧ c.reports e) :
    Settles [c] good result := by
  cases result with
  | ok a => exact ⟨allHold_cons.mpr ⟨(hok a rfl).1, allHold_nil⟩, (hok a rfl).2⟩
  | error e => exact ⟨[], c, [], rfl, allHold_nil, he e rfl⟩

/-- A single check that a result makes, whose errors are reported in another form. -/
theorem mapError {ε : Type} {result : Except ε α} {f : ε → Error} (hc : c.holds ↔ ∃ a, result = .ok a)
    (he : ∀ e, result = .error e → c.reports (f e)) (hg : ∀ a, result = .ok a → good a) :
    Settles [c] good (result.mapError f) := by
  cases result with
  | ok a => exact ⟨allHold_cons.mpr ⟨hc.mpr ⟨a, rfl⟩, allHold_nil⟩, hg a rfl⟩
  | error e =>
    have hn : ¬ c.holds := fun h => by
      obtain ⟨a, ha⟩ := hc.mp h
      cases ha
    exact ⟨[], c, [], rfl, allHold_nil, hn, he e rfl⟩

theorem bind {good' : β → Prop} {next : α → Except Error β} (h : Settles checks good result)
    (hn : ∀ a, good a → Settles others good' (next a)) : Settles (checks ++ others) good' (result >>= next) := by
  cases result with
  | error e => exact FirstFault.append h others
  | ok a =>
    obtain ⟨hc, ha⟩ := h
    have hb := hn a ha
    change Settles _ _ (next a)
    cases hr : next a with
    | ok b =>
      rw [hr] at hb
      exact ⟨allHold_append.mpr ⟨hc, hb.1⟩, hb.2⟩
    | error e =>
      rw [hr] at hb
      exact FirstFault.after hb hc

/-- The first of several checks. -/
theorem cons {good' : β → Prop} {next : α → Except Error β} (h : Settles [c] good result)
    (hn : ∀ a, good a → Settles others good' (next a)) : Settles (c :: others) good' (result >>= next) :=
  h.bind hn

/-- A check that is made by a test, in front of others. -/
theorem test {b : Bool} (hb : b = true ↔ c.holds) (he : c.reports e) (h : c.holds → Settles checks good result) :
    Settles (c :: checks) good (if !b then .error e else result) := by
  cases b with
  | false => exact ⟨[], c, checks, rfl, allHold_nil, fun hc => (nomatch hb.mpr hc), he⟩
  | true =>
    have hc := hb.mp rfl
    have hr := h hc
    cases result with
    | ok a => exact ⟨allHold_cons.mpr ⟨hc, hr.1⟩, hr.2⟩
    | error e => exact FirstFault.after hr (allHold_cons.mpr ⟨hc, allHold_nil⟩)

/-- What is made of a result is subject to no further check. -/
theorem bind_pure {good' : β → Prop} {f : α → β} (h : Settles checks good result) (hf : ∀ a, good a → good' (f a)) :
    Settles checks good' (result >>= fun a => pure (f a)) := by
  cases result with
  | ok a => exact ⟨h.1, hf a h.2⟩
  | error e => exact h

theorem map {good' : β → Prop} {f : α → β} (h : Settles checks good result) (hf : ∀ a, good a → good' (f a)) :
    Settles checks good' (result.map f) := h.bind_pure hf

theorem mono {good' : α → Prop} (h : Settles checks good result) (hg : ∀ a, good a → good' a) :
    Settles checks good' result := by
  cases result with
  | ok a => exact ⟨h.1, hg a h.2⟩
  | error e => exact h

theorem exists_ok (h : Settles checks good result) (hc : AllHold checks) : ∃ a, result = .ok a ∧ good a := by
  cases result with
  | ok a => exact ⟨a, rfl, h.2⟩
  | error e => exact absurd h hc.not_firstFault

theorem exists_error (h : Settles checks good result) (hc : ¬ AllHold checks) :
    ∃ e, result = .error e ∧ FirstFault checks e := by
  cases result with
  | ok a => exact absurd h.1 hc
  | error e => exact ⟨e, rfl, h⟩

end Settles

end Check

end Remit
