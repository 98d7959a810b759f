import Mathlib.Data.List.Lex
import Remit.Calendar

/-!
# The calendar

The days of the calendar follow one another: the day after a day is the next one of its month, the first one of the next
month, or the first one of the next year. Their numbers count them in just this order, beginning with none for the first
day of year 1, so a day is known by its number, and of two days the earlier one is told by year, month and day in turn.
-/

namespace Remit

namespace Date

/-! ## Days that follow one another -/

/-- The day is one of the calendar, in any year from 1 on. -/
structure IsValid (d : Date) : Prop where
  year_pos : 1 ≤ d.year
  month_pos : 1 ≤ d.month
  month_le : d.month ≤ 12
  day_pos : 1 ≤ d.day
  day_le : d.day ≤ daysInMonth d.year d.month

instance : DecidablePred IsValid := fun d =>
  decidable_of_iff (1 ≤ d.year ∧ 1 ≤ d.month ∧ d.month ≤ 12 ∧ 1 ≤ d.day ∧ d.day ≤ daysInMonth d.year d.month)
    ⟨fun ⟨h₁, h₂, h₃, h₄, h₅⟩ => ⟨h₁, h₂, h₃, h₄, h₅⟩, fun ⟨h₁, h₂, h₃, h₄, h₅⟩ => ⟨h₁, h₂, h₃, h₄, h₅⟩⟩

/-- The day after a day. -/
def next (d : Date) : Date :=
  if d.day < daysInMonth d.year d.month then ⟨d.year, d.month, d.day + 1⟩
  else if d.month < 12 then ⟨d.year, d.month + 1, 1⟩
  else ⟨d.year + 1, 1, 1⟩

/-- Year, month and day of the month. -/
def fields (d : Date) : List Nat := [d.year, d.month, d.day]

theorem fields_injective : Function.Injective fields := by
  rintro ⟨y, m, d⟩ ⟨y', m', d'⟩ h
  simpa [fields] using h

variable {d e : Date}

/-! ## Years -/

theorem isLeap_iff {year : Nat} : isLeap year = true ↔ year % 4 = 0 ∧ (year % 100 ≠ 0 ∨ year % 400 = 0) := by
  simp only [isLeap, Bool.and_eq_true, Bool.or_eq_true, beq_iff_eq, bne_iff_ne]

theorem daysOfYears_succ (years : Nat) : daysOfYears (years + 1) = daysOfYears years + daysInYear (years + 1) := by
  have hle : years / 100 ≤ years / 4 := Nat.div_le_div_left (by decide) (by decide)
  simp only [daysOfYears, daysInYear, isLeap_iff, Nat.succ_div, Nat.dvd_iff_mod_eq_zero]
  split <;> split <;> split <;> split <;> omega

theorem daysOfYears_le {m n : Nat} (h : m ≤ n) : daysOfYears m ≤ daysOfYears n := by
  induction h with
  | refl => exact Nat.le_refl _
  | step _ ih =>
    rw [daysOfYears_succ]
    exact Nat.le_add_right_of_le ih

/-- The days of a year follow those of the years before it. -/
theorem daysOfYears_eq {year : Nat} (h : 1 ≤ year) : daysOfYears year = daysOfYears (year - 1) + daysInYear year := by
  obtain ⟨year, rfl⟩ := Nat.exists_eq_add_of_le' h
  exact daysOfYears_succ year

/-! ## Months -/

theorem daysBeforeMonth_succ (year : Nat) {month : Nat} (h : 1 ≤ month) :
    daysBeforeMonth year (month + 1) = daysBeforeMonth year month + daysInMonth year month := by
  obtain ⟨month, rfl⟩ := Nat.exists_eq_add_of_le' h
  rfl

theorem daysBeforeMonth_le (year : Nat) {m n : Nat} (hm : 1 ≤ m) (h : m ≤ n) :
    daysBeforeMonth year m ≤ daysBeforeMonth year n := by
  induction h with
  | refl => exact Nat.le_refl _
  | step hle ih =>
    rw [daysBeforeMonth_succ year (Nat.le_trans hm hle)]
    exact Nat.le_add_right_of_le ih

/-- Twelve months make a year. -/
theorem daysBeforeMonth_thirteen (year : Nat) : daysBeforeMonth year 13 = daysInYear year := by
  simp only [daysBeforeMonth, daysInMonth, daysInYear]
  cases isLeap year <;> rfl

theorem daysInMonth_pos (year month : Nat) : 0 < daysInMonth year month := by
  rw [daysInMonth]
  split
  · split <;> decide
  · split <;> decide

/-! ## Numbers of days -/

/-- The days of a month come before those of the next one. -/
theorem IsValid.lt_daysBeforeMonth (h : d.IsValid) :
    daysBeforeMonth d.year d.month + (d.day - 1) < daysBeforeMonth d.year (d.month + 1) := by
  have hday := h.day_pos
  have hle := h.day_le
  rw [daysBeforeMonth_succ d.year h.month_pos]
  omega

/-- The days of a year come before those of the next one. -/
theorem IsValid.toDays_lt (h : d.IsValid) : d.toDays < daysOfYears d.year := by
  have hday := h.lt_daysBeforeMonth
  have hmonth : daysBeforeMonth d.year (d.month + 1) ≤ daysBeforeMonth d.year 13 :=
    daysBeforeMonth_le d.year (Nat.le_add_left 1 _) (Nat.succ_le_succ h.month_le)
  rw [daysBeforeMonth_thirteen] at hmonth
  rw [toDays, daysOfYears_eq h.year_pos]
  omega

theorem daysOfYears_le_toDays (d : Date) : daysOfYears (d.year - 1) ≤ d.toDays := by
  rw [toDays]
  omega

theorem toDays_lt_of_fields_lt (hd : d.IsValid) (h : d.fields < e.fields) : d.toDays < e.toDays := by
  simp only [fields, List.cons_lt_cons_iff, List.not_lt_nil, and_false, or_false] at h
  obtain hyear | ⟨hyear, hmonth | ⟨hmonth, hday⟩⟩ := h
  · have hlt := hd.toDays_lt
    have hle : daysOfYears d.year ≤ daysOfYears (e.year - 1) := daysOfYears_le (Nat.le_sub_one_of_lt hyear)
    have hge := e.daysOfYears_le_toDays
    omega
  · have hlt := hd.lt_daysBeforeMonth
    have hle := daysBeforeMonth_le d.year (Nat.le_add_left 1 d.month) (Nat.succ_le_of_lt hmonth)
    rw [toDays, toDays, ← hyear]
    omega
  · have hpos := hd.day_pos
    rw [toDays, toDays, ← hyear, ← hmonth]
    omega

/-- Of two days the earlier one has the smaller number. -/
theorem toDays_lt_toDays (hd : d.IsValid) (he : e.IsValid) : d.toDays < e.toDays ↔ d.fields < e.fields := by
  constructor
  · intro h
    obtain hlt | heq | hgt := lt_trichotomy d.fields e.fields
    · exact hlt
    · rw [fields_injective heq] at h
      exact absurd h (Nat.lt_irrefl _)
    · exact absurd h (Nat.lt_asymm (toDays_lt_of_fields_lt he hgt))
  · exact toDays_lt_of_fields_lt hd

theorem IsValid.next (h : d.IsValid) : d.next.IsValid := by
  obtain ⟨hyear, hmonth, hle, hday, -⟩ := h
  rw [Date.next]
  split
  case isTrue hlt => exact ⟨hyear, hmonth, hle, Nat.le_add_left 1 _, hlt⟩
  case isFalse =>
    split
    case isTrue hlt => exact ⟨hyear, Nat.le_add_left 1 _, hlt, Nat.le_refl 1, daysInMonth_pos _ _⟩
    case isFalse => exact ⟨Nat.le_add_left 1 _, Nat.le_refl 1, Nat.le_add_left 1 11, Nat.le_refl 1, daysInMonth_pos _ _⟩

/-- The number of a day is one more than that of the day before. -/
theorem toDays_next (h : d.IsValid) : d.next.toDays = d.toDays + 1 := by
  obtain ⟨hyear, hmonth, hle, hday, hdayle⟩ := h
  rw [Date.next]
  split
  case isTrue =>
    simp only [toDays]
    omega
  case isFalse hlast =>
    have hsucc := daysBeforeMonth_succ d.year hmonth
    split
    case isTrue =>
      simp only [toDays, hsucc]
      omega
    case isFalse hdecember =>
      obtain hdecember : d.month + 1 = 13 := by omega
      rw [hdecember, daysBeforeMonth_thirteen] at hsucc
      simp only [toDays, daysBeforeMonth, Nat.add_sub_cancel, daysOfYears_eq hyear]
      omega

theorem toDays_injective (hd : d.IsValid) (he : e.IsValid) (h : d.toDays = e.toDays) : d = e := by
  obtain hlt | heq | hgt := lt_trichotomy d.fields e.fields
  · exact absurd h (Nat.ne_of_lt (toDays_lt_of_fields_lt hd hlt))
  · exact fields_injective heq
  · exact absurd h (Nat.ne_of_gt (toDays_lt_of_fields_lt he hgt))

/-! ## The day of a number -/

/-- A day of a year falls into the month that is found for it, as many days after its first one as are found. -/
structure FallsIn (year dayOfYear : Nat) (place : Nat × Nat) : Prop where
  month_pos : 1 ≤ place.1
  month_le : place.1 ≤ 12
  day_lt : place.2 < daysInMonth year place.1
  eq : daysBeforeMonth year place.1 + place.2 = dayOfYear

theorem fallsIn_findMonth (year : Nat) {left month day : Nat} (hmonth : 1 ≤ month) (hleft : month + left = 12)
    (hday : daysBeforeMonth year month + day < daysInYear year) :
    FallsIn year (daysBeforeMonth year month + day) (findMonth year left month day) := by
  induction left generalizing month day with
  | zero =>
    obtain rfl : month = 12 := hleft
    have htwelve := daysBeforeMonth_succ year (show 1 ≤ 12 by decide)
    rw [daysBeforeMonth_thirteen] at htwelve
    refine ⟨hmonth, Nat.le_refl 12, ?_, rfl⟩
    change day < daysInMonth year 12
    omega
  | succ left ih =>
    rw [findMonth]
    split
    case isTrue hlt => exact ⟨hmonth, by omega, hlt, rfl⟩
    case isFalse hge =>
      have hsucc := daysBeforeMonth_succ year hmonth
      have hnext : daysBeforeMonth year (month + 1) + (day - daysInMonth year month) =
          daysBeforeMonth year month + day := by omega
      rw [← hnext]
      exact ih (Nat.le_add_left 1 _) (by omega) (by omega)

/-- The first year, from the given one on, that is not over on a day. -/
theorem findYear_spec {left year days : Nat} (hlow : daysOfYears (year - 1) ≤ days)
    (hhigh : days < daysOfYears (year + left)) :
    daysOfYears (findYear left year days - 1) ≤ days ∧ days < daysOfYears (findYear left year days) := by
  induction left generalizing year with
  | zero => exact ⟨hlow, hhigh⟩
  | succ left ih =>
    rw [findYear]
    split
    case isTrue hlt => exact ⟨hlow, hlt⟩
    case isFalse hge => exact ih (Nat.le_of_not_lt hge) (by rwa [Nat.add_right_comm, Nat.add_assoc])

/-- The year that is found first is never too late, and at most two years too early. -/
theorem daysOfYears_guess (days : Nat) :
    daysOfYears (days * 400 / 146097 - 1) ≤ days ∧ days < daysOfYears (days * 400 / 146097 + 3) := by
  simp only [daysOfYears]
  omega

/-- The year in which a day falls. -/
def yearOf (days : Nat) : Nat :=
  let year := findYear 3 (days * 400 / 146097) days
  if year = 0 then 1 else year

theorem yearOf_pos (days : Nat) : 1 ≤ yearOf days := by
  rw [yearOf]
  split <;> omega

theorem daysOfYears_yearOf (days : Nat) :
    daysOfYears (yearOf days - 1) ≤ days ∧ days < daysOfYears (yearOf days) := by
  have hfound := findYear_spec (daysOfYears_guess days).1 (daysOfYears_guess days).2
  rw [yearOf]
  split
  case isTrue hzero =>
    rw [hzero] at hfound
    exact absurd hfound.2 (Nat.not_lt_zero _)
  case isFalse => exact hfound

theorem exists_ofDays_eq (days : Nat) :
    ∃ place, ofDays days = ⟨yearOf days, place.1, place.2 + 1⟩ ∧
      FallsIn (yearOf days) (days - daysOfYears (yearOf days - 1)) place := by
  obtain ⟨hlow, hhigh⟩ := daysOfYears_yearOf days
  rw [daysOfYears_eq (yearOf_pos days)] at hhigh
  have hbefore : daysBeforeMonth (yearOf days) 1 + (days - daysOfYears (yearOf days - 1)) =
      days - daysOfYears (yearOf days - 1) := Nat.zero_add _
  have hfound := fallsIn_findMonth (yearOf days) (Nat.le_refl 1) (show 1 + 11 = 12 from rfl)
    (show _ + (days - daysOfYears (yearOf days - 1)) < _ by omega)
  rw [hbefore] at hfound
  exact ⟨_, rfl, hfound⟩

theorem isValid_ofDays (days : Nat) : (ofDays days).IsValid := by
  obtain ⟨place, heq, hfalls⟩ := exists_ofDays_eq days
  rw [heq]
  exact ⟨yearOf_pos days, hfalls.month_pos, hfalls.month_le, Nat.le_add_left 1 _, hfalls.day_lt⟩

/-- Each number is that of a day. -/
theorem toDays_ofDays (days : Nat) : (ofDays days).toDays = days := by
  obtain ⟨place, heq, hfalls⟩ := exists_ofDays_eq days
  have hlow := (daysOfYears_yearOf days).1
  have hday := hfalls.eq
  rw [heq]
  change daysOfYears (yearOf days - 1) + daysBeforeMonth (yearOf days) place.1 + place.2 = days
  omega

/-- A day is told by its number. -/
theorem ofDays_toDays (h : d.IsValid) : ofDays d.toDays = d :=
  toDays_injective (isValid_ofDays _) h (toDays_ofDays _)

/-- The days of the years up to one are those with smaller numbers. -/
theorem year_le_iff (h : d.IsValid) (year : Nat) : d.year ≤ year ↔ d.toDays < daysOfYears year := by
  constructor
  · intro hle
    exact Nat.lt_of_lt_of_le h.toDays_lt (daysOfYears_le hle)
  · intro hlt
    by_contra hgt
    have hle : daysOfYears year ≤ daysOfYears (d.year - 1) := daysOfYears_le (by omega)
    exact absurd (Nat.lt_of_lt_of_le hlt (Nat.le_trans hle d.daysOfYears_le_toDays)) (Nat.lt_irrefl _)

end Date

end Remit
