import Mathlib.Logic.Function.Iterate
import Remit.Proofs.Calendar
import Remit.Proofs.Text.Padded
import Remit.Timestamp

/-!
# Timestamps

A clock shows a day and a time of day, and goes on by one second at a time, through minutes, hours, days, months and
years. Universal time at a moment is what a clock shows that is behind the clock of the moment by its offset, so many
seconds one after the other. A timestamp spells it out. Different seconds are spelled differently, and from the year 1000
on, where all years have as many digits, the texts are in the order of time.
-/

namespace Remit

/-! ## Clocks -/

/-- What a clock shows: a day and a time of day, to the second. -/
@[ext]
structure Reading where
  date : Date
  hour : Nat
  minute : Nat
  second : Nat
deriving DecidableEq

namespace Reading

/-- The clock can show this, in any year from 1 on. -/
structure IsValid (r : Reading) : Prop where
  date : r.date.IsValid
  hour_lt : r.hour < 24
  minute_lt : r.minute < 60
  second_lt : r.second < 60

instance : DecidablePred IsValid := fun r =>
  decidable_of_iff (r.date.IsValid ∧ r.hour < 24 ∧ r.minute < 60 ∧ r.second < 60)
    ⟨fun ⟨h₁, h₂, h₃, h₄⟩ => ⟨h₁, h₂, h₃, h₄⟩, fun ⟨h₁, h₂, h₃, h₄⟩ => ⟨h₁, h₂, h₃, h₄⟩⟩

/-- What the clock shows a second later. -/
def next (r : Reading) : Reading :=
  if r.second < 59 then { r with second := r.second + 1 }
  else if r.minute < 59 then ⟨r.date, r.hour, r.minute + 1, 0⟩
  else if r.hour < 23 then ⟨r.date, r.hour + 1, 0, 0⟩
  else ⟨r.date.next, 0, 0, 0⟩

/-- The one is shown before the other. -/
def IsBefore (u v : Reading) : Prop := ∃ n, next^[n + 1] u = v

/-- The number of seconds before, since the start of year 1. -/
def number (r : Reading) : Nat := r.date.toDays * 86400 + r.hour * 3600 + r.minute * 60 + r.second

/-- What a clock shows that was started at the start of year 1. -/
def ofNumber (n : Nat) : Reading :=
  ⟨.ofDays (n / 86400), n % 86400 / 3600, n % 86400 / 60 % 60, n % 86400 % 60⟩

variable {r u v : Reading}

theorem IsValid.next (h : r.IsValid) : r.next.IsValid := by
  obtain ⟨hdate, hhour, hminute, hsecond⟩ := h
  rw [Reading.next]
  split
  case isTrue hlt => exact ⟨hdate, hhour, hminute, Nat.succ_lt_succ hlt⟩
  case isFalse =>
    split
    case isTrue hlt => exact ⟨hdate, hhour, Nat.succ_lt_succ hlt, Nat.succ_pos 59⟩
    case isFalse =>
      split
      case isTrue hlt => exact ⟨hdate, Nat.succ_lt_succ hlt, Nat.succ_pos 59, Nat.succ_pos 59⟩
      case isFalse => exact ⟨hdate.next, Nat.succ_pos 23, Nat.succ_pos 59, Nat.succ_pos 59⟩

/-- Each second is one more. -/
theorem number_next (h : r.IsValid) : r.next.number = r.number + 1 := by
  obtain ⟨hdate, hhour, hminute, hsecond⟩ := h
  rw [Reading.next]
  split
  case isTrue =>
    simp only [number]
    omega
  case isFalse =>
    split
    case isTrue =>
      simp only [number]
      omega
    case isFalse =>
      split
      case isTrue =>
        simp only [number]
        omega
      case isFalse =>
        simp only [number, Date.toDays_next hdate]
        omega

/-- After a number of seconds. -/
theorem iterate_next (h : r.IsValid) (n : Nat) : (next^[n] r).IsValid ∧ (next^[n] r).number = r.number + n := by
  induction n with
  | zero => exact ⟨h, (Nat.add_zero _).symm⟩
  | succ n ih =>
    rw [Function.iterate_succ_apply']
    refine ⟨ih.1.next, ?_⟩
    rw [number_next ih.1, ih.2, Nat.add_assoc]

theorem isValid_ofNumber (n : Nat) : (ofNumber n).IsValid :=
  ⟨Date.isValid_ofDays _, by simp only [ofNumber]; omega, Nat.mod_lt _ (by decide), Nat.mod_lt _ (by decide)⟩

theorem number_ofNumber (n : Nat) : (ofNumber n).number = n := by
  simp only [number, ofNumber, Date.toDays_ofDays]
  omega

/-- What is shown is told by its number. -/
theorem ofNumber_number (h : r.IsValid) : ofNumber r.number = r := by
  obtain ⟨hdate, hhour, hminute, hsecond⟩ := h
  have hdays : r.number / 86400 = r.date.toDays := by
    rw [number]
    omega
  ext1
  · rw [ofNumber, hdays]
    exact Date.ofDays_toDays hdate
  all_goals
    simp only [ofNumber, number]
    omega

theorem number_injective (hu : u.IsValid) (hv : v.IsValid) (h : u.number = v.number) : u = v := by
  rw [← ofNumber_number hu, h, ofNumber_number hv]

/-- To go on for a number of seconds is to add it. -/
theorem iterate_next_eq_iff (hu : u.IsValid) (hv : v.IsValid) (n : Nat) : next^[n] u = v ↔ u.number + n = v.number := by
  obtain ⟨hvalid, hnumber⟩ := iterate_next hu n
  rw [← hnumber]
  exact ⟨congrArg number, number_injective hvalid hv⟩

theorem isBefore_iff (hu : u.IsValid) (hv : v.IsValid) : u.IsBefore v ↔ u.number < v.number := by
  simp only [IsBefore, iterate_next_eq_iff hu hv]
  constructor
  · rintro ⟨n, hn⟩
    omega
  · intro h
    exact ⟨v.number - u.number - 1, by omega⟩

/-- Day and time of day, the greatest part first. -/
def fields (r : Reading) : List Nat := r.date.fields ++ [r.hour, r.minute, r.second]

/-- The earlier of two readings is told by their fields, compared in turn. -/
theorem number_lt_number (hu : u.IsValid) (hv : v.IsValid) : u.number < v.number ↔ u.fields < v.fields := by
  obtain ⟨hdate, hhour, hminute, hsecond⟩ := hu
  obtain ⟨hdate', hhour', hminute', hsecond'⟩ := hv
  have hdays : u.date.fields = v.date.fields ↔ u.date.toDays = v.date.toDays := by
    rw [Date.fields_injective.eq_iff]
    exact ⟨congrArg Date.toDays, Date.toDays_injective hdate hdate'⟩
  have hlength : u.date.fields.length = v.date.fields.length := rfl
  rw [fields, fields, append_lt_append_iff hlength, hdays, ← Date.toDays_lt_toDays hdate hdate']
  simp only [number, List.cons_lt_cons_iff, List.not_lt_nil, and_false, or_false]
  omega

theorem year_le_iff (h : r.IsValid) (year : Nat) :
    r.date.year ≤ year ↔ r.number < Date.daysOfYears year * 86400 := by
  obtain ⟨hdate, hhour, hminute, hsecond⟩ := h
  simp only [Date.year_le_iff hdate, number]
  omega

/-! ## Spelling -/

/-- The reading as timestamps spell it. -/
def spelled (r : Reading) : Text :=
  let pair := Text.decimalPadded 2
  Text.ofNat r.date.year ++ "-" ++ pair r.date.month ++ "-" ++ pair r.date.day ++ "T" ++ pair r.hour ++ ":" ++
    pair r.minute ++ ":" ++ pair r.second ++ "Z"

/-- The form of what stands behind the year. -/
def form : List (Nat × Text) := [(2, "-"), (2, "T"), (2, ":"), (2, ":"), (2, "Z")]

theorem spelled_eq (r : Reading) :
    r.spelled = Text.ofNat r.date.year ++ ("-" ++ Text.inForm form [r.date.month, r.date.day, r.hour, r.minute, r.second]) := by
  simp only [spelled, form, Text.inForm, List.append_assoc, List.append_nil]

theorem IsValid.fits (h : r.IsValid) : Text.Fits form [r.date.month, r.date.day, r.hour, r.minute, r.second] := by
  obtain ⟨⟨-, -, hmonth, -, hday⟩, hhour, hminute, hsecond⟩ := h
  have hle : Date.daysInMonth r.date.year r.date.month ≤ 31 := by
    rw [Date.daysInMonth]
    split
    · split <;> decide
    · split <;> decide
  exact .cons (by decide) (by omega) (.cons (by decide) (by omega) (.cons (by decide) (by omega)
    (.cons (by decide) (by omega) (.cons (by decide) (by omega) .nil))))

/-- Different readings are spelled differently. -/
theorem spelled_inj (hu : u.IsValid) (hv : v.IsValid) : u.spelled = v.spelled ↔ u = v := by
  constructor
  · intro h
    rw [spelled_eq, spelled_eq] at h
    obtain ⟨hyear, h⟩ := Text.ofNat_append_inj h (.inr ⟨rfl, rfl⟩)
    have hfields := Text.eq_of_inForm_eq hu.fits hv.fits (List.append_cancel_left h)
    simp only [List.cons.injEq, and_true] at hfields
    obtain ⟨hmonth, hday, hhour, hminute, hsecond⟩ := hfields
    exact Reading.ext (Date.fields_injective (by simp only [Date.fields, hyear, hmonth, hday])) hhour hminute hsecond
  · exact congrArg spelled

/-- From the year 1000 on the year is as wide as if it were padded. -/
theorem spelled_eq_inForm (h : 1000 ≤ r.date.year) : r.spelled = Text.inForm ((4, "-") :: form) r.fields := by
  rw [spelled_eq, ← Text.decimalPadded_eq_ofNat (show 0 < 3 by decide) h]
  rfl

theorem IsValid.fits_fields (h : r.IsValid) (hyear : r.date.year ≤ 9999) : Text.Fits ((4, "-") :: form) r.fields :=
  .cons (by decide) (by omega) h.fits

theorem length_spelled (h : r.IsValid) (hyear : r.date.year ≤ 9999) (hyear' : 1000 ≤ r.date.year) :
    r.spelled.length = 20 := by
  rw [spelled_eq_inForm hyear', Text.length_inForm (h.fits_fields hyear)]
  rfl

/-- Readings of years with four digits are in the order of their texts. -/
theorem spelled_lt_spelled (hu : u.IsValid) (hv : v.IsValid) (hyu : u.date.year ≤ 9999) (hyv : v.date.year ≤ 9999)
    (hyu' : 1000 ≤ u.date.year) (hyv' : 1000 ≤ v.date.year) : u.spelled < v.spelled ↔ u.IsBefore v := by
  rw [spelled_eq_inForm hyu', spelled_eq_inForm hyv', Text.inForm_lt_inForm (hu.fits_fields hyu) (hv.fits_fields hyv),
    ← number_lt_number hu hv, isBefore_iff hu hv]

end Reading

/-! ## Moments -/

namespace Moment

open Reading (next)

/-- What the clock of the moment shows. -/
def reading (m : Moment) : Reading := ⟨m.date, m.hour, m.minute, m.second⟩

/-- What a clock of universal time shows at the moment: it has to go on for as many seconds as the offset says until it
shows what the clock of the moment does, or the other way round. -/
def ShowsUtc (m : Moment) (u : Reading) : Prop :=
  u.IsValid ∧ match m.offset.getD 0 with
    | .ofNat n => next^[n] u = m.reading
    | .negSucc n => next^[n + 1] m.reading = u

variable {m : Moment} {u : Reading}

theorem showsUtc_iff (h : m.reading.IsValid) : m.ShowsUtc u ↔ u.IsValid ∧ (u.number : Int) = m.utcSeconds := by
  have hseconds : m.utcSeconds = (m.reading.number : Int) - m.offset.getD 0 := rfl
  refine and_congr_right fun hu => ?_
  rw [hseconds]
  cases m.offset.getD 0 with
  | ofNat n =>
    dsimp only
    rw [Reading.iterate_next_eq_iff hu h, Int.ofNat_eq_natCast]
    omega
  | negSucc n =>
    dsimp only
    rw [Reading.iterate_next_eq_iff h hu]
    omega

theorem timestampOf_eq (n : Nat) : timestampOf n = (Reading.ofNumber n).spelled := rfl

/-- Universal time in the years 1 to 9999 is spelled, and at all other moments there is no timestamp. -/
theorem timestamp_cases (h : m.reading.IsValid) :
    (∃ u, m.ShowsUtc u ∧ u.date.year ≤ 9999 ∧ m.timestamp = .ok u.spelled) ∨
      (∀ u, m.ShowsUtc u → 9999 < u.date.year) ∧ m.timestamp = .error .timeOutOfRange := by
  rw [timestamp]
  simp only [showsUtc_iff h]
  cases m.utcSeconds with
  | ofNat n =>
    dsimp only
    have hvalid := Reading.isValid_ofNumber n
    have hnumber := Reading.number_ofNumber n
    split
    case isTrue hlt =>
      refine .inl ⟨.ofNumber n, ⟨hvalid, congrArg Int.ofNat hnumber⟩, ?_, congrArg Except.ok (timestampOf_eq n)⟩
      rw [Reading.year_le_iff hvalid, hnumber]
      exact hlt
    case isFalse hge =>
      refine .inr ⟨fun u ⟨hu, hn⟩ => ?_, rfl⟩
      rw [← Nat.not_le, Reading.year_le_iff hu, Int.ofNat_inj.mp hn]
      exact hge
  | negSucc n =>
    refine .inr ⟨fun u ⟨_, hn⟩ => ?_, rfl⟩
    omega

/-- At each moment a clock of universal time shows one thing. -/
theorem ShowsUtc.unique {v : Reading} (h : m.reading.IsValid) (hu : m.ShowsUtc u) (hv : m.ShowsUtc v) : u = v := by
  rw [showsUtc_iff h] at hu hv
  exact Reading.number_injective hu.1 hv.1 (Int.ofNat_inj.mp (hu.2.trans hv.2.symm))

theorem timestamp_eq_of_showsUtc (h : m.reading.IsValid) (hu : m.ShowsUtc u) (hyear : u.date.year ≤ 9999) :
    m.timestamp = .ok u.spelled := by
  obtain ⟨v, hv, -, heq⟩ | ⟨hnone, -⟩ := timestamp_cases h
  · rw [heq, hv.unique h hu]
  · exact absurd (hnone u hu) (Nat.not_lt.mpr hyear)

/-- A moment has a timestamp unless universal time falls outside the years 1 to 9999, and the timestamp spells it to the
second. So timestamps are the same just if they are of the same second; and where the years have four digits they are all
of one length, and the earlier of two is the lesser text. -/
theorem timestamp_tells_second {a b : Moment} (ha : a.reading.IsValid) (hb : b.reading.IsValid) :
    (a.timestamp = .error .timeOutOfRange ↔ ¬ ∃ u, a.ShowsUtc u ∧ u.date.year ≤ 9999) ∧
      ∀ u v, a.ShowsUtc u → u.date.year ≤ 9999 → b.ShowsUtc v → v.date.year ≤ 9999 →
        a.timestamp = .ok u.spelled ∧ b.timestamp = .ok v.spelled ∧ (u.spelled = v.spelled ↔ u = v) ∧
          (1000 ≤ u.date.year → 1000 ≤ v.date.year →
            u.spelled.length = 20 ∧ v.spelled.length = 20 ∧ (u.spelled < v.spelled ↔ u.IsBefore v)) := by
  constructor
  · obtain ⟨u, hu, hyear, heq⟩ | ⟨hnone, heq⟩ := timestamp_cases ha
    · rw [heq]
      exact iff_of_false (fun h => nomatch h) (fun h => h ⟨u, hu, hyear⟩)
    · exact iff_of_true heq fun ⟨u, hu, hyear⟩ => Nat.not_lt.mpr hyear (hnone u hu)
  · intro u v hu hyu hv hyv
    refine ⟨timestamp_eq_of_showsUtc ha hu hyu, timestamp_eq_of_showsUtc hb hv hyv, Reading.spelled_inj hu.1 hv.1, ?_⟩
    intro hyu' hyv'
    exact ⟨Reading.length_spelled hu.1 hyu hyu', Reading.length_spelled hv.1 hyv hyv',
      Reading.spelled_lt_spelled hu.1 hv.1 hyu hyv hyu' hyv'⟩

/-- A leap day that is still the day before in universal time, the last second of a year that is already in the next one,
and the first second of the calendar where the clock is ahead. -/
theorem timestamp_tells_second_leap :
    let a : Moment := ⟨⟨2020, 2, 29⟩, 0, 30, 0, 5, some 5400⟩
    let b : Moment := ⟨⟨2019, 12, 31⟩, 23, 59, 59, 0, some (-3601)⟩
    a.timestamp = .ok "2020-02-28T23:00:00Z" ∧ b.timestamp = .ok "2020-01-01T01:00:00Z" ∧
      (⟨⟨2020, 1, 1⟩, 1, 0, 0⟩ : Reading).IsBefore ⟨⟨2020, 2, 28⟩, 23, 0, 0⟩ ∧
      (⟨⟨1, 1, 1⟩, 0, 0, 0, 0, some 1⟩ : Moment).timestamp = .error .timeOutOfRange := by
  intro a b
  have ha : a.reading.IsValid := by decide
  have hb : b.reading.IsValid := by decide
  have hu : a.ShowsUtc ⟨⟨2020, 2, 28⟩, 23, 0, 0⟩ := (showsUtc_iff ha).mpr ⟨by decide, by decide⟩
  have hv : b.ShowsUtc ⟨⟨2020, 1, 1⟩, 1, 0, 0⟩ := (showsUtc_iff hb).mpr ⟨by decide, by decide⟩
  obtain ⟨-, htell⟩ := timestamp_tells_second hb ha
  obtain ⟨htb, hta, -, hlt⟩ := htell _ _ hv (by decide) hu (by decide)
  obtain ⟨-, -, hlt⟩ := hlt (by decide) (by decide)
  have hc : (⟨⟨1, 1, 1⟩, 0, 0, 0, 0, some 1⟩ : Moment).reading.IsValid := by decide
  refine ⟨hta, htb, hlt.mp (by decide), (timestamp_tells_second hc hc).1.mpr ?_⟩
  rintro ⟨u, hu, -⟩
  have hnumber : (u.number : Int) = -1 := ((showsUtc_iff hc).mp hu).2
  omega

end Moment

end Remit
