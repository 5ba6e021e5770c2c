import Mathlib.Data.Nat.Init
import RecordPrint.Proofs.Order
import RecordPrint.Time.Instant

/-!
# Days of the calendar

The days of the calendar are numbered in their order, over the ends of months and of years.

* `Date.add_daysOfMonth_le`, `Date.add_daysOfYear_le` — a month ends before the later ones of its year begin, and so
  does a year before the later ones;
* `Date.compare_dayNumber` — dates of the calendar are in the order of their numbers.
-/

namespace RecordPrint

namespace Date

/-- Dates are in the order of their years, then of their months, then of their days. -/
instance : Ord Date := ⟨compareLex (compareOn year) (compareLex (compareOn month) (compareOn day))⟩

theorem compare_eq (d e : Date) :
    compare d e = (compare d.year e.year).then ((compare d.month e.month).then (compare d.day e.day)) := rfl

theorem eq_of_compare {d e : Date} (h : compare d e = .eq) : d = e := by
  obtain ⟨_, _, _⟩ := d
  obtain ⟨_, _, _⟩ := e
  simp only [compare_eq, Ordering.then_eq_eq, Nat.compare_eq_eq] at h
  obtain ⟨rfl, rfl, rfl⟩ := h
  rfl

/-! ### Months -/

/-- The number of days of a month, in a year with or without the additional day. -/
def daysOfMonth (leap : Bool) : Nat → Nat
  | 2 => if leap then 29 else 28
  | 4 | 6 | 9 | 11 => 30
  | _ => 31

/-- The number of days of a year. -/
def daysOfYear (leap : Bool) : Nat := if leap then 366 else 365

/-- The number of days of a year in front of a month. -/
def monthStart (leap : Bool) (month : Nat) : Nat :=
  daysBeforeMonth.getD (month - 1) 0 + if leap ∧ 2 < month then 1 else 0

theorem add_daysOfMonth_le (leap : Bool) {month later : Nat} (hmonth : 1 ≤ month) (hlater : later ≤ 12)
    (h : month < later) : monthStart leap month + daysOfMonth leap month ≤ monthStart leap later := by
  have all : ∀ leap : Bool, ∀ later < 13, ∀ month < later, 1 ≤ month →
      monthStart leap month + daysOfMonth leap month ≤ monthStart leap later := by decide
  exact all leap later (Nat.lt_succ_of_le hlater) month h hmonth

theorem add_daysOfMonth_le_daysOfYear (leap : Bool) {month : Nat} (hmonth : 1 ≤ month ∧ month ≤ 12) :
    monthStart leap month + daysOfMonth leap month ≤ daysOfYear leap := by
  have all : ∀ leap : Bool, ∀ month < 13, 1 ≤ month →
      monthStart leap month + daysOfMonth leap month ≤ daysOfYear leap := by decide
  exact all leap month (Nat.lt_succ_of_le hmonth.2) hmonth.1

/-! ### Years -/

/-- The number of days in front of a year. -/
def yearStart (year : Nat) : Nat := 365 * (year - 1) + (year - 1) / 4 - (year - 1) / 100 + (year - 1) / 400

theorem dayNumber_eq (d : Date) : d.dayNumber = yearStart d.year + (monthStart d.inLeapYear d.month + d.day) := by
  simp only [dayNumber, yearStart, monthStart, Nat.add_assoc]

theorem inLeapYear_iff (d : Date) : d.inLeapYear = true ↔ 4 ∣ d.year ∧ (¬ 100 ∣ d.year ∨ 400 ∣ d.year) := by
  simp [inLeapYear, Nat.dvd_iff_mod_eq_zero]

theorem inLeapYear_congr {d e : Date} (h : d.year = e.year) : d.inLeapYear = e.inLeapYear := by
  rw [inLeapYear, inLeapYear, h]

theorem yearStart_succ {d : Date} (hd : 1 ≤ d.year) :
    yearStart (d.year + 1) = yearStart d.year + daysOfYear d.inLeapYear := by
  obtain ⟨n, hn⟩ : ∃ n, d.year = n + 1 := Nat.exists_eq_add_of_le' hd
  have hcenturies : n / 100 ≤ n / 4 := Nat.div_le_div_left (by decide) (by decide)
  have hcentury : 100 ∣ n + 1 → 4 ∣ n + 1 := Nat.dvd_trans (by decide)
  have hfourth : 400 ∣ n + 1 → 100 ∣ n + 1 := Nat.dvd_trans (by decide)
  simp only [yearStart, daysOfYear, inLeapYear_iff, hn, Nat.add_sub_cancel, Nat.succ_div]
  generalize n / 4 = fours, n / 100 = centuries, n / 400 = fourths at *
  -- the additional day comes every fourth year, not every century, but every fourth one again
  by_cases h4 : 4 ∣ n + 1
  · by_cases h100 : 100 ∣ n + 1
    · by_cases h400 : 400 ∣ n + 1
      · simp only [h4, h100, h400, if_true, not_true, false_or, and_true]
        omega
      · simp only [h4, h100, h400, if_true, if_false, not_true, false_or, and_false]
        omega
    · have h400 : ¬ 400 ∣ n + 1 := mt hfourth h100
      simp only [h4, h100, h400, if_true, if_false, not_false_iff, true_or, and_true]
      omega
  · have h100 : ¬ 100 ∣ n + 1 := mt hcentury h4
    have h400 : ¬ 400 ∣ n + 1 := mt hfourth h100
    simp only [h4, h100, h400, if_false, false_and]
    omega

theorem add_daysOfYear_le {d : Date} {later : Nat} (hd : 1 ≤ d.year) (h : d.year < later) :
    yearStart d.year + daysOfYear d.inLeapYear ≤ yearStart later := by
  induction later, h using Nat.le_induction with
  | base => exact Nat.le_of_eq (yearStart_succ hd).symm
  | succ later hlater ih =>
    have hnext := yearStart_succ (d := ⟨later, 1, 1⟩) (Nat.one_le_of_lt hlater)
    exact Nat.le_trans ih (hnext ▸ Nat.le_add_right _ _)

/-! ### Days -/

/-- A date that the calendar has. -/
structure InCalendar (d : Date) : Prop where
  year : 1 ≤ d.year
  month : 1 ≤ d.month ∧ d.month ≤ 12
  day : 1 ≤ d.day ∧ d.day ≤ daysOfMonth d.inLeapYear d.month

variable {d e : Date}

theorem dayNumber_lt_of_year (hd : d.InCalendar) (he : e.InCalendar) (h : d.year < e.year) :
    d.dayNumber < e.dayNumber := by
  have hyear := add_daysOfYear_le hd.year h
  have hmonth := add_daysOfMonth_le_daysOfYear d.inLeapYear hd.month
  have hday := hd.day.2
  have hfirst := he.day.1
  rw [dayNumber_eq, dayNumber_eq]
  omega

theorem dayNumber_lt_of_month (hd : d.InCalendar) (he : e.InCalendar) (hyear : d.year = e.year)
    (h : d.month < e.month) : d.dayNumber < e.dayNumber := by
  have hmonth := add_daysOfMonth_le d.inLeapYear hd.month.1 he.month.2 h
  have hday := hd.day.2
  have hfirst := he.day.1
  rw [dayNumber_eq, dayNumber_eq, hyear, ← inLeapYear_congr hyear]
  omega

theorem compare_dayNumber (hd : d.InCalendar) (he : e.InCalendar) : compare d.dayNumber e.dayNumber = compare d e := by
  rw [compare_eq]
  refine compare_eq_then (dayNumber_lt_of_year hd he) (dayNumber_lt_of_year he hd) fun hyear => ?_
  refine compare_eq_then (dayNumber_lt_of_month hd he hyear) (dayNumber_lt_of_month he hd hyear.symm) fun hmonth => ?_
  rw [dayNumber_eq, dayNumber_eq, inLeapYear_congr hyear, hyear, hmonth, compare_add_left, compare_add_left]

end Date

end RecordPrint
