import DumpConvert.Calendar
import Mathlib.Order.Monotone.Basic
import Mathlib.Tactic.IntervalCases

/-!
# The civil calendar

The calendar is given by its leap years and the lengths of its months, and a day is counted
by adding up the years and the months before it (`CivilDate.dayNumber`).  A later date has a
higher number (`CivilDate.dayNumber_lt`).

A date that is computed from a day number, from 1 January of the year 0 on, is a date of
this calendar, and its number is the one it was computed from (`exists_civilDate`).
-/

namespace DumpConvert

/-! ## Years and months -/

def IsLeapYear (year : Int) : Prop :=
  year % 4 = 0 ∧ (year % 100 ≠ 0 ∨ year % 400 = 0)

instance (year : Int) : Decidable (IsLeapYear year) :=
  inferInstanceAs (Decidable (_ ∧ _))

def yearLength (year : Int) : Nat :=
  if IsLeapYear year then 366 else 365

/-- The days of a month of the year; the months are those from 1 to 12. -/
def monthLength (year : Int) : Nat → Nat
  | 2 => if IsLeapYear year then 29 else 28
  | 4 | 6 | 9 | 11 => 30
  | 1 | 3 | 5 | 7 | 8 | 10 | 12 => 31
  | _ => 0

/-- The days from 1 January of the year 0 to 1 January of the year. -/
def daysBeforeYear : Nat → Nat
  | 0 => 0
  | year + 1 => daysBeforeYear year + yearLength year

def daysBeforeMonth (year : Int) : Nat → Nat
  | 0 => 0
  | month + 1 => daysBeforeMonth year month + monthLength year month

theorem monthLength_le (year : Int) (month : Nat) : monthLength year month ≤ 31 := by
  unfold monthLength
  split
  · split <;> omega
  all_goals omega

theorem daysBeforeYear_mono : Monotone daysBeforeYear :=
  monotone_nat_of_le_succ fun _ => Nat.le_add_right _ _

theorem daysBeforeMonth_mono (year : Int) : Monotone (daysBeforeMonth year) :=
  monotone_nat_of_le_succ fun _ => Nat.le_add_right _ _

/-- The months of a year are the year. -/
theorem daysBeforeMonth_thirteen (year : Int) : daysBeforeMonth year 13 = yearLength year := by
  simp only [daysBeforeMonth, monthLength, yearLength]
  split <;> rfl

/-- Only February has not the same length in every year. -/
theorem monthLength_february (year : Int) : monthLength year 2 + 337 = yearLength year := by
  rw [monthLength, yearLength]
  split <;> rfl

theorem yearLength_add (year : Nat) :
    yearLength year + (if year % 100 = 0 then 1 else 0) =
      365 + (if year % 4 = 0 then 1 else 0) + (if year % 400 = 0 then 1 else 0) := by
  have hleap : IsLeapYear year ↔ year % 4 = 0 ∧ (year % 100 ≠ 0 ∨ year % 400 = 0) := by
    unfold IsLeapYear
    omega
  rw [yearLength, if_congr hleap rfl rfl]
  split <;> split <;> split <;> split <;> omega

/-- A year in four is a leap year, without the full centuries and with every fourth of these. -/
theorem daysBeforeYear_eq (year : Nat) :
    daysBeforeYear year + (year + 99) / 100 =
      365 * year + (year + 3) / 4 + (year + 399) / 400 := by
  induction year with
  | zero => rfl
  | succ year ih =>
      have hfour : (year + 1 + 3) / 4 = (year + 3) / 4 + if year % 4 = 0 then 1 else 0 := by
        split <;> omega
      have hcentury :
          (year + 1 + 99) / 100 = (year + 99) / 100 + if year % 100 = 0 then 1 else 0 := by
        split <;> omega
      have hcycle :
          (year + 1 + 399) / 400 = (year + 399) / 400 + if year % 400 = 0 then 1 else 0 := by
        split <;> omega
      have hlength := yearLength_add year
      rw [daysBeforeYear, hfour, hcentury, hcycle]
      omega

theorem daysBeforeMonth_of_le_two (year : Int) {month : Nat} (h : 1 ≤ month) (hle : month ≤ 2) :
    daysBeforeMonth year month = 31 * (month - 1) := by
  interval_cases month <;> rfl

/-- From March on, five months have 153 days. -/
theorem daysBeforeMonth_of_three_le (year : Int) {month : Nat} (h : 3 ≤ month)
    (hle : month ≤ 12) :
    daysBeforeMonth year month = (153 * (month - 3) + 2) / 5 + monthLength year 2 + 31 := by
  interval_cases month <;> simp only [daysBeforeMonth, monthLength] <;> omega

/-! ## Dates -/

namespace Date

variable {date : Date}

theorem toDays_of_le_two (h : date.month ≤ 2) :
    date.toDays = 365 * (date.year - 1) + (date.year - 1) / 4 - (date.year - 1) / 100
      + (date.year - 1) / 400 + ((153 * (date.month + 9) + 2) / 5 + date.day - 1 : Nat)
      - epochOffset := by
  simp only [toDays, if_pos h]

theorem toDays_of_three_le (h : 3 ≤ date.month) :
    date.toDays = 365 * date.year + date.year / 4 - date.year / 100 + date.year / 400
      + ((153 * (date.month - 3) + 2) / 5 + date.day - 1 : Nat) - epochOffset := by
  have hmarch : ¬ date.month ≤ 2 := by omega
  simp only [toDays, if_neg hmarch]

end Date

structure CivilDate where
  year : Nat
  month : Nat
  day : Nat
  month_pos : 1 ≤ month
  month_le : month ≤ 12
  day_pos : 1 ≤ day
  day_le : day ≤ monthLength year month

namespace CivilDate

def toDate (date : CivilDate) : Date :=
  ⟨date.year, date.month, date.day⟩

def dayOfYear (date : CivilDate) : Nat :=
  daysBeforeMonth date.year date.month + (date.day - 1)

/-- The days from 1 January 1970 to the date. -/
def dayNumber (date : CivilDate) : Int :=
  (daysBeforeYear date.year + date.dayOfYear : Nat) - (daysBeforeYear 1970 : Nat)

theorem dayOfYear_lt (date : CivilDate) : date.dayOfYear < yearLength date.year := by
  have hday : date.dayOfYear < daysBeforeMonth date.year (date.month + 1) := by
    have hfirst := date.day_pos
    have hlast := date.day_le
    rw [dayOfYear, daysBeforeMonth]
    omega
  have hyear := daysBeforeMonth_mono date.year (Nat.succ_le_succ date.month_le)
  rw [daysBeforeMonth_thirteen] at hyear
  exact Nat.lt_of_lt_of_le hday hyear

theorem dayOfYear_lt_of_month_lt {a b : CivilDate} (hyear : a.year = b.year)
    (h : a.month < b.month) : a.dayOfYear < b.dayOfYear := by
  have hnext := daysBeforeMonth_mono b.year (Nat.succ_le_of_lt h)
  have hfirst := a.day_pos
  have hlast := a.day_le
  rw [hyear] at hlast
  rw [Nat.succ_eq_add_one, daysBeforeMonth] at hnext
  rw [dayOfYear, dayOfYear, hyear]
  omega

/-- A later date has a higher number. -/
theorem dayNumber_lt {a b : CivilDate}
    (h : a.year < b.year ∨ a.year = b.year ∧
      (a.month < b.month ∨ a.month = b.month ∧ a.day < b.day)) :
    a.dayNumber < b.dayNumber := by
  have hless : daysBeforeYear a.year + a.dayOfYear < daysBeforeYear b.year + b.dayOfYear := by
    rcases h with hyear | ⟨hyear, hmonth | ⟨hmonth, hday⟩⟩
    · have hnext := daysBeforeYear_mono (Nat.succ_le_of_lt hyear)
      have hinside := a.dayOfYear_lt
      rw [Nat.succ_eq_add_one, daysBeforeYear] at hnext
      omega
    · have hinside := dayOfYear_lt_of_month_lt hyear hmonth
      rw [hyear]
      omega
    · have hfirst := a.day_pos
      rw [dayOfYear, dayOfYear, hyear, hmonth]
      omega
  unfold dayNumber
  omega

/-- The dates before a year are those with a number below the one of its first day. -/
theorem year_lt_iff (date : CivilDate) (year : Nat) :
    date.year < year ↔
      date.dayNumber < (daysBeforeYear year : Int) - (daysBeforeYear 1970 : Int) := by
  have hinside := date.dayOfYear_lt
  unfold dayNumber
  constructor
  · intro hless
    have hnext := daysBeforeYear_mono (Nat.succ_le_of_lt hless)
    rw [Nat.succ_eq_add_one, daysBeforeYear] at hnext
    omega
  · intro hless
    by_contra hnot
    have hbefore := daysBeforeYear_mono (Nat.le_of_not_lt hnot)
    omega

/-- Counting in years that begin in March comes to the same number. -/
theorem toDays_toDate (date : CivilDate) : date.toDate.toDays = date.dayNumber := by
  have hepoch := daysBeforeYear_eq 1970
  have hday := date.day_pos
  have hmonth := date.month_pos
  by_cases hmarch : date.month ≤ 2
  · have hyear := daysBeforeYear_eq date.year
    rw [Date.toDays_of_le_two hmarch, dayNumber, dayOfYear,
      daysBeforeMonth_of_le_two _ hmonth hmarch]
    simp only [toDate, Date.epochOffset]
    omega
  · -- From March on, the days of the whole year are those of February and of the other months.
    have hlate : 3 ≤ date.month := by omega
    have hnext := daysBeforeYear_eq (date.year + 1)
    have hfebruary := monthLength_february date.year
    rw [daysBeforeYear] at hnext
    rw [Date.toDays_of_three_le hlate, dayNumber, dayOfYear,
      daysBeforeMonth_of_three_le _ hlate date.month_le]
    simp only [toDate, Date.epochOffset]
    omega

end CivilDate

/-! ## Dates of the days -/

section Days

variable {dayOfYear month : Nat}

/-- Taken from a year that begins in March, the day of a month of that year is one of its days. -/
theorem day_le_monthLength (year : Int) (h : (5 * dayOfYear + 2) / 153 = month)
    (hmonth : month < 10) :
    dayOfYear - (153 * month + 2) / 5 + 1 ≤ monthLength year (month + 3) := by
  interval_cases month <;> simp only [monthLength] <;> omega

/-- The last two months of the year that begins in March belong to the next year. -/
theorem day_le_monthLength_next (year : Int) (h : (5 * dayOfYear + 2) / 153 = month)
    (hmonth : 10 ≤ month) (hday : dayOfYear ≤ 365) (hlast : dayOfYear = 365 → IsLeapYear year) :
    dayOfYear - (153 * month + 2) / 5 + 1 ≤ monthLength year (month - 9) := by
  have htwo : month = 10 ∨ month = 11 := by omega
  rcases htwo with rfl | rfl
  · simp only [monthLength]
    omega
  · by_cases hleap : IsLeapYear year
    · simp only [monthLength, if_pos hleap]
      omega
    · have hshort : dayOfYear ≠ 365 := fun heq => hleap (hlast heq)
      simp only [monthLength, if_neg hleap]
      omega

end Days

/-- The months and days that are taken from a day number are those of the calendar. -/
theorem Date.bounds_ofDayOfCycle (cycle : Int) {dayOfCycle : Nat} (h : dayOfCycle < 146097) :
    (1 ≤ (ofDayOfCycle cycle dayOfCycle).month ∧ (ofDayOfCycle cycle dayOfCycle).month ≤ 12) ∧
      1 ≤ (ofDayOfCycle cycle dayOfCycle).day ∧
      (ofDayOfCycle cycle dayOfCycle).day ≤
        monthLength (ofDayOfCycle cycle dayOfCycle).year (ofDayOfCycle cycle dayOfCycle).month := by
  unfold Date.ofDayOfCycle
  extract_lets century dayOfCentury dayOfQuad yearOfQuad dayOfYear marchYear marchMonth day
  have hcentury : century ≤ 3 := Nat.min_le_right _ _
  have hyear : yearOfQuad ≤ 3 := Nat.min_le_right _ _
  have hlast : dayOfYear ≤ 365 := by omega
  -- Only the fourth year of four has a day more, and of the last four only in the last century.
  have hleap : dayOfYear = 365 → IsLeapYear (marchYear + 1) := by
    intro hday
    have hfourth : yearOfQuad = 3 := by omega
    have hquad : dayOfCentury / 1461 < 24 ∨ dayOfCentury / 1461 = 24 ∧ century = 3 := by omega
    unfold IsLeapYear
    omega
  have hmonth : marchMonth ≤ 11 := by omega
  split
  · exact ⟨⟨by simp only; omega, by simp only; omega⟩, by simp only; omega,
      day_le_monthLength _ rfl ‹_›⟩
  · exact ⟨⟨by simp only; omega, by simp only; omega⟩, by simp only; omega,
      day_le_monthLength_next _ rfl (by omega) hlast hleap⟩

theorem daysBeforeYear_epoch : daysBeforeYear 1970 = 719528 := by
  have hyears := daysBeforeYear_eq 1970
  omega

theorem Date.year_nonneg {date : Date} (hmonth : date.month ≤ 12) (hday : date.day ≤ 31)
    (h : -(daysBeforeYear 1970 : Int) ≤ date.toDays) : 0 ≤ date.year := by
  rw [daysBeforeYear_epoch] at h
  by_contra hyear
  by_cases hmarch : date.month ≤ 2
  · rw [toDays_of_le_two hmarch, epochOffset] at h
    omega
  · rw [toDays_of_three_le (by omega), epochOffset] at h
    omega

/-- From the year 0 on, every day number is the number of the date that is computed from it. -/
theorem exists_civilDate {days : Int} (h : -(daysBeforeYear 1970 : Int) ≤ days) :
    ∃ date : CivilDate, Date.ofDays days = date.toDate ∧ date.dayNumber = days := by
  have hdays := Date.toDays_ofDays days
  have hcycle : ((days + Date.epochOffset) % 146097).toNat < 146097 := by omega
  obtain ⟨⟨hmonth, htwelve⟩, hday, hlast⟩ :=
    Date.bounds_ofDayOfCycle ((days + Date.epochOffset) / 146097) hcycle
  have hyear : 0 ≤ (Date.ofDays days).year := by
    refine Date.year_nonneg htwelve (hlast.trans (monthLength_le _ _)) ?_
    rw [hdays]
    exact h
  obtain ⟨year, hcast⟩ := Int.eq_ofNat_of_zero_le hyear
  let date : CivilDate :=
    { year := year
      month := (Date.ofDays days).month
      day := (Date.ofDays days).day
      month_pos := hmonth
      month_le := htwelve
      day_pos := hday
      day_le := by
        rw [← hcast]
        exact hlast }
  have hsame : Date.ofDays days = date.toDate := by
    rw [CivilDate.toDate, ← hcast]
  refine ⟨date, hsame, ?_⟩
  rw [← date.toDays_toDate, ← hsame, hdays]

end DumpConvert
