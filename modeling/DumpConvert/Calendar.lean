import DumpConvert.Text.Basic

/-!
# Calendar

Dates of the proleptic Gregorian calendar and moments in UTC, counted from the start of
1970.  Years are counted from March while a date is taken apart, so that the leap day is
the last day of its year; a cycle of 400 years has 146097 days.

A date taken from a day number gives that number back (`toDays_ofDays`).
-/

namespace DumpConvert

/-- A date: the year, the month from 1 to 12 and the day of the month from 1. -/
structure Date where
  year : Int
  month : Nat
  day : Nat
deriving Repr, DecidableEq

namespace Date

/-- The days from 1 March of the year 0 to 1 January 1970. -/
def epochOffset : Int :=
  719468

/-- The date of a day of a cycle, of which `cycle` cycles went before. -/
def ofDayOfCycle (cycle : Int) (dayOfCycle : Nat) : Date :=
  let century := min (dayOfCycle / 36524) 3
  let dayOfCentury := dayOfCycle - 36524 * century
  let dayOfQuad := dayOfCentury % 1461
  let yearOfQuad := min (dayOfQuad / 365) 3
  let dayOfYear := dayOfQuad - 365 * yearOfQuad
  let marchYear := 400 * cycle + 100 * century + 4 * (dayOfCentury / 1461 : Nat) + yearOfQuad
  let marchMonth := (5 * dayOfYear + 2) / 153
  let day := dayOfYear - (153 * marchMonth + 2) / 5 + 1
  if marchMonth < 10 then ⟨marchYear, marchMonth + 3, day⟩
  else ⟨marchYear + 1, marchMonth - 9, day⟩

def ofDays (days : Int) : Date :=
  let shifted := days + epochOffset
  ofDayOfCycle (shifted / 146097) (shifted % 146097).toNat

def toDays (date : Date) : Int :=
  let marchYear := if date.month ≤ 2 then date.year - 1 else date.year
  let marchMonth := if date.month ≤ 2 then date.month + 9 else date.month - 3
  365 * marchYear + marchYear / 4 - marchYear / 100 + marchYear / 400
    + ((153 * marchMonth + 2) / 5 + date.day - 1 : Nat) - epochOffset

/-- The year in four digits; outside the years 0 to 9999 it has a sign and at least four digits. -/
def yearText (year : Int) : Text :=
  if 0 ≤ year ∧ year ≤ 9999 then Text.paddedDecimal 4 year.toNat
  else (if year < 0 then '-' else '+') :: Text.paddedDecimal 4 year.natAbs

def text (date : Date) : Text :=
  yearText date.year ++ '-' :: Text.paddedDecimal 2 date.month
    ++ '-' :: Text.paddedDecimal 2 date.day

end Date

structure Moment where
  date : Date
  hour : Nat
  minute : Nat
  second : Nat
  millisecond : Nat
deriving Repr, DecidableEq

namespace Moment

/-- The moment at a number of milliseconds after the start of 1970. -/
def ofMillis (millis : Int) : Moment :=
  let inDay := (millis % 86400000).toNat
  { date := Date.ofDays (millis / 86400000)
    hour := inDay / 3600000
    minute := inDay / 60000 % 60
    second := inDay / 1000 % 60
    millisecond := inDay % 1000 }

def ofSeconds (seconds : Int) : Moment :=
  ofMillis (1000 * seconds)

def text (moment : Moment) : Text :=
  moment.date.text ++ ' ' :: Text.paddedDecimal 2 moment.hour
    ++ ':' :: Text.paddedDecimal 2 moment.minute
    ++ ':' :: Text.paddedDecimal 2 moment.second

def firstYear : Int :=
  -262143

def lastYear : Int :=
  9999

def literal (moment : Moment) : Text :=
  '\'' :: moment.text ++ '.' :: Text.paddedDecimal 3 moment.millisecond ++ ['+', '0', '0', '\'']

end Moment

/-- The timestamp literal of a numeral that counts milliseconds from the start of 1970. -/
def epochLiteral? (numeral : Text) : Option Text :=
  match Text.int64? numeral with
  | none => none
  | some millis =>
      let moment := Moment.ofMillis millis
      if moment.date.year < Moment.firstYear ∨ Moment.lastYear < moment.date.year then none
      else some moment.literal

/-! ## Counting back -/

/-- The days before 1 March of a year, with its place in the cycle of 400 years given. -/
theorem days_before_marchYear (cycle : Int) {century quad year : Nat}
    (hcentury : century ≤ 3) (hquad : quad ≤ 24) (hyear : year ≤ 3) :
    let marchYear := 400 * cycle + 100 * century + 4 * quad + year
    365 * marchYear + marchYear / 4 - marchYear / 100 + marchYear / 400
      = 146097 * cycle + 36524 * century + 1461 * quad + 365 * year := by
  intro marchYear
  have hfour : marchYear / 4 = 100 * cycle + 25 * century + quad := by omega
  have hhundred : marchYear / 100 = 4 * cycle + century := by omega
  have hcycle : marchYear / 400 = cycle := by omega
  rw [hfour, hhundred, hcycle]
  omega

/-- A day of a year that begins in March, from its month and its day of the month. -/
theorem day_of_marchMonth (dayOfYear : Nat) :
    (153 * ((5 * dayOfYear + 2) / 153) + 2) / 5
      + (dayOfYear - (153 * ((5 * dayOfYear + 2) / 153) + 2) / 5 + 1) - 1 = dayOfYear := by
  omega

theorem Date.toDays_ofDayOfCycle
    (cycle : Int) (dayOfCycle : Nat) (h : dayOfCycle < 146097) :
    (Date.ofDayOfCycle cycle dayOfCycle).toDays
      = 146097 * cycle + dayOfCycle - Date.epochOffset := by
  unfold Date.ofDayOfCycle
  extract_lets century dayOfCentury dayOfQuad yearOfQuad dayOfYear marchYear marchMonth day
  have hcentury : century ≤ 3 := Nat.min_le_right _ _
  have hyear : yearOfQuad ≤ 3 := Nat.min_le_right _ _
  have hinCentury : dayOfCentury ≤ 36524 := by omega
  have hquad : dayOfCentury / 1461 ≤ 24 := by omega
  have hdays : 36524 * century + 1461 * (dayOfCentury / 1461) + 365 * yearOfQuad + dayOfYear
      = dayOfCycle := by omega
  have hlast : dayOfYear ≤ 365 := by omega
  have hbefore := days_before_marchYear cycle hcentury hquad hyear
  have hmonth := day_of_marchMonth dayOfYear
  simp only at hbefore
  split
  · simp only [Date.toDays]
    rw [if_neg (by omega), if_neg (by omega)]
    simp only [Nat.add_sub_cancel]
    rw [hmonth, hbefore]
    omega
  · simp only [Date.toDays]
    rw [if_pos (by omega), if_pos (by omega)]
    simp only [Int.add_sub_cancel]
    have hback : marchMonth - 9 + 9 = marchMonth := by omega
    rw [hback, hmonth, hbefore]
    omega

theorem Date.toDays_ofDays (days : Int) : (Date.ofDays days).toDays = days := by
  unfold Date.ofDays
  simp only
  rw [Date.toDays_ofDayOfCycle _ _ (by omega)]
  omega

end DumpConvert
