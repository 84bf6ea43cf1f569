import DumpConvert.Proofs.Calendar.Civil
import DumpConvert.Proofs.Text.Numeral
import Mathlib.Data.List.Lex

/-!
# Timestamps of the civil calendar

From the start of the year 0 to the end of the year 9999, a number of milliseconds is written
as a moment of the civil calendar whose fields count back to that number
(`exists_civilMoment`).  All of these literals have the same layout, so they are ordered as
texts as the moments are in time (`CivilMoment.literal_lt_iff`).  No later moment is written,
and a string of digits is refused for no other reason (`epochLiteral?_calendar`).
-/

namespace DumpConvert

/-! ## Moments of the calendar -/

/-- A moment of a day of the calendar whose year has four digits. -/
structure CivilMoment extends CivilDate where
  hour : Nat
  minute : Nat
  second : Nat
  millisecond : Nat
  year_le : year ≤ 9999
  hour_lt : hour < 24
  minute_lt : minute < 60
  second_lt : second < 60
  millisecond_lt : millisecond < 1000

namespace CivilMoment

def toMoment (moment : CivilMoment) : Moment :=
  ⟨moment.toDate, moment.hour, moment.minute, moment.second, moment.millisecond⟩

def timeOfDay (moment : CivilMoment) : Nat :=
  3600000 * moment.hour + 60000 * moment.minute + 1000 * moment.second + moment.millisecond

/-- The milliseconds from the start of 1970 to the moment. -/
def millis (moment : CivilMoment) : Int :=
  86400000 * moment.dayNumber + moment.timeOfDay

/-- The fields of the moment in the order of their weight. -/
def fields (moment : CivilMoment) : List Nat :=
  [moment.year, moment.month, moment.day,
    moment.hour, moment.minute, moment.second, moment.millisecond]

def literal (moment : CivilMoment) : Text :=
  '\'' :: (Text.paddedDecimal 4 moment.year ++ '-' :: (Text.paddedDecimal 2 moment.month ++
    '-' :: (Text.paddedDecimal 2 moment.day ++ ' ' :: (Text.paddedDecimal 2 moment.hour ++
    ':' :: (Text.paddedDecimal 2 moment.minute ++ ':' :: (Text.paddedDecimal 2 moment.second ++
    '.' :: (Text.paddedDecimal 3 moment.millisecond ++ "+00'".toList)))))))

theorem literal_toMoment (moment : CivilMoment) : moment.toMoment.literal = moment.literal := by
  have hyear : (0 : Int) ≤ moment.year ∧ (moment.year : Int) ≤ 9999 := by
    have hle := moment.year_le
    omega
  simp [Moment.literal, Moment.text, Date.text, Date.yearText, toMoment, CivilDate.toDate,
    literal, hyear]

/-! ## The order of moments -/

theorem timeOfDay_lt (moment : CivilMoment) : moment.timeOfDay < 86400000 := by
  have hhour := moment.hour_lt
  have hminute := moment.minute_lt
  have hsecond := moment.second_lt
  have hmillisecond := moment.millisecond_lt
  unfold timeOfDay
  omega

variable {a b : CivilMoment}

theorem millis_lt_of_dayNumber_lt (h : a.dayNumber < b.dayNumber) : a.millis < b.millis := by
  have hinside := a.timeOfDay_lt
  unfold millis
  omega

theorem timeOfDay_lt_of_fields
    (h : a.hour < b.hour ∨ a.hour = b.hour ∧ (a.minute < b.minute ∨ a.minute = b.minute ∧
      (a.second < b.second ∨ a.second = b.second ∧ a.millisecond < b.millisecond))) :
    a.timeOfDay < b.timeOfDay := by
  have hminute := a.minute_lt
  have hsecond := a.second_lt
  have hmillisecond := a.millisecond_lt
  unfold timeOfDay
  omega

/-- The first field that differs decides which moment is the earlier one. -/
theorem millis_lt_of_fields_lt (h : a.fields < b.fields) : a.millis < b.millis := by
  simp only [fields, List.cons_lt_cons_iff, List.lt_irrefl, and_false, or_false] at h
  rcases h with hyear | ⟨hyear, hmonth | ⟨hmonth, hday | ⟨hday, htime⟩⟩⟩
  · exact millis_lt_of_dayNumber_lt (CivilDate.dayNumber_lt (.inl hyear))
  · exact millis_lt_of_dayNumber_lt (CivilDate.dayNumber_lt (.inr ⟨hyear, .inl hmonth⟩))
  · exact millis_lt_of_dayNumber_lt
      (CivilDate.dayNumber_lt (.inr ⟨hyear, .inr ⟨hmonth, hday⟩⟩))
  · have hsame : a.dayNumber = b.dayNumber := by
      simp only [CivilDate.dayNumber, CivilDate.dayOfYear, hyear, hmonth, hday]
    have hless := timeOfDay_lt_of_fields htime
    unfold millis
    omega

theorem millis_eq_of_fields_eq (h : a.fields = b.fields) : a.millis = b.millis := by
  simp only [fields, List.cons.injEq, and_true] at h
  obtain ⟨hyear, hmonth, hday, hhour, hminute, hsecond, hmillisecond⟩ := h
  simp only [millis, timeOfDay, CivilDate.dayNumber, CivilDate.dayOfYear, hyear, hmonth, hday,
    hhour, hminute, hsecond, hmillisecond]

theorem fields_lt_iff : a.fields < b.fields ↔ a.millis < b.millis := by
  refine ⟨millis_lt_of_fields_lt, fun hmillis => ?_⟩
  rcases lt_trichotomy a.fields b.fields with hlt | heq | hgt
  · exact hlt
  · exact absurd (millis_eq_of_fields_eq heq) (Int.ne_of_lt hmillis)
  · exact absurd (millis_lt_of_fields_lt hgt) (Int.lt_asymm hmillis)

/-- The literals are ordered as the moments. -/
theorem literal_lt_iff : a.literal < b.literal ↔ a.millis < b.millis := by
  have hyear (m : CivilMoment) : m.year < 10 ^ 4 := Nat.lt_succ_of_le m.year_le
  have hmonth (m : CivilMoment) : m.month < 10 ^ 2 := Nat.lt_of_le_of_lt m.month_le (by decide)
  have hday (m : CivilMoment) : m.day < 10 ^ 2 :=
    Nat.lt_of_le_of_lt (m.day_le.trans (monthLength_le _ _)) (by decide)
  have hhour (m : CivilMoment) : m.hour < 10 ^ 2 := m.hour_lt.trans (by decide)
  have hminute (m : CivilMoment) : m.minute < 10 ^ 2 := m.minute_lt.trans (by decide)
  have hsecond (m : CivilMoment) : m.second < 10 ^ 2 := m.second_lt.trans (by decide)
  have hmillisecond (m : CivilMoment) : m.millisecond < 10 ^ 3 := m.millisecond_lt
  rw [← fields_lt_iff]
  simp only [literal, fields, List.cons_lt_cons_iff, Char.lt_irrefl, List.lt_irrefl, false_or,
    true_and, and_false, or_false,
    Text.paddedDecimal_append_lt_iff (by decide) (hyear a) (hyear b),
    Text.paddedDecimal_append_lt_iff (by decide) (hmonth a) (hmonth b),
    Text.paddedDecimal_append_lt_iff (by decide) (hday a) (hday b),
    Text.paddedDecimal_append_lt_iff (by decide) (hhour a) (hhour b),
    Text.paddedDecimal_append_lt_iff (by decide) (hminute a) (hminute b),
    Text.paddedDecimal_append_lt_iff (by decide) (hsecond a) (hsecond b),
    Text.paddedDecimal_append_lt_iff (by decide) (hmillisecond a) (hmillisecond b)]

end CivilMoment

/-! ## Moments that are written -/

theorem daysBeforeYear_tenThousand : daysBeforeYear 10000 = 3652425 := by
  have hyears := daysBeforeYear_eq 10000
  omega

/-- The moments from the year 0 to the year 9999 are those of the calendar. -/
theorem exists_civilMoment {millis : Int} (hfirst : -62167219200000 ≤ millis)
    (hlast : millis ≤ 253402300799999) :
    ∃ moment : CivilMoment, Moment.ofMillis millis = moment.toMoment ∧
      moment.millis = millis := by
  have hdays : -(daysBeforeYear 1970 : Int) ≤ millis / 86400000 := by
    rw [daysBeforeYear_epoch]
    omega
  obtain ⟨date, hdate, hnumber⟩ := exists_civilDate hdays
  have hyear : date.year < 10000 := by
    rw [date.year_lt_iff, hnumber, daysBeforeYear_tenThousand, daysBeforeYear_epoch]
    omega
  let moment : CivilMoment :=
    { date with
      hour := (millis % 86400000).toNat / 3600000
      minute := (millis % 86400000).toNat / 60000 % 60
      second := (millis % 86400000).toNat / 1000 % 60
      millisecond := (millis % 86400000).toNat % 1000
      year_le := Nat.le_of_lt_succ hyear
      hour_lt := by omega
      minute_lt := Nat.mod_lt _ (by decide)
      second_lt := Nat.mod_lt _ (by decide)
      millisecond_lt := Nat.mod_lt _ (by decide) }
  refine ⟨moment, ?_, ?_⟩
  · rw [Moment.ofMillis, hdate]
    rfl
  · have hday : moment.dayNumber = millis / 86400000 := hnumber
    have htime : (moment.timeOfDay : Int) = millis % 86400000 := by
      simp only [CivilMoment.timeOfDay, moment]
      omega
    rw [CivilMoment.millis, hday, htime]
    omega

/-- After the year 9999 the year is a later one. -/
theorem lastYear_lt_of_millis {millis : Int} (h : 253402300799999 < millis) :
    Moment.lastYear < (Moment.ofMillis millis).date.year := by
  have hdays : -(daysBeforeYear 1970 : Int) ≤ millis / 86400000 := by
    omega
  obtain ⟨date, hdate, hnumber⟩ := exists_civilDate hdays
  have hyear : ¬ date.year < 10000 := by
    rw [date.year_lt_iff, hnumber, daysBeforeYear_tenThousand, daysBeforeYear_epoch]
    omega
  simp only [Moment.ofMillis, hdate, CivilDate.toDate, Moment.lastYear]
  omega

section Numerals

variable {numeral : Text} {millis : Int}

theorem epochLiteral?_eq_some (hread : Text.int64? numeral = some millis)
    (hfirst : -62167219200000 ≤ millis) (hlast : millis ≤ 253402300799999) :
    ∃ moment : CivilMoment, epochLiteral? numeral = some moment.literal ∧
      moment.millis = millis := by
  obtain ⟨moment, hmoment, hmillis⟩ := exists_civilMoment hfirst hlast
  have hyear : ¬ (((moment.year : Int) < Moment.firstYear) ∨
      Moment.lastYear < (moment.year : Int)) := by
    have hle := moment.year_le
    unfold Moment.firstYear Moment.lastYear
    omega
  refine ⟨moment, ?_, hmillis⟩
  simp only [epochLiteral?, hread, hmoment]
  rw [moment.literal_toMoment]
  exact if_neg hyear

theorem epochLiteral?_eq_none_of_late (hread : Text.int64? numeral = some millis)
    (h : 253402300799999 < millis) : epochLiteral? numeral = none := by
  simp only [epochLiteral?, hread]
  exact if_pos (.inr (lastYear_lt_of_millis h))

/-- Of the strings of digits, those beyond the year 9999 are refused, at any length. -/
theorem epochLiteral?_eq_none_iff_of_isDigits (h : Text.isDigits numeral = true) :
    epochLiteral? numeral = none ↔ 253402300799999 < Text.digitsValue numeral := by
  have hread := Text.int64?_of_isDigits h
  constructor
  · intro hnone
    by_contra hlast
    have hfits : Text.digitsValue numeral < Text.int64Half :=
      Nat.lt_of_le_of_lt (Nat.le_of_not_lt hlast) (by decide)
    rw [if_pos hfits] at hread
    obtain ⟨moment, hliteral, -⟩ := epochLiteral?_eq_some hread (by omega) (by omega)
    rw [hnone] at hliteral
    cases hliteral
  · intro hlate
    split at hread
    · exact epochLiteral?_eq_none_of_late hread (by omega)
    · simp only [epochLiteral?, hread]

end Numerals

/-- Up to the year 9999 a number of milliseconds is written as the moment of the calendar that
counts back to it, in the order of time.  No later number is written, and of the strings of
digits no other is refused. -/
theorem epochLiteral?_calendar :
    (∀ (numeral : Text) (millis : Int), Text.int64? numeral = some millis →
      -62167219200000 ≤ millis → millis ≤ 253402300799999 →
        ∃ moment : CivilMoment,
          epochLiteral? numeral = some moment.literal ∧ moment.millis = millis) ∧
    (∀ (early late : Text) (first last : Int), Text.int64? early = some first →
      Text.int64? late = some last → -62167219200000 ≤ first → first < last →
      last ≤ 253402300799999 →
        ∃ s t : Text, epochLiteral? early = some s ∧ epochLiteral? late = some t ∧ s < t) ∧
    (∀ (numeral : Text) (millis : Int), Text.int64? numeral = some millis →
      253402300799999 < millis → epochLiteral? numeral = none) ∧
    (∀ numeral : Text, Text.isDigits numeral = true →
      (epochLiteral? numeral = none ↔ 253402300799999 < Text.digitsValue numeral)) := by
  refine ⟨fun _ _ => epochLiteral?_eq_some, ?_, fun _ _ => epochLiteral?_eq_none_of_late,
    fun _ => epochLiteral?_eq_none_iff_of_isDigits⟩
  intro early late first last hearly hlate hfirst hless hlast
  obtain ⟨a, ha, hfirstmillis⟩ := epochLiteral?_eq_some hearly hfirst (by omega)
  obtain ⟨b, hb, hlastmillis⟩ := epochLiteral?_eq_some hlate (by omega) hlast
  refine ⟨a.literal, b.literal, ha, hb, ?_⟩
  rw [CivilMoment.literal_lt_iff, hfirstmillis, hlastmillis]
  exact hless

/-- The last millisecond before 1970 is written, the first one after the year 9999 is not. -/
theorem epochLiteral?_calendar_bounds :
    (∃ moment : CivilMoment,
      epochLiteral? "-1".toList = some moment.literal ∧ moment.millis = -1) ∧
    (∃ s t : Text, epochLiteral? "-1".toList = some s ∧
      epochLiteral? "+951782400000".toList = some t ∧ s < t) ∧
    epochLiteral? "253402300800000".toList = none ∧
    (epochLiteral? "00000253402300799999".toList = none ↔
      253402300799999 < Text.digitsValue "00000253402300799999".toList) :=
  ⟨epochLiteral?_calendar.1 _ (-1) (by decide) (by decide) (by decide),
    epochLiteral?_calendar.2.1 _ _ (-1) 951782400000 (by decide) (by decide) (by decide)
      (by decide) (by decide),
    epochLiteral?_calendar.2.2.1 _ 253402300800000 (by decide) (by decide),
    epochLiteral?_calendar.2.2.2 _ (by decide)⟩

example :
    epochLiteral? "-1".toList = some "'1969-12-31 23:59:59.999+00'".toList ∧
      epochLiteral? "951782400000".toList = some "'2000-02-29 00:00:00.000+00'".toList := by
  decide

end DumpConvert
