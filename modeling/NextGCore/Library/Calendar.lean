import Mathlib.Algebra.BigOperators.Intervals
import Mathlib.Data.Rat.Floor
import Mathlib.Tactic.IntervalCases

/-!
# Days of the Gregorian calendar

Days are counted as calendars do: those of the earlier years, of the earlier months and of the
month.  The closed form of the count is what algorithms are compared with.
-/

namespace NextGCore.Library

open Finset

variable {year month : ℕ}

def IsLeapYear (year : ℕ) : Prop := year % 4 = 0 ∧ (year % 100 ≠ 0 ∨ year % 400 = 0)

instance (year : ℕ) : Decidable (IsLeapYear year) :=
  inferInstanceAs (Decidable (year % 4 = 0 ∧ (year % 100 ≠ 0 ∨ year % 400 = 0)))

def monthDays (year month : ℕ) : ℕ :=
  if month = 2 then if IsLeapYear year then 29 else 28
  else if month = 4 ∨ month = 6 ∨ month = 9 ∨ month = 11 then 30
  else 31

def yearDays (year : ℕ) : ℕ := ∑ month ∈ Icc 1 12, monthDays year month

lemma monthDays_le (year month : ℕ) : monthDays year month ≤ 31 := by
  rw [monthDays]
  split_ifs <;> decide

lemma yearDays_eq (year : ℕ) : yearDays year = if IsLeapYear year then 366 else 365 := by
  rw [yearDays, show Icc 1 12 = Ico 1 13 from rfl]
  by_cases leap : IsLeapYear year
  all_goals simp [sum_Ico_succ_top, monthDays, leap]

lemma add_div_eq (year : ℕ) : (year + 3) / 4 = year / 4 + (if year % 4 = 0 then 0 else 1) ∧
  (year + 99) / 100 = year / 100 + (if year % 100 = 0 then 0 else 1) ∧
  (year + 399) / 400 = year / 400 + (if year % 400 = 0 then 0 else 1) := by
  refine ⟨?_, ?_, ?_⟩
  all_goals split_ifs <;> omega

lemma sum_yearDays (years : ℕ) : ∑ year ∈ range years, yearDays year + (years + 99) / 100 =
    365 * years + (years + 3) / 4 + (years + 399) / 400 := by
  induction years with
  | zero => rfl
  | succ years ih =>
    obtain ⟨quarters, centuries, cycles⟩ := add_div_eq years
    have nextQuarter : (years + 1 + 3) / 4 = years / 4 + 1 := by omega
    have nextCentury : (years + 1 + 99) / 100 = years / 100 + 1 := by omega
    have nextCycle : (years + 1 + 399) / 400 = years / 400 + 1 := by omega
    rw [quarters, centuries, cycles] at ih
    rw [sum_range_succ, yearDays_eq, nextQuarter, nextCentury, nextCycle]
    simp only [IsLeapYear]
    generalize ∑ year ∈ range years, yearDays year = total at *
    by_cases four : years % 4 = 0
    all_goals by_cases hundred : years % 100 = 0
    all_goals by_cases fourHundred : years % 400 = 0
    all_goals simp [four, hundred, fourHundred] at ih ⊢
    all_goals omega

structure Date where
  year : ℕ
  month : ℕ
  day : ℕ
  month_pos : 1 ≤ month
  month_le : month ≤ 12
  day_pos : 1 ≤ day
  day_le : day ≤ monthDays year month

namespace Date

def monthStart (date : Date) : ℕ := ∑ month ∈ Ico 1 date.month, monthDays date.year month

def number (date : Date) : ℕ :=
  ∑ year ∈ range date.year, yearDays year + date.monthStart + (date.day - 1)

def unixEpoch : Date := ⟨1970, 1, 1, by decide, by decide, by decide, by decide⟩

def unixDay (date : Date) : ℤ := (date.number : ℤ) - unixEpoch.number

lemma number_of_newYear {date : Date} (january : date.month = 1) (first : date.day = 1) :
  date.number + (date.year + 99) / 100 =
    365 * date.year + (date.year + 3) / 4 + (date.year + 399) / 400 := by
  rw [number, monthStart, january, first, Ico_self, sum_empty]
  exact sum_yearDays date.year

lemma number_unixEpoch : unixEpoch.number = 719528 := by
  have counted := @number_of_newYear unixEpoch rfl rfl
  have year : unixEpoch.year = 1970 := rfl
  rw [year] at counted
  generalize unixEpoch.number = number at *
  omega

end Date

variable {date : Date}

/-- The days of the years up to one, but for those of the first year before March. -/
def daysThrough (year : ℤ) : ℤ := 365 * year + year / 4 - year / 100 + year / 400

def marchDays (place : ℕ) : ℕ := (153 * place + 2) / 5

lemma sum_yearDays_eq_pred (year : ℕ) :
  ((∑ earlier ∈ range year, yearDays earlier : ℕ) : ℤ) = daysThrough (year - 1) + 366 := by
  have years := sum_yearDays year
  rw [daysThrough]
  omega

lemma sum_yearDays_eq (year : ℕ) :
  ((∑ earlier ∈ range year, yearDays earlier : ℕ) : ℤ) + monthDays year 2 =
    daysThrough year + 29 := by
  have years := sum_yearDays year
  obtain ⟨quarters, centuries, cycles⟩ := add_div_eq year
  have february : monthDays year 2 = if IsLeapYear year then 29 else 28 := rfl
  rw [quarters, centuries, cycles] at years
  rw [february, daysThrough]
  simp only [IsLeapYear]
  generalize ∑ earlier ∈ range year, yearDays earlier = total at *
  by_cases four : year % 4 = 0
  all_goals by_cases hundred : year % 100 = 0
  all_goals by_cases fourHundred : year % 400 = 0
  all_goals simp [four, hundred, fourHundred] at years ⊢
  all_goals omega

lemma sum_monthDays_eq_pred (first : 1 ≤ month) (before : month ≤ 2) :
  ∑ earlier ∈ Ico 1 month, monthDays year earlier + 306 = marchDays (month + 9) := by
  interval_cases month <;> rfl

lemma sum_monthDays_eq (march : 3 ≤ month) (last : month ≤ 12) :
  ∑ earlier ∈ Ico 1 month, monthDays year earlier =
    31 + monthDays year 2 + marchDays (month - 3) := by
  interval_cases month
  all_goals simp [sum_Ico_succ_top, monthDays, marchDays, Nat.add_assoc]

lemma Date.unixDay_of_le (before : date.month ≤ 2) : date.unixDay =
    daysThrough (date.year - 1) + marchDays (date.month + 9) + date.day - 1 - 719468 := by
  have years := sum_yearDays_eq_pred date.year
  have months := @sum_monthDays_eq_pred date.year _ date.month_pos before
  have days := date.day_pos
  rw [Date.unixDay, Date.number_unixEpoch, Date.number, Date.monthStart]
  generalize ∑ year ∈ range date.year, yearDays year = earlier at *
  generalize ∑ month ∈ Ico 1 date.month, monthDays date.year month = within at *
  generalize daysThrough (date.year - 1) = through at *
  generalize marchDays (date.month + 9) = march at *
  omega

lemma Date.unixDay_of_lt (march : 2 < date.month) : date.unixDay =
    daysThrough date.year + marchDays (date.month - 3) + date.day - 1 - 719468 := by
  have years := sum_yearDays_eq date.year
  have months := @sum_monthDays_eq date.year _ march date.month_le
  have days := date.day_pos
  rw [Date.unixDay, Date.number_unixEpoch, Date.number, Date.monthStart]
  generalize ∑ year ∈ range date.year, yearDays year = earlier at *
  generalize ∑ month ∈ Ico 1 date.month, monthDays date.year month = within at *
  generalize daysThrough date.year = through at *
  generalize monthDays date.year 2 = february at *
  generalize marchDays (date.month - 3) = marchDay at *
  omega

end NextGCore.Library
