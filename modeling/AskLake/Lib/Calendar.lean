/-
# `AskLake.Lib.Calendar` — the Gregorian calendar

Days are counted from the first of January of the year 1, which was a Monday.  A day has a year,
a month and a day of the month, and these give the day back:

    ordinal (yearOf n) (monthOf n) (dayOf n) = n

A month is the days from its start to the start of the next one (`start_nextMonth`), so that a
search which goes from month to month meets every day.
-/
import Mathlib.Tactic.IntervalCases
import Mathlib.Tactic.SplitIfs

namespace AskLake.Lib.Calendar

def isLeap (year : Int) : Bool := year % 4 == 0 && (year % 100 != 0 || year % 400 == 0)

/-- One day more in a leap year. -/
def leapDay (year : Int) : Int := if isLeap year then 1 else 0

def monthLength (year : Int) (month : Nat) : Int :=
  match month with
  | 2 => 28 + leapDay year
  | 4 => 30
  | 6 => 30
  | 9 => 30
  | 11 => 30
  | _ => 31

def daysBeforeYear (year : Int) : Int :=
  365 * (year - 1) + (year - 1) / 4 - (year - 1) / 100 + (year - 1) / 400

def daysBeforeMonth (year : Int) (month : Nat) : Int :=
  match month with
  | 0 => 0
  | 1 => 0
  | 2 => 31
  | 3 => 59 + leapDay year
  | 4 => 90 + leapDay year
  | 5 => 120 + leapDay year
  | 6 => 151 + leapDay year
  | 7 => 181 + leapDay year
  | 8 => 212 + leapDay year
  | 9 => 243 + leapDay year
  | 10 => 273 + leapDay year
  | 11 => 304 + leapDay year
  | 12 => 334 + leapDay year
  | _ => 365 + leapDay year

/-- The first day of a month. -/
def start (year : Int) (month : Nat) : Int := daysBeforeYear year + daysBeforeMonth year month

def ordinal (year : Int) (month : Nat) (day : Int) : Int := start year month + (day - 1)

/-- A year is close to its share of the 400 years that have 146097 days. -/
def yearOf (n : Int) : Int :=
  let year := 400 * n / 146097 + 1
  if n < daysBeforeYear year then year - 1
  else if daysBeforeYear (year + 1) ≤ n then year + 1
  else year

/-- The month of a day of the year, looked for from `month` on. -/
def monthFrom (year day : Int) : Nat → Nat → Nat
  | 0, month => month
  | left + 1, month =>
      if day < daysBeforeMonth year (month + 1) then month else monthFrom year day left (month + 1)

def monthIn (year day : Int) : Nat := monthFrom year day 11 1

def monthOf (n : Int) : Nat := monthIn (yearOf n) (n - daysBeforeYear (yearOf n))

def dayOf (n : Int) : Int := n - start (yearOf n) (monthOf n) + 1

/-- Monday is 0. -/
def weekday (n : Int) : Int := n % 7

def nextMonth (year : Int) (month : Nat) : Int × Nat :=
  if month + 1 > 12 then (year + 1, 1) else (year, month + 1)

/-! ## Years -/

theorem leapDay_cases (year : Int) : leapDay year = 0 ∨ leapDay year = 1 := by
  unfold leapDay
  split
  · exact Or.inr rfl
  · exact Or.inl rfl

theorem leapDay_eq_one {year : Int} :
    leapDay year = 1 ↔ year % 4 = 0 ∧ (year % 100 ≠ 0 ∨ year % 400 = 0) := by
  unfold leapDay isLeap
  split <;> simp_all

theorem daysBeforeYear_succ (year : Int) :
    daysBeforeYear (year + 1) = daysBeforeYear year + 365 + leapDay year := by
  have hleap := @leapDay_eq_one year
  have hcases := leapDay_cases year
  unfold daysBeforeYear
  by_cases h : year % 4 = 0 ∧ (year % 100 ≠ 0 ∨ year % 400 = 0)
  · rw [hleap.mpr h]
    omega
  · have h0 : leapDay year = 0 := hcases.resolve_right fun h1 => h (hleap.mp h1)
    rw [h0]
    omega

/-- A year starts before its end. -/
theorem yearOf_spec (n : Int) :
    daysBeforeYear (yearOf n) ≤ n ∧ n < daysBeforeYear (yearOf n + 1) := by
  unfold yearOf
  dsimp only
  split_ifs with hbefore hafter
  · refine ⟨?_, by rwa [Int.sub_add_cancel]⟩
    unfold daysBeforeYear at *
    omega
  · refine ⟨hafter, ?_⟩
    unfold daysBeforeYear at *
    omega
  · exact ⟨by omega, by omega⟩

theorem daysBeforeYear_mono {a b : Int} (h : a ≤ b) : daysBeforeYear a ≤ daysBeforeYear b := by
  unfold daysBeforeYear
  omega

theorem yearOf_eq {n year : Int} (hle : daysBeforeYear year ≤ n)
    (hlt : n < daysBeforeYear (year + 1)) : yearOf n = year := by
  obtain ⟨h₁, h₂⟩ := yearOf_spec n
  rcases Int.lt_trichotomy (yearOf n) year with h | h | h
  · have := daysBeforeYear_mono (show yearOf n + 1 ≤ year by omega)
    omega
  · exact h
  · have := daysBeforeYear_mono (show year + 1 ≤ yearOf n by omega)
    omega

/-! ## Months -/

theorem daysBeforeMonth_succ (year : Int) {month : Nat} (h₁ : 1 ≤ month) (h₂ : month ≤ 12) :
    daysBeforeMonth year (month + 1) = daysBeforeMonth year month + monthLength year month := by
  interval_cases month <;> simp only [daysBeforeMonth, monthLength] <;> omega

theorem monthLength_bounds (year : Int) (month : Nat) :
    28 ≤ monthLength year month ∧ monthLength year month ≤ 31 := by
  have := leapDay_cases year
  unfold monthLength
  split <;> omega

/-- Of a month and the next one at least one has 31 days. -/
theorem long_month {year : Int} {month : Nat} (h₁ : 1 ≤ month) (h₂ : month ≤ 12) :
    monthLength year month = 31 ∨
      monthLength (nextMonth year month).1 (nextMonth year month).2 = 31 := by
  interval_cases month <;> simp [monthLength, nextMonth]

theorem nextMonth_bounds {year : Int} {month : Nat} (h₁ : 1 ≤ month) (h₂ : month ≤ 12) :
    1 ≤ (nextMonth year month).2 ∧ (nextMonth year month).2 ≤ 12 := by
  unfold nextMonth
  split <;> dsimp only <;> omega

/-- A month ends where the next one starts. -/
theorem start_nextMonth {year : Int} {month : Nat} (h₁ : 1 ≤ month) (h₂ : month ≤ 12) :
    start (nextMonth year month).1 (nextMonth year month).2 =
      start year month + monthLength year month := by
  unfold nextMonth start
  split
  · have h12 : month = 12 := by omega
    subst h12
    rw [daysBeforeYear_succ]
    simp only [daysBeforeMonth, monthLength]
    omega
  · dsimp only
    rw [daysBeforeMonth_succ year h₁ h₂]
    omega

theorem monthFrom_spec {year day : Int} {left month : Nat} (hsum : month + left = 12)
    (hle : daysBeforeMonth year month ≤ day) (hlt : day < daysBeforeMonth year 13) :
    month ≤ monthFrom year day left month ∧ monthFrom year day left month ≤ 12 ∧
      daysBeforeMonth year (monthFrom year day left month) ≤ day ∧
      day < daysBeforeMonth year (monthFrom year day left month + 1) := by
  induction left generalizing month with
  | zero =>
      have h12 : month = 12 := hsum
      subst h12
      exact ⟨Nat.le_refl _, Nat.le_refl _, hle, hlt⟩
  | succ left ih =>
      unfold monthFrom
      split
      · rename_i hnext
        exact ⟨Nat.le_refl _, by omega, hle, hnext⟩
      · rename_i hnext
        obtain ⟨h₁, h₂, h₃, h₄⟩ := ih (by omega) (Int.not_lt.mp hnext)
        exact ⟨by omega, h₂, h₃, h₄⟩

theorem monthIn_spec (year day : Int) (h₀ : 0 ≤ day) (h : day < 365 + leapDay year) :
    1 ≤ monthIn year day ∧ monthIn year day ≤ 12 ∧
      daysBeforeMonth year (monthIn year day) ≤ day ∧
      day < daysBeforeMonth year (monthIn year day + 1) :=
  monthFrom_spec rfl h₀ h

theorem daysBeforeMonth_mono (year : Int) {a b : Nat} (ha : 1 ≤ a) (hab : a ≤ b) (hb : b ≤ 13) :
    daysBeforeMonth year a ≤ daysBeforeMonth year b := by
  induction b, hab using Nat.le_induction with
  | base => exact Int.le_refl _
  | succ b hab ih =>
      have hlength := (monthLength_bounds year b).1
      rw [daysBeforeMonth_succ year (by omega) (by omega)]
      have := ih (by omega)
      omega

theorem monthIn_eq {year day : Int} {month : Nat} (h₁ : 1 ≤ month) (h₂ : month ≤ 12)
    (hle : daysBeforeMonth year month ≤ day) (hlt : day < daysBeforeMonth year (month + 1)) :
    monthIn year day = month := by
  have hzero : daysBeforeMonth year 1 = 0 := rfl
  have hend : daysBeforeMonth year 13 = 365 + leapDay year := rfl
  have hfirst := daysBeforeMonth_mono year (Nat.le_refl 1) h₁ (by omega)
  have hlast := daysBeforeMonth_mono year (show 1 ≤ month + 1 by omega)
    (show month + 1 ≤ 13 by omega) (Nat.le_refl 13)
  obtain ⟨hm₁, hm₂, hmle, hmlt⟩ := monthIn_spec year day (by omega) (by omega)
  rcases Nat.lt_trichotomy (monthIn year day) month with h | h | h
  · have := daysBeforeMonth_mono year (show 1 ≤ monthIn year day + 1 by omega)
      (show monthIn year day + 1 ≤ month by omega) (by omega)
    omega
  · exact h
  · have := daysBeforeMonth_mono year (show 1 ≤ month + 1 by omega)
      (show month + 1 ≤ monthIn year day by omega) (by omega)
    omega

/-! ## Days -/

/-- A day is in its month. -/
theorem month_spec (n : Int) :
    1 ≤ monthOf n ∧ monthOf n ≤ 12 ∧ start (yearOf n) (monthOf n) ≤ n ∧
      n < start (yearOf n) (monthOf n) + monthLength (yearOf n) (monthOf n) := by
  obtain ⟨h₁, h₂⟩ := yearOf_spec n
  rw [daysBeforeYear_succ] at h₂
  obtain ⟨hm₁, hm₂, hle, hlt⟩ := monthIn_spec (yearOf n)
    (n - daysBeforeYear (yearOf n)) (by omega) (by omega)
  rw [daysBeforeMonth_succ _ hm₁ hm₂] at hlt
  unfold start monthOf
  exact ⟨hm₁, hm₂, by omega, by omega⟩

/-- The days of a month have its year and its month. -/
theorem month_eq {n year : Int} {month : Nat} (h₁ : 1 ≤ month) (h₂ : month ≤ 12)
    (hle : start year month ≤ n) (hlt : n < start year month + monthLength year month) :
    yearOf n = year ∧ monthOf n = month := by
  unfold start at hle hlt
  have hzero : daysBeforeMonth year 1 = 0 := rfl
  have hend : daysBeforeMonth year 13 = 365 + leapDay year := rfl
  have hfirst := daysBeforeMonth_mono year (Nat.le_refl 1) h₁ (by omega)
  have hlast := daysBeforeMonth_mono year (show 1 ≤ month + 1 by omega)
    (show month + 1 ≤ 13 by omega) (Nat.le_refl 13)
  have hsucc := daysBeforeMonth_succ year h₁ h₂
  have hyear : yearOf n = year := by
    refine yearOf_eq (by omega) ?_
    rw [daysBeforeYear_succ]
    omega
  refine ⟨hyear, ?_⟩
  unfold monthOf
  rw [hyear]
  exact monthIn_eq h₁ h₂ (by omega) (by omega)

theorem dayOf_eq {n year : Int} {month : Nat} (h₁ : 1 ≤ month) (h₂ : month ≤ 12)
    (hle : start year month ≤ n) (hlt : n < start year month + monthLength year month) :
    dayOf n = n - start year month + 1 := by
  obtain ⟨hyear, hmonth⟩ := month_eq h₁ h₂ hle hlt
  unfold dayOf
  rw [hyear, hmonth]

example : (yearOf 739818, monthOf 739818, dayOf 739818, weekday 739818) = (2026, 7, 22, 2) := by
  decide

end AskLake.Lib.Calendar
