import Mathlib.Tactic.IntervalCases

/-!
# The Gregorian calendar

The calendar with its leap years, extended to all years, and the days counted from the first of
January 1970.

* `IsDate` says which years, months and days are a date.
* `makeDay` is the number of the day.  A day past the end of its month counts into the next one.
* `makeDay_injective`: two dates of one number are the same, so that whoever computes a date of the
  right number has computed the date.
-/

namespace Calendar

def isLeap (year : ℤ) : Bool := year % 4 = 0 ∧ (year % 100 ≠ 0 ∨ year % 400 = 0)

def monthLength (year : ℤ) (month : ℕ) : ℕ :=
  if month = 2 then if isLeap year then 29 else 28
  else if month = 4 ∨ month = 6 ∨ month = 9 ∨ month = 11 then 30
  else 31

/-- The year, month and day are a date of the calendar. -/
structure IsDate (year : ℤ) (month day : ℕ) : Prop where
  month_pos : 1 ≤ month
  month_le : month ≤ 12
  day_pos : 1 ≤ day
  day_le : day ≤ monthLength year month

instance decidableIsDate (year : ℤ) (month day : ℕ) : Decidable (IsDate year month day) :=
  decidable_of_iff (1 ≤ month ∧ month ≤ 12 ∧ 1 ≤ day ∧ day ≤ monthLength year month)
    ⟨fun h => ⟨h.1, h.2.1, h.2.2.1, h.2.2.2⟩,
      fun h => ⟨h.month_pos, h.month_le, h.day_pos, h.day_le⟩⟩

/-- The number of the first of January. -/
def dayFromYear (year : ℤ) : ℤ :=
  365 * (year - 1970) + (year - 1969) / 4 - (year - 1901) / 100 + (year - 1601) / 400

/-- The days of the year before the month. -/
def monthStart (year : ℤ) (month : ℕ) : ℕ :=
  [0, 31, 59, 90, 120, 151, 181, 212, 243, 273, 304, 334].getD (month - 1) 0 +
    if 2 < month ∧ isLeap year then 1 else 0

/-- The number of the day. -/
def makeDay (year : ℤ) (month day : ℕ) : ℤ :=
  dayFromYear year + (monthStart year month + day : ℕ) - 1

/-! ## Years -/

def yearLength (year : ℤ) : ℤ := if isLeap year then 366 else 365

theorem isLeap_iff {year : ℤ} :
    isLeap year = true ↔ year % 4 = 0 ∧ (year % 100 ≠ 0 ∨ year % 400 = 0) := by
  simp [isLeap]

theorem dayFromYear_succ (year : ℤ) : dayFromYear (year + 1) = dayFromYear year + yearLength year := by
  rw [dayFromYear, dayFromYear, yearLength]
  by_cases h : isLeap year = true
  · rw [if_pos h]
    rw [isLeap_iff] at h
    omega
  · rw [if_neg h]
    rw [isLeap_iff] at h
    omega

theorem dayFromYear_mono {year later : ℤ} (h : year ≤ later) :
    dayFromYear year ≤ dayFromYear later := by
  rw [dayFromYear, dayFromYear]
  omega

/-! ## Months -/

variable {year : ℤ} {month day : ℕ}

theorem monthStart_add_length (h : 1 ≤ month) (h' : month < 12) :
    monthStart year month + monthLength year month = monthStart year (month + 1) := by
  cases hleap : isLeap year <;> interval_cases month <;> simp [monthStart, monthLength, hleap]

theorem monthStart_december : (monthStart year 12 + 31 : ℤ) = yearLength year := by
  cases hleap : isLeap year <;> simp [monthStart, yearLength, hleap]

theorem monthStart_mono {later : ℕ} (h : 1 ≤ month) (h' : month ≤ later) (h'' : later ≤ 12) :
    monthStart year month ≤ monthStart year later := by
  induction later, h' using Nat.le_induction with
  | base => exact le_rfl
  | succ later hle ih =>
    calc monthStart year month ≤ monthStart year later := ih (by omega)
      _ ≤ monthStart year later + monthLength year later := Nat.le_add_right _ _
      _ = monthStart year (later + 1) := monthStart_add_length (by omega) (by omega)

section

variable (h : IsDate year month day)
include h

/-- A date lies in its month. -/
theorem IsDate.lt_of_month_lt {later : ℕ} (hlt : month < later)
    (hle : later ≤ 12) : monthStart year month + day ≤ monthStart year later :=
  calc monthStart year month + day ≤ monthStart year month + monthLength year month :=
        Nat.add_le_add_left h.day_le _
    _ = monthStart year (month + 1) := monthStart_add_length h.month_pos (by omega)
    _ ≤ monthStart year later := monthStart_mono (by omega) hlt hle

/-- A date lies in its year. -/
theorem IsDate.le_yearLength :
    (monthStart year month + day : ℤ) ≤ yearLength year := by
  have hdecember := @monthStart_december year
  rcases h.month_le.lt_or_eq with hlt | rfl
  · have := h.lt_of_month_lt hlt le_rfl
    omega
  · have := h.day_le
    rw [monthLength] at this
    simp only [Nat.reduceEqDiff, if_false, or_self] at this
    omega

theorem IsDate.year_le : dayFromYear year ≤ makeDay year month day := by
  have := h.day_pos
  rw [makeDay]
  omega

theorem IsDate.lt_year :
    makeDay year month day < dayFromYear (year + 1) := by
  have := h.le_yearLength
  rw [makeDay, dayFromYear_succ]
  omega

end

/-! ## One date for a number -/

variable {year' : ℤ} {month' day' : ℕ}

section

variable (h : IsDate year month day)
include h

theorem IsDate.year_le_of_le (h' : IsDate year' month' day')
    (hle : makeDay year month day ≤ makeDay year' month' day') : year ≤ year' := by
  by_contra hlt
  have hnext : dayFromYear (year' + 1) ≤ dayFromYear year := dayFromYear_mono (by omega)
  have := h.year_le
  have := h'.lt_year
  omega

theorem IsDate.month_le_of_le (h' : IsDate year month' day')
    (hle : monthStart year month + day ≤ monthStart year month' + day') : month ≤ month' := by
  by_contra hlt
  have := h'.lt_of_month_lt (not_le.mp hlt) h.month_le
  have := h.day_pos
  omega

/-- **A day has one date.** -/
theorem makeDay_injective (h' : IsDate year' month' day')
    (heq : makeDay year month day = makeDay year' month' day') :
    year = year' ∧ month = month' ∧ day = day' := by
  obtain rfl : year = year' :=
    le_antisymm (h.year_le_of_le h' heq.le) (h'.year_le_of_le h heq.ge)
  have hday : monthStart year month + day = monthStart year month' + day' := by
    rw [makeDay, makeDay] at heq
    omega
  obtain rfl : month = month' :=
    le_antisymm (h.month_le_of_le h' hday.le) (h'.month_le_of_le h hday.ge)
  exact ⟨rfl, rfl, by omega⟩

end

end Calendar
