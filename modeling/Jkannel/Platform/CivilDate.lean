import Jkannel.Lib.Calendar
import Jkannel.Platform.Grid

/-!
# The date that a clock shows

`civilDate` is what the UTC getters of a `Date` answer, and what its ISO text is written from.  It
counts in years that begin in March, so that the leap day is the last one, and in eras of four
hundred of them.  Here it is compared with the calendar.

* `civilDate_spec`: what it answers is always a date, and it is the date of the day that was asked
  for.
* `civilDate_makeDay`: so it finds the date that a number of a day was computed from.
-/

namespace Jkannel.Platform.Grid

open Calendar

/-! ## Days of an era, and of a year that begins in March -/

/-- Where in its era a day lies: the year, and the day of the year. -/
structure YearOfDay (dayOfEra yearOfEra dayOfYear : ℕ) : Prop where
  year_lt : yearOfEra < 400
  day_eq : dayOfEra = 365 * yearOfEra + yearOfEra / 4 - yearOfEra / 100 + dayOfYear
  day_lt : dayOfYear < if isLeap (yearOfEra + 1) then 366 else 365

/-- A day of a century, in cycles of four years.  The last cycle has no leap day. -/
theorem yearOfCentury {century day : ℕ} (hc : century ≤ 3) (h : day < 36524) :
    ∃ cycle rest year, year ≤ 3 ∧ cycle ≤ 24 ∧ day = 1461 * cycle + rest ∧ 365 * year ≤ rest ∧
      (rest < 365 * (year + 1) ∨ year = 3 ∧ rest = 1460 ∧ cycle < 24) ∧
      (36524 * century + day - (36524 * century + day) / 1460 + century) / 365 =
        100 * century + 4 * cycle + year := by
  refine ⟨day / 1461, day % 1461, min 3 (day % 1461 / 365), by omega, by omega, by omega, by omega,
    by omega, ?_⟩
  have hcarry : (36524 * century + day) / 1460 =
      25 * century + day / 1461 + (day / 1461 + day % 1461 + 24 * century) / 1460 := by
    omega
  have hbit : (day / 1461 + day % 1461 + 24 * century) / 1460 = 0 ∨
      (day / 1461 + day % 1461 + 24 * century) / 1460 = 1 := by
    omega
  rw [hcarry]
  rcases hbit with hbit | hbit
  · rw [hbit]
    omega
  · rw [hbit]
    omega

theorem yearOfDay {dayOfEra yearOfEra : ℕ} (h : dayOfEra < 146097) (hyear : yearOfEra =
      (dayOfEra - dayOfEra / 1460 + dayOfEra / 36524 - dayOfEra / 146096) / 365) :
    YearOfDay dayOfEra yearOfEra
      (dayOfEra - (365 * yearOfEra + yearOfEra / 4 - yearOfEra / 100)) := by
  rcases Nat.lt_succ_iff_lt_or_eq.mp h with hlt | rfl
  · -- one of the four centuries, the last without the last day of the era
    obtain ⟨cycle, rest, year, hyear3, hcycle, hday, hle, hrest, hsum⟩ :=
      @yearOfCentury (dayOfEra / 36524) (dayOfEra % 36524) (by omega) (by omega)
    rw [Nat.div_add_mod] at hsum
    have hzero : dayOfEra / 146096 = 0 := by omega
    rw [hzero, Nat.sub_zero, hsum] at hyear
    have hdiv4 : yearOfEra / 4 = 25 * (dayOfEra / 36524) + cycle := by omega
    have hdiv100 : yearOfEra / 100 = dayOfEra / 36524 := by omega
    refine ⟨by omega, by omega, ?_⟩
    split
    next hleap => omega
    next hleap =>
      rw [isLeap_iff] at hleap
      omega
  · obtain rfl : yearOfEra = 399 := by omega
    exact ⟨by omega, by omega, by decide⟩

/-- The months of a year that begins in March, numbered from there. -/
theorem monthOfDay {dayOfYear shifted : ℕ} (h : dayOfYear < 366)
    (hshifted : shifted = (5 * dayOfYear + 2) / 153) :
    shifted < 12 ∧ (153 * shifted + 2) / 5 ≤ dayOfYear := by
  omega

/-! ## Against the calendar -/

/-- The first of March of the year in which an era's `yearOfEra`-th year begins. -/
theorem dayFromYear_era (era : ℤ) (yearOfEra : ℕ) (h : yearOfEra < 400) :
    dayFromYear (era * 400 + yearOfEra + 1) =
      era * 146097 + ((365 * yearOfEra + yearOfEra / 4 - yearOfEra / 100 : ℕ) : ℤ) + 306 - 719468 := by
  rw [dayFromYear]
  omega

theorem isLeap_era (era : ℤ) (year : ℤ) : isLeap (era * 400 + year) = isLeap year := by
  rw [Bool.eq_iff_iff, isLeap_iff, isLeap_iff]
  omega

/-- The date of a day, given where it lies in its era and its year. -/
theorem civilDate_eq (day : ℤ) :
    ∃ (era : ℤ) (dayOfEra yearOfEra dayOfYear shifted : ℕ),
      day = era * 146097 + dayOfEra - 719468 ∧ YearOfDay dayOfEra yearOfEra dayOfYear ∧
        shifted < 12 ∧ shifted = (5 * dayOfYear + 2) / 153 ∧
        civilDate day =
          let month := if shifted < 10 then shifted + 3 else shifted - 9
          (if month ≤ 2 then era * 400 + yearOfEra + 1 else era * 400 + yearOfEra, month,
            dayOfYear - (153 * shifted + 2) / 5 + 1) := by
  have hrem : 0 ≤ (day + 719468).fmod 146097 := Int.fmod_nonneg_of_pos _ (by omega)
  have hlt : (day + 719468).fmod 146097 < 146097 := Int.fmod_lt_of_pos _ (by omega)
  have hsum := Int.mul_fdiv_add_fmod (day + 719468) 146097
  refine ⟨(day + 719468).fdiv 146097, ((day + 719468).fmod 146097).toNat, _, _, _, by omega,
    yearOfDay (by omega) rfl, ?_, rfl, rfl⟩
  have hyear := @yearOfDay ((day + 719468).fmod 146097).toNat _ (by omega) rfl
  refine (monthOfDay ?_ rfl).1
  have := hyear.day_lt
  split at this <;> omega

/-- From March to December, the months begin where the year that begins in March has them. -/
theorem monthStart_from_march (year : ℤ) {shifted : ℕ} (h : shifted < 10) :
    (monthStart year (shifted + 3) : ℤ) + 306 = yearLength year + (153 * shifted + 2 : ℕ) / 5 := by
  cases hleap : isLeap year <;> interval_cases shifted <;> simp [monthStart, yearLength, hleap]

theorem monthLength_from_march (year : ℤ) {shifted : ℕ} (h : shifted < 10) :
    (153 * shifted + 2) / 5 + monthLength year (shifted + 3) = (153 * (shifted + 1) + 2) / 5 := by
  interval_cases shifted <;> simp [monthLength]

/-- **The getters answer a date, and the one of the day.** -/
theorem civilDate_spec (day : ℤ) :
    IsDate (civilDate day).1 (civilDate day).2.1 (civilDate day).2.2 ∧
      makeDay (civilDate day).1 (civilDate day).2.1 (civilDate day).2.2 = day := by
  obtain ⟨era, dayOfEra, yearOfEra, dayOfYear, shifted, hday, hyear, hlt, hshifted, hcivil⟩ :=
    civilDate_eq day
  have hera := dayFromYear_era era yearOfEra hyear.year_lt
  have hdayEq := hyear.day_eq
  rw [hcivil]
  by_cases hmarch : shifted < 10
  · -- March to December
    have hsucc := dayFromYear_succ (era * 400 + yearOfEra)
    have hstart := monthStart_from_march (era * 400 + yearOfEra) hmarch
    have hlength := monthLength_from_march (era * 400 + yearOfEra) hmarch
    have hlate : ¬ shifted + 3 ≤ 2 := by omega
    simp only [hmarch, if_true, hlate, if_false]
    refine ⟨⟨by omega, by omega, by omega, by omega⟩, ?_⟩
    rw [makeDay]
    omega
  · -- January and February belong to the year after
    have hdayLt := hyear.day_lt
    rw [← isLeap_era era, ← add_assoc] at hdayLt
    obtain rfl | rfl : shifted = 10 ∨ shifted = 11 := by omega
    · refine ⟨⟨by simp, by simp, by simp, ?_⟩, ?_⟩
      · simp [monthLength]
        omega
      · show dayFromYear (era * 400 + yearOfEra + 1) + ((0 + (dayOfYear - 306 + 1) : ℕ) : ℤ) - 1 = day
        omega
    · have hlate : dayOfYear - 337 + 1 ≤ monthLength (era * 400 + yearOfEra + 1) 2 := by
        rw [monthLength, if_pos rfl]
        cases hleap : isLeap (era * 400 + yearOfEra + 1) <;>
          simp only [hleap, Bool.false_eq_true, if_false, if_true] at hdayLt ⊢ <;> omega
      refine ⟨⟨by simp, by simp, by simp, by simpa using hlate⟩, ?_⟩
      show dayFromYear (era * 400 + yearOfEra + 1) + ((31 + (dayOfYear - 337 + 1) : ℕ) : ℤ) - 1 = day
      omega

/-- So the getters find the date that the number of a day was computed from. -/
theorem civilDate_makeDay {year : ℤ} {month day : ℕ} (h : IsDate year month day) :
    civilDate (makeDay year month day) = (year, month, day) := by
  obtain ⟨hdate, hnumber⟩ := civilDate_spec (makeDay year month day)
  obtain ⟨hyear, hmonth, hday⟩ := makeDay_injective hdate h hnumber
  exact Prod.ext hyear (Prod.ext hmonth hday)

end Jkannel.Platform.Grid
