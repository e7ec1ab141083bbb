import Jkannel.Routing.Selection

/-!
# What a time window means

A window is written as a start, an end and some weekdays.  What that stands for are its occurrences
on the local clock: one for each allowed weekday, from the start on that day to the first end after
it, which is on the next day when the end is not after the start.

* `Occurs` is that, on a line of milliseconds of the local clock whose zero is a Sunday midnight.
* `isWithinWindow` looks at the time of the day and at today's weekday only.
* `Faithful` is where the two agree.  They part in the half of a window that lies behind midnight,
  which belongs to yesterday's occurrence, and on a window whose end is its start, which the code
  takes to be empty.
-/

namespace Jkannel.Routing

/-! ## The local clock -/

/-- The wall clock at an instant. -/
def localTime (t : ℤ) : LocalTime where
  day := (t / 86400000 % 7).toNat
  hours := (t % 86400000 / 3600000).toNat
  minutes := (t % 3600000 / 60000).toNat

/-- The weekday of a day, counted from a Sunday. -/
def weekday (n : ℤ) : Nat := (n % 7).toNat

/-- The weekdays of a window; none means all. -/
def Allowed (days : List Nat) (day : Nat) : Prop := days = [] ∨ day ∈ days

instance (days : List Nat) (day : Nat) : Decidable (Allowed days day) :=
  inferInstanceAs (Decidable (_ ∨ _))

/-- When the occurrence of a day begins, the start being in minutes. -/
def begins (start : Nat) (n : ℤ) : ℤ := n * 86400000 + start * 60000

/-- The occurrence that begins at `b` ends at `e`, which is the first end time after it. -/
def EndsAt (stop : Nat) (b e : ℤ) : Prop :=
  IsLeast {e | b < e ∧ e % 86400000 = stop * 60000} e

/-- The instant lies in an occurrence of the window. -/
def Occurs (days : List Nat) (start stop : Nat) (t : ℤ) : Prop :=
  ∃ n, Allowed days (weekday n) ∧ ∃ e, EndsAt stop (begins start n) e ∧ begins start n ≤ t ∧ t < e

/-! ## Times of the day -/

theorem minutesOfDay_lt {time : String} {m : Nat} (h : minutesOfDay time = some m) : m < 1440 := by
  rw [minutesOfDay] at h
  split at h
  · split at h
    · split at h
      · split at h
        · cases h
        · have := Option.some.inj h
          omega
      · cases h
    · cases h
  · cases h

theorem minutesOfDay_empty : minutesOfDay "" = none := by decide +kernel

theorem ne_empty_of_minutesOfDay {time : String} {m : Nat} (h : minutesOfDay time = some m) :
    time ≠ "" := by
  rintro rfl
  rw [minutesOfDay_empty] at h
  cases h

theorem current_eq (t : ℤ) : ((localTime t).hours * 60 + (localTime t).minutes : ℕ) =
    t % 86400000 / 60000 := by
  simp only [localTime]
  omega

variable {start stop : Nat}

/-- Where an occurrence ends: on the day it begins on, or on the next when the end is not after the
start. -/
theorem endsAt_iff (hstart : start < 1440) (hstop : stop < 1440) {n e : ℤ} :
    EndsAt stop (begins start n) e ↔
      e = (if start < stop then n else n + 1) * 86400000 + stop * 60000 := by
  have hleast : EndsAt stop (begins start n)
      ((if start < stop then n else n + 1) * 86400000 + stop * 60000) := by
    refine ⟨⟨?_, ?_⟩, ?_⟩
    · rw [begins]
      split <;> omega
    · split <;> omega
    · rintro e ⟨hlt, hmod⟩
      rw [begins] at hlt
      split <;> omega
  exact ⟨fun h => h.unique hleast, fun h => h ▸ hleast⟩

/-- An instant lies in the occurrence of its own day, or in the one that began the day before. -/
theorem occurs_iff {days : List Nat} (hstart : start < 1440) (hstop : stop < 1440) (t : ℤ) :
    Occurs days start stop t ↔
      (Allowed days (weekday (t / 86400000)) ∧ start * 60000 ≤ t % 86400000 ∧
        (start < stop → t % 86400000 < stop * 60000)) ∨
      (stop ≤ start ∧ Allowed days (weekday (t / 86400000 - 1)) ∧
        t % 86400000 < stop * 60000) := by
  constructor
  · rintro ⟨n, hallowed, e, hend, hbegun, hnot⟩
    obtain rfl := (endsAt_iff hstart hstop).mp hend
    rw [begins] at hbegun
    by_cases hsame : n = t / 86400000
    · subst hsame
      refine .inl ⟨hallowed, by omega, fun hlt => ?_⟩
      rw [if_pos hlt] at hnot
      omega
    · have hwraps : ¬ start < stop := by
        intro hlt
        rw [if_pos hlt] at hnot
        omega
      rw [if_neg hwraps] at hnot
      obtain rfl : n = t / 86400000 - 1 := by omega
      exact .inr ⟨by omega, hallowed, by omega⟩
  · rintro (⟨hallowed, hbegun, hnot⟩ | ⟨hwraps, hallowed, hnot⟩)
    · refine ⟨t / 86400000, hallowed, _, (endsAt_iff hstart hstop).mpr rfl, ?_, ?_⟩
      · rw [begins]
        omega
      · split
        · next hlt =>
          have := hnot hlt
          omega
        · omega
    · refine ⟨t / 86400000 - 1, hallowed, _, (endsAt_iff hstart hstop).mpr rfl, ?_, ?_⟩
      · rw [begins]
        omega
      · rw [if_neg (by omega)]
        omega

/-- What the code looks at: the time of the day and today's weekday. -/
theorem isWithinWindow_iff {w : TimeWindow} (hstart : minutesOfDay w.windowStart = some start)
    (hstop : minutesOfDay w.windowEnd = some stop) (t : ℤ) :
    isWithinWindow (some w) (localTime t) = true ↔
      Allowed w.days (weekday (t / 86400000)) ∧
        if start ≤ stop then start * 60000 ≤ t % 86400000 ∧ t % 86400000 < stop * 60000
        else start * 60000 ≤ t % 86400000 ∨ t % 86400000 < stop * 60000 := by
  have hcurrent := current_eq t
  have hbounded := minutesOfDay_lt hstart
  have hpresent : ¬ (w.windowStart = "" ∨ w.windowEnd = "") :=
    not_or.mpr ⟨ne_empty_of_minutesOfDay hstart, ne_empty_of_minutesOfDay hstop⟩
  simp only [isWithinWindow, if_neg hpresent, hstart, hstop]
  generalize (localTime t).hours * 60 + (localTime t).minutes = current at hcurrent ⊢
  rw [Allowed, weekday, show (localTime t).day = (t / 86400000 % 7).toNat from rfl]
  by_cases hday : w.days ≠ [] ∧ (t / 86400000 % 7).toNat ∉ w.days
  · rw [if_pos hday]
    exact iff_of_false Bool.false_ne_true fun h => h.1.elim hday.1 hday.2
  · have hallowed : w.days = [] ∨ (t / 86400000 % 7).toNat ∈ w.days := by
      rw [not_and_or, not_not, not_not] at hday
      exact hday
    rw [if_neg hday, and_iff_right hallowed]
    split
    · rw [decide_eq_true_eq]
      omega
    · rw [decide_eq_true_eq]
      omega

/-! ## Where the code means the occurrences -/

/-- The window and the instant are among those the code judges right: the window ends on the day it
begins on; or it ends at its start, and neither today's occurrence nor yesterday's covers the
instant; or it runs past midnight, and before its end today is allowed exactly when yesterday
was. -/
def Faithful (days : List Nat) (start stop : Nat) (t : ℤ) : Prop :=
  start < stop ∨
  (start = stop ∧
    (start * 60000 ≤ t % 86400000 → ¬ Allowed days (weekday (t / 86400000))) ∧
    (t % 86400000 < start * 60000 → ¬ Allowed days (weekday (t / 86400000 - 1)))) ∨
  (stop < start ∧ (t % 86400000 < stop * 60000 →
    (Allowed days (weekday (t / 86400000)) ↔ Allowed days (weekday (t / 86400000 - 1)))))

instance (days : List Nat) (start stop : Nat) (t : ℤ) : Decidable (Faithful days start stop t) :=
  inferInstanceAs (Decidable (_ ∨ _))

/-- **Exactly when a window means its occurrences.** -/
theorem window_means_occurrences (w : TimeWindow) {start stop : Nat}
    (hstart : minutesOfDay w.windowStart = some start)
    (hstop : minutesOfDay w.windowEnd = some stop) (t : ℤ) :
    (isWithinWindow (some w) (localTime t) = true ↔ Occurs w.days start stop t) ↔
      Faithful w.days start stop t := by
  rw [isWithinWindow_iff hstart hstop, occurs_iff (minutesOfDay_lt hstart) (minutesOfDay_lt hstop),
    Faithful]
  generalize Allowed w.days (weekday (t / 86400000)) = today
  generalize Allowed w.days (weekday (t / 86400000 - 1)) = yesterday
  generalize t % 86400000 = current
  rcases lt_trichotomy start stop with hlt | rfl | hgt
  · rw [if_pos hlt.le]
    refine iff_of_true ?_ (.inl hlt)
    constructor
    · rintro ⟨htoday, hbegun, hnot⟩
      exact .inl ⟨htoday, hbegun, fun _ => hnot⟩
    · rintro (⟨htoday, hbegun, hnot⟩ | ⟨hwraps, -⟩)
      · exact ⟨htoday, hbegun, hnot hlt⟩
      · exact absurd hwraps (not_le.mpr hlt)
  · -- the code's window is empty, so the two agree where no occurrence covers the instant
    rw [if_pos le_rfl]
    have hempty : ¬ (today ∧ (start : ℤ) * 60000 ≤ current ∧ current < start * 60000) :=
      fun h => absurd h.2.2 (not_lt.mpr h.2.1)
    have hnever : ¬ start < start := lt_irrefl start
    rw [iff_false_left hempty]
    constructor
    · intro h
      exact .inr (.inl ⟨rfl, fun hbegun htoday => h (.inl ⟨htoday, hbegun, fun hlt => absurd hlt hnever⟩),
        fun hnot hyesterday => h (.inr ⟨le_rfl, hyesterday, hnot⟩)⟩)
    · rintro (hlt | ⟨-, htoday, hyesterday⟩ | ⟨hlt, -⟩) (⟨h, hbegun, -⟩ | ⟨-, h, hnot⟩)
      all_goals first
        | exact absurd ‹start < start› hnever
        | exact htoday hbegun h
        | exact hyesterday hnot h
  · -- before the end the code asks about today, and the occurrence is yesterday's
    rw [if_neg (not_le.mpr hgt)]
    have hnever : ¬ start < stop := hgt.not_gt
    have hne : start ≠ stop := hgt.ne'
    by_cases hnot : current < (stop : ℤ) * 60000
    · have hbefore : ¬ (start : ℤ) * 60000 ≤ current := by omega
      simp [hnot, hbefore, hnever, hne, hgt, hgt.le]
    · simp [hnot, hnever, hne, hgt]

/-- A night shift of Mondays. -/
def nightShift : TimeWindow := ⟨"22:00", "06:00", [1]⟩

/-- At one on Tuesday morning Monday's night shift is on, and the code says that it is not. -/
theorem night_shift_ends_at_midnight :
    ¬ ∀ (w : TimeWindow) (start stop : Nat), minutesOfDay w.windowStart = some start →
      minutesOfDay w.windowEnd = some stop → ∀ t : ℤ,
        (isWithinWindow (some w) (localTime t) = true ↔ Occurs w.days start stop t) := by
  intro hall
  have h := hall nightShift 1320 360 (by decide +kernel) (by decide +kernel) 176400000
  have hout : isWithinWindow (some nightShift) (localTime 176400000) = false := by decide +kernel
  rw [hout, occurs_iff (by decide) (by decide)] at h
  exact Bool.false_ne_true (h.mpr (.inr (by decide)))

/-- An hour before, on Monday evening, the two agree. -/
theorem window_means_occurrences_monday :
    (isWithinWindow (some nightShift) (localTime 169200000) = true ↔
      Occurs nightShift.days 1320 360 169200000) ↔ Faithful nightShift.days 1320 360 169200000 :=
  window_means_occurrences nightShift (by decide +kernel) (by decide +kernel) 169200000

end Jkannel.Routing
