import Mathlib.Data.List.Basic

/-!
# Counting events in a sliding window

A cap on how many events fall into any window of a given length is kept by an account of what is
still to come: the events of the window that ends now, and those that are owed, are together within
the cap.

* `count` is the number of events in the window that ends at a time.
* `Reserved` is the account.  Time passes (`Reserved.tick`), an event is promised while there is
  room (`Reserved.reserve`), takes place (`Reserved.event`), or is given up (`Reserved.release`).
* `Reserved.count_le` is what it is for: no window holds more than the cap.
-/

namespace Window

variable {length : Int} {cap owed : Nat} {events : List Int} {now : Int}

/-- The events in the window that ends at `t`. -/
def count (length : Int) (events : List Int) (t : Int) : Nat :=
  events.countP fun e => t - length < e ∧ e ≤ t

/-- The events so far, and those owed, within the cap. -/
structure Reserved (length : Int) (cap : Nat) (events : List Int) (now : Int) (owed : Nat) :
    Prop where
  past : ∀ e ∈ events, e ≤ now
  before : ∀ t, t < now → count length events t ≤ cap
  room : count length events now + owed ≤ cap

theorem reserved_nil (length : Int) (cap : Nat) (now : Int) : Reserved length cap [] now 0 where
  past := by simp
  before _ _ := by simp [count]
  room := by simp [count]

/-- Among events that are past, the window that ends now is open towards the future. -/
theorem count_now (hpast : ∀ e ∈ events, e ≤ now) :
    count length events now = events.countP fun e => now - length < e := by
  refine List.countP_congr fun e he => ?_
  simp only [decide_eq_true_eq, and_iff_left_iff_imp]
  exact fun _ => hpast e he

/-- A later window holds fewer of them. -/
theorem count_later (length : Int) (hpast : ∀ e ∈ events, e ≤ now) {t : Int} (ht : now ≤ t) :
    count length events t ≤ count length events now := by
  refine List.countP_mono_left fun e he h => ?_
  simp only [decide_eq_true_eq] at h ⊢
  exact ⟨by omega, hpast e he⟩

section

variable (h : Reserved length cap events now owed)
include h

/-- **No window holds more than the cap.** -/
theorem Reserved.count_le (t : Int) :
    count length events t ≤ cap := by
  by_cases ht : t < now
  · exact h.before t ht
  · have := count_later length h.past (Int.not_lt.mp ht)
    have := h.room
    omega

theorem Reserved.tick (d : Nat) :
    Reserved length cap events (now + d) owed where
  past e he := by
    have := h.past e he
    omega
  before t _ := h.count_le t
  room := by
    have := count_later length h.past (t := now + d) (by omega)
    have := h.room
    omega

theorem Reserved.reserve (hroom : count length events now + owed < cap) :
    Reserved length cap events now (owed + 1) where
  __ := h
  room := by omega

theorem Reserved.release {owed' : Nat}
    (hle : owed' ≤ owed) : Reserved length cap events now owed' where
  __ := h
  room := by
    have := h.room
    omega

end

/-- What was owed takes place. -/
theorem Reserved.event (h : Reserved length cap events now (owed + 1)) :
    Reserved length cap (events ++ [now]) now owed where
  past e he := by
    rcases List.mem_append.mp he with he | he
    · exact h.past e he
    · obtain rfl := List.mem_singleton.mp he
      exact Int.le_refl _
  before t ht := by
    have hnew : [now].countP (fun e => decide (t - length < e ∧ e ≤ t)) = 0 := by
      simp only [List.countP_singleton, decide_eq_true_eq]
      exact if_neg fun hin => absurd hin.2 (Int.not_le.mpr ht)
    rw [count, List.countP_append, hnew]
    exact h.before t ht
  room := by
    have hnew : [now].countP (fun e => decide (now - length < e ∧ e ≤ now)) ≤ 1 :=
      List.countP_le_length
    have := h.room
    rw [count] at this ⊢
    rw [List.countP_append]
    omega

end Window

