import Jkannel.Messaging.HoldQueue
import Jkannel.Messaging.Send

/-!
# What a schedule puts on the engine's row

A future instant is held by the platform, so that the engine never sees it as a deferral.  Three
functions round it differently on its way: the parser keeps whole seconds, the hold allows a minute
of grace, and the engine's column counts minutes, rounded up, from the submission.

* `engineScheduleColumns` is the pair of columns of a submission at `now`.
* `Honoured` is the promise to whoever asked for a schedule.
* `schedule_honoured_iff` says for which instants it is kept.  An instant that is less than a minute
  ahead is not held, and yet its column is one minute until it has passed.
-/

namespace Jkannel.Messaging

open Option

/-- The engine-column pair for a submission.  Neither side is set when nothing was asked for. -/
structure EngineScheduleColumns where
  deferredMinutes : Option Int
  validityMinutes : Option Int

/-- Resolves a schedule into the `send_sms` column values, as of `now`. -/
def engineScheduleColumns (schedule : Option MessageSchedule) (now : Int) :
    EngineScheduleColumns where
  deferredMinutes := (schedule.bind MessageSchedule.scheduledAtMs).map (deferredMinutesFor · now)
  validityMinutes := schedule.bind MessageSchedule.validityMinutes

/-! ## Minutes -/

/-- The wait shrinks while the clock runs. -/
theorem deferredMinutesFor_anti (t : Int) {now later : Int} (h : now ≤ later) :
    deferredMinutesFor t later ≤ deferredMinutesFor t now := by
  rw [deferredMinutesFor, deferredMinutesFor]
  omega

theorem deferredMinutesFor_eq_zero_iff {t now : Int} : deferredMinutesFor t now = 0 ↔ t ≤ now := by
  rw [deferredMinutesFor]
  omega

/-! ## What the parser promises -/

variable {schedule : MessageSchedule}

/-- A validity that was accepted outlasts the wait, as it stood when the schedule was parsed. -/
theorem parseMessageSchedule_validity {epochSeconds validity : Option Int} {now : Int}
    (h : parseMessageSchedule epochSeconds validity now = .ok schedule)
    {t v : Int} (ht : schedule.scheduledAtMs = some t) (hv : schedule.validityMinutes = some v) :
    deferredMinutesFor t now < v := by
  cases hvalidity : parseValidityMinutes validity with
  | error e =>
    rw [parseMessageSchedule, hvalidity] at h
    cases h
  | ok validityMinutes =>
    cases epochSeconds with
    | none =>
      rw [parseMessageSchedule, hvalidity] at h
      cases h
      cases ht
    | some seconds =>
      simp only [parseMessageSchedule, hvalidity, bind, Except.bind, pure, Except.pure, throw,
        throwThe, MonadExceptOf.throw] at h
      repeat' split at h
      all_goals first
        | contradiction
        | skip
      next minutes hshort =>
        cases h
        cases ht
        cases hv
        exact not_le.mp hshort
      next =>
        cases h
        cases hv

/-! ## The release job -/

theorem insert_nextAttemptAt {id : Nat} {type : String} {maxAttempts : Nat} {runAt now : Int}
    {job : Platform.JobRow} (h : Platform.insert id type maxAttempts (some runAt) now = some job) :
    job.nextAttemptAt = runAt := by
  rw [Platform.insert] at h
  split at h
  · cases h
    rfl
  · cases h

namespace HoldQueue

/-- `s` has a job for the hold that no worker may claim before `t`. -/
def DueAt (s : State) (holdId jobId : Nat) (t : Int) : Prop :=
  ∃ job : Platform.JobRow, s.job jobId = some ⟨job, holdId⟩ ∧ t ≤ job.nextAttemptAt

variable {holdId jobId : Nat}

theorem enqueueRelease_due {s s' : State} {row : ScheduledMessageRow}
    (h : s.enqueueRelease holdId jobId row = some s') : DueAt s' holdId jobId row.scheduledAt := by
  rw [State.enqueueRelease] at h
  split at h
  next job hhold hjob hinsert =>
    cases h
    refine ⟨job, ?_, (insert_nextAttemptAt hinsert).ge⟩
    simp [State.setJob]
  · cases h

variable {s s' : State} {t : Int}

theorem submitMessage_due (ht : schedule.scheduledAtMs = some t)
    (hold : requiresHold schedule s.clock = true)
    (h : submitMessage s holdId jobId schedule = some s') : DueAt s' holdId jobId t := by
  simp only [submitMessage, ht, hold] at h
  exact enqueueRelease_due h

theorem submitBulk_due (ht : schedule.scheduledAtMs = some t)
    (hold : requiresHold schedule s.clock = true) {campaignId elapsed : Nat}
    (h : submitBulk s campaignId holdId jobId schedule elapsed = some s') :
    DueAt s' holdId jobId t := by
  rw [submitBulk] at h
  split at h
  · cases h
  simp only [ht, hold] at h
  exact enqueueRelease_due h

end HoldQueue

/-! ## The promise -/

/-- What is promised of a schedule that is submitted in `s`: the message is held and released no
earlier than asked, or it goes out and no later submission defers it; and it never expires
while it waits. -/
structure Honoured (schedule : MessageSchedule) (s : HoldQueue.State) : Prop where
  instant :
    (requiresHold schedule s.clock = true ∧ ∃ t, schedule.scheduledAtMs = some t ∧
      (∀ holdId jobId s', HoldQueue.submitMessage s holdId jobId schedule = some s' →
        HoldQueue.DueAt s' holdId jobId t) ∧
      ∀ campaignId holdId jobId elapsed s',
        HoldQueue.submitBulk s campaignId holdId jobId schedule elapsed = some s' →
          HoldQueue.DueAt s' holdId jobId t) ∨
    (requiresHold schedule s.clock = false ∧
      ∀ u, s.clock ≤ u → (engineScheduleColumns (some schedule) u).deferredMinutes = none ∨
        (engineScheduleColumns (some schedule) u).deferredMinutes = some 0)
  validity : ∀ u, s.clock ≤ u → ∀ d v,
    (engineScheduleColumns (some schedule) u).deferredMinutes = some d →
      (engineScheduleColumns (some schedule) u).validityMinutes = some v → d < v

/-- The instants of which the promise is kept: none at all, one that has passed, and one that is
more than the grace ahead. -/
def OutsideGrace (schedule : MessageSchedule) (now : Int) : Prop :=
  ∀ t, schedule.scheduledAtMs = some t → t ≤ now ∨ now + SCHEDULE_PAST_GRACE_MS < t

/-- A message that goes out at once is deferred by none of the later submissions exactly when its
instant has passed already. -/
theorem goes_out_iff {now : Int} :
    (∀ u, now ≤ u → (engineScheduleColumns (some schedule) u).deferredMinutes = none ∨
        (engineScheduleColumns (some schedule) u).deferredMinutes = some 0) ↔
      ∀ t, schedule.scheduledAtMs = some t → t ≤ now := by
  constructor
  · intro h t ht
    have hcolumn : (engineScheduleColumns (some schedule) now).deferredMinutes =
        some (deferredMinutesFor t now) := by
      simp [engineScheduleColumns, ht]
    have hzero : deferredMinutesFor t now = 0 := by
      rcases h now le_rfl with hnone | hsome
      · rw [hcolumn] at hnone
        cases hnone
      · exact some.inj (hcolumn.symm.trans hsome)
    exact deferredMinutesFor_eq_zero_iff.mp hzero
  · intro h u hu
    cases ht : schedule.scheduledAtMs with
    | none => exact .inl (by simp [engineScheduleColumns, ht])
    | some t =>
      have hzero := deferredMinutesFor_eq_zero_iff.mpr ((h t ht).trans hu)
      exact .inr (by simp [engineScheduleColumns, ht, hzero])

/-- **A schedule is honoured unless it lies within the minute ahead.**  Between the clock and the
grace a message is neither held nor without a deferral.  The validity outlasts the wait in any
case. -/
theorem schedule_honoured_iff {epochSeconds validity : Option Int} {now : Int}
    {schedule : MessageSchedule}
    (hparse : parseMessageSchedule epochSeconds validity now = .ok schedule)
    {s : HoldQueue.State} (hnow : now ≤ s.clock) :
    Honoured schedule s ↔ OutsideGrace schedule s.clock := by
  constructor
  · rintro ⟨⟨hold, -⟩ | ⟨-, hout⟩, -⟩ t ht
    · obtain ⟨t', ht', hlater⟩ := requiresHold_iff.mp hold
      obtain rfl := some.inj (ht.symm.trans ht')
      exact .inr hlater
    · exact .inl (goes_out_iff.mp hout t ht)
  · intro h
    refine ⟨?_, ?_⟩
    · cases hold : requiresHold schedule s.clock with
      | true =>
        obtain ⟨t, ht, -⟩ := requiresHold_iff.mp hold
        exact .inl ⟨rfl, t, ht, fun _ _ _ hs => HoldQueue.submitMessage_due ht hold hs,
          fun _ _ _ _ _ hs => HoldQueue.submitBulk_due ht hold hs⟩
      | false =>
        refine .inr ⟨rfl, goes_out_iff.mpr fun t ht => ?_⟩
        refine (h t ht).resolve_right fun hlater => ?_
        rw [requiresHold_iff.mpr ⟨t, ht, hlater⟩] at hold
        cases hold
    · intro u hu d v hd hv
      cases ht : schedule.scheduledAtMs with
      | none =>
        simp only [engineScheduleColumns, bind_some, ht, map_none] at hd
        cases hd
      | some t =>
        simp only [engineScheduleColumns, bind_some, ht, map_some] at hd hv
        obtain rfl := some.inj hd
        calc deferredMinutesFor t u ≤ deferredMinutesFor t now :=
              deferredMinutesFor_anti t (hnow.trans hu)
          _ < v := parseMessageSchedule_validity hparse ht hv

/-- Thirty seconds ahead, with a validity of a minute more than the wait. -/
def halfAMinute : MessageSchedule := ⟨some 30000, some 2⟩

theorem schedule_honoured_iff_halfAMinute :
    Honoured halfAMinute (HoldQueue.init 0) ↔ OutsideGrace halfAMinute 0 :=
  @schedule_honoured_iff (some 30) (some 2) 0 halfAMinute rfl (HoldQueue.init 0) le_rfl

/-- A message that is wanted in half a minute goes to the engine at once, deferred by a minute. -/
theorem half_a_minute_is_deferred :
    parseMessageSchedule (some 30) (some 2) 0 = .ok halfAMinute ∧
      requiresHold halfAMinute 0 = false ∧
      engineScheduleColumns (some halfAMinute) 0 = ⟨some 1, some 2⟩ ∧
      ¬ Honoured halfAMinute (HoldQueue.init 0) := by
  refine ⟨rfl, rfl, rfl, fun h => ?_⟩
  have hzero : (some 1 : Option Int) = none ∨ (some 1 : Option Int) = some 0 := by
    rcases h.instant with ⟨hold, -⟩ | ⟨-, hout⟩
    · cases hold
    · exact hout 0 le_rfl
  cases hzero with
  | inl h | inr h => cases h

end Jkannel.Messaging
