import Mathlib.Data.Rat.Floor

/-!
# Schedules

"Send later" and "give up after": what a schedule is, which ones are accepted, and what becomes of a
message whose instant has been missed.  Instants are milliseconds; the parsing of an ISO 8601 text
into epoch seconds comes before and is not repeated here.

* `parseMessageSchedule` validates a schedule against the present.
* `requiresHold` says whether a message has to be held for it.  An instant that has just passed, or
  is about to come within the minute of grace, does not need a hold.
* `classifyMissedWindow` is the policy on a hold that is released late.
-/

namespace Jkannel.Messaging

/-- Upper bound on both offsets: 365 days in minutes. -/
def MAX_SCHEDULE_MINUTES : Int := 365 * 24 * 60

/-- Tolerance on "is this in the past". -/
def SCHEDULE_PAST_GRACE_MS : Int := 60000

/-- When a message is to leave. -/
structure MessageSchedule where
  /-- The instant asked for, or none for as soon as possible. -/
  scheduledAtMs : Option Int
  /-- The validity in minutes, or none for the carrier's default. -/
  validityMinutes : Option Int

/-- Why a schedule is refused, each a 400. -/
inductive ScheduleError where
  | validity (value : Int)
  | past (scheduledAtMs now : Int)
  | tooFar (deferred : Int)
  | expiresFirst (validityMinutes deferred scheduledAtMs : Int)

/-- The minutes to wait from `now`, rounded up so that nothing is early, and none at all for an
instant that has passed. -/
def deferredMinutesFor (scheduledAtMs now : Int) : Int :=
  max 0 ((scheduledAtMs - now + 59999) / 60000)

/-- A validity, if it is in range. -/
def parseValidityMinutes : Option Int → Except ScheduleError (Option Int)
  | none => .ok none
  | some value =>
    if value < 1 ∨ MAX_SCHEDULE_MINUTES < value then .error (.validity value)
    else .ok (some value)

/-- Validate a schedule at `now`; `epochSeconds` is the instant as `parseInstant` reads it. -/
def parseMessageSchedule (epochSeconds validity : Option Int) (now : Int) :
    Except ScheduleError MessageSchedule := do
  let validityMinutes ← parseValidityMinutes validity
  match epochSeconds with
  | none => return ⟨none, validityMinutes⟩
  | some seconds =>
    let scheduledAtMs := seconds * 1000
    if scheduledAtMs < now - SCHEDULE_PAST_GRACE_MS then throw (.past scheduledAtMs now)
    let deferred := deferredMinutesFor scheduledAtMs now
    if MAX_SCHEDULE_MINUTES < deferred then throw (.tooFar deferred)
    match validityMinutes with
    | some minutes =>
      if minutes ≤ deferred then throw (.expiresFirst minutes deferred scheduledAtMs)
    | none => pure ()
    return ⟨some scheduledAtMs, validityMinutes⟩

/-- Whether a schedule needs a hold, or can be sent straight away. -/
def requiresHold (schedule : MessageSchedule) (now : Int) : Bool :=
  schedule.scheduledAtMs.any fun at_ => decide (now + SCHEDULE_PAST_GRACE_MS < at_)

theorem requiresHold_iff {schedule : MessageSchedule} {now : Int} :
    requiresHold schedule now = true ↔
      ∃ t, schedule.scheduledAtMs = some t ∧ now + SCHEDULE_PAST_GRACE_MS < t := by
  simp only [requiresHold, Option.any_eq_true, decide_eq_true_eq]

/-! ## Release policy -/

/-- Lateness under which a release is still on time. -/
def SCHEDULED_SEND_ON_TIME_GRACE_MS : Int := 60000

/-- What becomes of a missed window. -/
structure MissedWindowVerdict where
  /-- Do not send. -/
  expire : Bool
  late : Bool
  latenessMs : Int
  ceilingMs : Int

/-- What becomes of a late release. -/
def classifyMissedWindow (scheduledAtMs now ceilingMs : Int) : MissedWindowVerdict :=
  let latenessMs := max 0 (now - scheduledAtMs)
  if ceilingMs < latenessMs ∧ SCHEDULED_SEND_ON_TIME_GRACE_MS < latenessMs then
    ⟨true, true, latenessMs, ceilingMs⟩
  else if SCHEDULED_SEND_ON_TIME_GRACE_MS < latenessMs then ⟨false, true, latenessMs, ceilingMs⟩
  else ⟨false, false, latenessMs, ceilingMs⟩

end Jkannel.Messaging
