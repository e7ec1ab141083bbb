import Jkannel.Text
import Mathlib.Algebra.Group.Int.Defs

/-!
# The job table

`api_jobs` is a durable queue: a job is claimed, run, and then completed or failed, a failure
putting it back with a backoff until its attempts are spent.  Each of these is one UPDATE, and this
file has each of them as a function of the row it is aimed at, which is `none` when the statement's
WHERE does not match, as the source's `rows[0]` is then undefined.

Instants are milliseconds; `now` is the instant of the transaction.

* `JobRow` carries the table's CHECK on the attempt counters, so a row that breaks it is not a row.
* `claimOn`, `reportProgress`, `completeJob`, `failAttempt` and `reapStuck` are the worker's side,
  `insert`, `cancelOn` and `rescheduleOn` the caller's.
* Each has a lemma saying all it can do to a row (`claimOn_spec` and so on); `Statement` is what they
  have in common, and `Statement.not_terminal` that none of them matches a row that has ended.
-/

namespace Jkannel.Platform

/-- The statuses the table's CHECK admits; `failed` is reserved and nothing writes it. -/
inductive JobStatus where
  | queued | running | succeeded | failed | cancelled | deadLetter
  deriving DecidableEq

/-- The statuses a job ends in. -/
def JobStatus.terminal : JobStatus → Bool
  | .succeeded | .deadLetter | .cancelled => true
  | _ => false

/-- The bounds the table's CHECK puts on the attempt counters. -/
def AttemptsCheck (attempts maxAttempts : Nat) : Prop :=
  1 ≤ maxAttempts ∧ maxAttempts ≤ 50 ∧ attempts ≤ maxAttempts + 1

instance (attempts maxAttempts : Nat) : Decidable (AttemptsCheck attempts maxAttempts) :=
  inferInstanceAs (Decidable (_ ∧ _ ∧ _))

/-- A row of `api_jobs`. -/
structure JobRow where
  id : Nat
  type : String
  status : JobStatus
  progress : Int
  result : Option String
  /-- The terminal failure. -/
  error : Option String
  /-- The most recent failure. -/
  lastError : Option String
  /-- How often the job has been claimed. -/
  attempts : Nat
  maxAttempts : Nat
  /-- When the job may next be claimed. -/
  nextAttemptAt : Int
  claimedAt : Option Int
  claimedBy : Option String
  /-- The liveness of a running job. -/
  heartbeatAt : Option Int
  deadLetteredAt : Option Int
  startedAt : Option Int
  completedAt : Option Int
  /-- The table's CHECK. -/
  check : AttemptsCheck attempts maxAttempts

/-- A new job, due at `runAt`, which is now unless the caller says otherwise. -/
def insert (id : Nat) (type : String) (maxAttempts : Nat) (runAt : Option Int) (now : Int) :
    Option JobRow :=
  if h : AttemptsCheck 0 maxAttempts then some {
    id := id
    type := type
    status := .queued
    progress := 0
    result := none
    error := none
    lastError := none
    attempts := 0
    maxAttempts := maxAttempts
    nextAttemptAt := runAt.getD now
    claimedAt := none
    claimedBy := none
    heartbeatAt := none
    deadLetteredAt := none
    startedAt := none
    completedAt := none
    check := h }
  else none

/-- Cancel a job that has not ended. -/
def cancelOn (now : Int) (reason : Option String) (row : JobRow) : Option JobRow :=
  if row.status = .queued ∨ row.status = .running then some { row with
    status := .cancelled
    progress := 100
    error := some (reason.getD "Cancelled by operator")
    lastError := some (reason.getD "Cancelled by operator")
    completedAt := some now
    claimedBy := none
    heartbeatAt := none }
  else none

/-- Move the due instant of a job no worker has claimed yet. -/
def rescheduleOn (runAt : Int) (row : JobRow) : Option JobRow :=
  if row.status = .queued then some { row with nextAttemptAt := runAt } else none

/-- Claim a due job.  The attempt is counted by the claim, so a worker that dies cannot replay it
for free; a claim the CHECK refuses leaves the row as it is. -/
def claimOn (now : Int) (workerId : String) (row : JobRow) : Option JobRow :=
  if row.status = .queued ∧ row.nextAttemptAt ≤ now then
    if h : AttemptsCheck (row.attempts + 1) row.maxAttempts then some { row with
      status := .running
      attempts := row.attempts + 1
      claimedAt := some now
      claimedBy := some workerId
      heartbeatAt := some now
      startedAt := some (row.startedAt.getD now)
      check := h }
    else none
  else none

/-- Record progress on a running job. -/
def reportProgress (now : Int) (percent : Int) (row : JobRow) : Option JobRow :=
  if row.status = .running then some { row with
    progress := max 0 (min 100 percent)
    heartbeatAt := some now }
  else none

/-- Mark a running job succeeded. -/
def completeJob (now : Int) (result : String) (row : JobRow) : Option JobRow :=
  if row.status = .running then some { row with
    status := .succeeded
    progress := 100
    result := some result
    error := none
    completedAt := some now
    claimedBy := none
    heartbeatAt := none }
  else none

/-- The retry backoff: `base` doubled with every attempt, up to `max`.  A setting that is not a
positive number falls back to the default. -/
def backoffMs (base max : Int) (attempt : Nat) : Int :=
  let safeBase := if 0 < base then base else 5000
  let safeMax := if 0 < max then max else 300000
  min (safeBase * 2 ^ min (attempt - 1) 20) safeMax

/-- The environment's `JOB_RETRY_BASE_MS` and `JOB_RETRY_MAX_MS`. -/
structure RetryTuning where
  base : Int
  max : Int

/-- Whether a failed attempt was the last one, by the worker's own copy of the row. -/
def exhausted (job : JobRow) (permanent : Bool) : Bool :=
  permanent || decide (job.maxAttempts ≤ job.attempts)

/-- Record a failed attempt.  `job` is the row as the worker claimed it, and what decides between
another attempt and the dead letter; `row` is what the table holds now. -/
def failAttempt (tuning : RetryTuning) (now : Int) (job : JobRow) (message : String)
    (permanent : Bool) (row : JobRow) : Option JobRow :=
  if row.status = .running then
    if exhausted job permanent then some { row with
      status := .deadLetter
      error := some (Text.clip 4000 message)
      lastError := some (Text.clip 4000 message)
      deadLetteredAt := some now
      completedAt := some now
      claimedBy := none
      heartbeatAt := none }
    else some { row with
      status := .queued
      lastError := some (Text.clip 4000 message)
      nextAttemptAt := now + backoffMs tuning.base tuning.max job.attempts
      claimedAt := none
      claimedBy := none
      heartbeatAt := none }
  else none

/-- Whether a running job's heartbeat is older than the timeout, which is at least a second. -/
def stale (staleAfterMs : Int) (now : Int) (row : JobRow) : Bool :=
  row.status = .running &&
    row.heartbeatAt.any fun beat => decide (beat < now - max 1 ((staleAfterMs + 500) / 1000) * 1000)

/-- Recover a job whose worker died: dead-letter it when no attempt is left, requeue it
otherwise. -/
def reapStuck (staleAfterMs : Int) (now : Int) (row : JobRow) : Option JobRow :=
  if stale staleAfterMs now row then
    if row.maxAttempts ≤ row.attempts then some { row with
      status := .deadLetter
      error := some (row.lastError.getD "" ++
        " Worker claim expired with no attempts remaining.")
      lastError := some "Worker claim expired with no attempts remaining."
      deadLetteredAt := some now
      completedAt := some now
      claimedBy := none
      heartbeatAt := none }
    else some { row with
      status := .queued
      lastError := some "Worker claim expired; job requeued for another worker."
      nextAttemptAt := now
      claimedAt := none
      claimedBy := none
      heartbeatAt := none }
  else none

/-! ## What a statement can do to a row -/

/-- What every statement but `insert` respects: the row stays the same job, with the attempts it is
allowed and no fewer spent, and a row that was queued or running is what the statement found. -/
structure Statement (row row' : JobRow) : Prop where
  id : row'.id = row.id
  type : row'.type = row.type
  maxAttempts : row'.maxAttempts = row.maxAttempts
  attempts : row.attempts ≤ row'.attempts
  live : row.status = .queued ∨ row.status = .running

variable {now : Int} {row row' : JobRow}

theorem cancelOn_spec {reason : Option String} (h : cancelOn now reason row = some row') :
    Statement row row' ∧ row'.attempts = row.attempts ∧ row'.status = .cancelled := by
  unfold cancelOn at h
  split at h
  · rename_i hlive
    cases h
    exact ⟨⟨rfl, rfl, rfl, Nat.le_refl _, hlive⟩, rfl, rfl⟩
  · cases h

theorem rescheduleOn_spec {runAt : Int} (h : rescheduleOn runAt row = some row') :
    Statement row row' ∧ row'.attempts = row.attempts ∧ row.status = .queued ∧
      row'.status = .queued := by
  unfold rescheduleOn at h
  split at h
  · rename_i hq
    cases h
    exact ⟨⟨rfl, rfl, rfl, Nat.le_refl _, .inl hq⟩, rfl, hq, hq⟩
  · cases h

theorem claimOn_spec {workerId : String} (h : claimOn now workerId row = some row') :
    Statement row row' ∧ row'.attempts = row.attempts + 1 ∧ row.status = .queued ∧
      row'.status = .running := by
  unfold claimOn at h
  split at h
  · rename_i hq
    split at h
    · cases h
      exact ⟨⟨rfl, rfl, rfl, Nat.le_succ _, .inl hq.1⟩, rfl, hq.1, rfl⟩
    · cases h
  · cases h

theorem reportProgress_spec {percent : Int} (h : reportProgress now percent row = some row') :
    Statement row row' ∧ row'.attempts = row.attempts ∧ row.status = .running ∧
      row'.status = .running := by
  unfold reportProgress at h
  split at h
  · rename_i hr
    cases h
    exact ⟨⟨rfl, rfl, rfl, Nat.le_refl _, .inr hr⟩, rfl, hr, hr⟩
  · cases h

theorem completeJob_spec {result : String} (h : completeJob now result row = some row') :
    Statement row row' ∧ row'.attempts = row.attempts ∧ row.status = .running ∧
      row'.status = .succeeded := by
  unfold completeJob at h
  split at h
  · rename_i hr
    cases h
    exact ⟨⟨rfl, rfl, rfl, Nat.le_refl _, .inr hr⟩, rfl, hr, rfl⟩
  · cases h

theorem failAttempt_spec {tuning : RetryTuning} {job : JobRow} {message : String} {permanent : Bool}
    (h : failAttempt tuning now job message permanent row = some row') :
    Statement row row' ∧ row'.attempts = row.attempts ∧ row.status = .running ∧
      (row'.status = .deadLetter ∨
        (row'.status = .queued ∧ job.attempts < job.maxAttempts)) := by
  unfold failAttempt at h
  split at h
  · rename_i hr
    split at h
    · cases h
      exact ⟨⟨rfl, rfl, rfl, Nat.le_refl _, .inr hr⟩, rfl, hr, .inl rfl⟩
    · rename_i hmore
      cases h
      have hlt : job.attempts < job.maxAttempts := by
        simp only [exhausted, Bool.or_eq_true, decide_eq_true_eq, not_or] at hmore
        omega
      exact ⟨⟨rfl, rfl, rfl, Nat.le_refl _, .inr hr⟩, rfl, hr, .inr ⟨rfl, hlt⟩⟩
  · cases h

theorem reapStuck_spec {staleAfterMs : Int} (h : reapStuck staleAfterMs now row = some row') :
    Statement row row' ∧ row'.attempts = row.attempts ∧ row.status = .running ∧
      (row'.status = .deadLetter ∨
        (row'.status = .queued ∧ row.attempts < row.maxAttempts)) := by
  unfold reapStuck at h
  split at h
  · rename_i hstale
    have hr : row.status = .running := by
      simp only [stale, Bool.and_eq_true, decide_eq_true_eq] at hstale
      exact hstale.1
    split at h
    · cases h
      exact ⟨⟨rfl, rfl, rfl, Nat.le_refl _, .inr hr⟩, rfl, hr, .inl rfl⟩
    · rename_i hmore
      cases h
      exact ⟨⟨rfl, rfl, rfl, Nat.le_refl _, .inr hr⟩, rfl, hr, .inr ⟨rfl, Nat.lt_of_not_le hmore⟩⟩
  · cases h

/-- No statement aimed at a terminal row matches it. -/
theorem Statement.not_terminal (h : Statement row row') : row.status.terminal = false := by
  rcases h.live with hs | hs <;> rw [hs] <;> rfl

end Jkannel.Platform
