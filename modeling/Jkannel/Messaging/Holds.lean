import Jkannel.Messaging.Scheduling
import Jkannel.Text

/-!
# Held messages

A message or campaign to be sent later is a *hold*, a row of `scheduled_messages`.  This file has
the row and the statements that write it, each an UPDATE, as a function of the row it is aimed at
which is `none` when the WHERE does not match.

* `ScheduledMessageRow` carries the table's CHECK that a released row says what it released.
* `claimHold` takes a hold for release and counts the attempt.  The count is the release's *fence*:
  `markReleased`, `markBulkReleased`, `expireHold` and `recordReleaseFailure` look for it.
* `sweepStalled` gives up on a hold abandoned mid-release; `cancelHold` and `rescheduleHold` are the
  operator's, and only for a hold no release has claimed.
* Each has a lemma saying all it can do (`claimHold_spec` and so on).
-/

namespace Jkannel.Messaging

inductive HoldStatus where
  | pending | releasing | released | cancelled | failed | expired
  deriving DecidableEq

/-- A hold whose message may still be sent. -/
def HoldStatus.open_ : HoldStatus → Bool
  | .pending | .releasing => true
  | _ => false

/-- What is held; a campaign is named, by the table's CHECK. -/
inductive HoldKind where
  | message
  | bulk (bulkJobId : Nat)
  deriving DecidableEq

/-- A row of `scheduled_messages`. -/
structure ScheduledMessageRow where
  id : Nat
  kind : HoldKind
  status : HoldStatus
  scheduledAt : Int
  validityMinutes : Option Int
  /-- The release job. -/
  jobId : Option Nat
  /-- How often the hold has been claimed for release. -/
  releaseAttempts : Nat
  claimedAt : Option Int
  claimedBy : Option String
  releasedAt : Option Int
  releasedLate : Bool
  latenessMs : Option Int
  /-- The engine row of the message. -/
  messageRef : Option String
  decisionId : Option Nat
  failureReason : Option String
  /-- The table's CHECK: a released row says what it released. -/
  evidence : status = .released →
    releasedAt.isSome = true ∧ (kind ≠ .message ∨ messageRef.isSome = true)
  deriving DecidableEq

/-- A new hold, before its release job is known. -/
def insertHold (id : Nat) (kind : HoldKind) (scheduledAt : Int) (validityMinutes : Option Int) :
    ScheduledMessageRow where
  id := id
  kind := kind
  status := .pending
  scheduledAt := scheduledAt
  validityMinutes := validityMinutes
  jobId := none
  releaseAttempts := 0
  claimedAt := none
  claimedBy := none
  releasedAt := none
  releasedLate := false
  latenessMs := none
  messageRef := none
  decisionId := none
  failureReason := none
  evidence := nofun

/-- `pending` or `releasing` to `releasing`, counting the attempt. -/
def claimHold (now : Int) (workerId : String) (row : ScheduledMessageRow) :
    Option ScheduledMessageRow :=
  if row.status.open_ then some { row with
    status := .releasing
    releaseAttempts := row.releaseAttempts + 1
    claimedAt := some now
    claimedBy := some workerId
    evidence := nofun }
  else none

/-- The hold is being released under this fence. -/
def ScheduledMessageRow.heldBy (row : ScheduledMessageRow) (fence : Nat) : Prop :=
  row.status = .releasing ∧ row.releaseAttempts = fence

instance (row : ScheduledMessageRow) (fence : Nat) : Decidable (row.heldBy fence) :=
  inferInstanceAs (Decidable (_ ∧ _))

/-- The message has been submitted: the write of the send's last statement. -/
def markReleased (now : Int) (late : Bool) (latenessMs : Int) (sqlId : String) (decisionId : Nat)
    (fence : Nat) (row : ScheduledMessageRow) : Option ScheduledMessageRow :=
  if row.heldBy fence then some { row with
    status := .released
    releasedAt := some now
    releasedLate := late
    latenessMs := some latenessMs
    messageRef := some sqlId
    decisionId := some decisionId
    failureReason := none
    evidence := fun _ => ⟨rfl, Or.inr rfl⟩ }
  else none

/-- The campaign has been handed to its runner; a hold of a message, which would have nothing to
show for it, is left alone. -/
def markBulkReleased (now : Int) (late : Bool) (latenessMs : Int) (fence : Nat)
    (row : ScheduledMessageRow) : Option ScheduledMessageRow :=
  if h : row.heldBy fence ∧ row.kind ≠ .message then some { row with
    status := .released
    releasedAt := some now
    releasedLate := late
    latenessMs := some latenessMs
    failureReason := none
    evidence := fun _ => ⟨rfl, Or.inl h.2⟩ }
  else none

/-- Too late to be sent. -/
def expireHold (reason : String) (latenessMs : Int) (fence : Nat) (row : ScheduledMessageRow) :
    Option ScheduledMessageRow :=
  if row.heldBy fence then some { row with
    status := .expired
    failureReason := some reason
    latenessMs := some latenessMs
    releasedLate := true
    evidence := nofun }
  else none

/-- A release did not happen: the hold has failed for good, or waits for another attempt. -/
def recordReleaseFailure (terminal : Bool) (reason : String) (fence : Nat)
    (row : ScheduledMessageRow) : Option ScheduledMessageRow :=
  if row.heldBy fence then some { row with
    status := if terminal then .failed else .pending
    failureReason := some reason
    evidence := by cases terminal <;> exact nofun }
  else none

/-- How long a claim may take, and how late a message may be. -/
structure ReleaseTuning where
  /-- `JOB_CLAIM_TIMEOUT_MS`. -/
  claimTimeoutMs : Int
  /-- The staleness ceiling. -/
  maxLatenessMs : Int

/-- Whether a hold has been mid-release for longer than a claim may take, and its message is too
late to be sent. -/
def stalled (tuning : ReleaseTuning) (now : Int) (row : ScheduledMessageRow) : Bool :=
  let claimTimeoutSeconds := max 60 ((tuning.claimTimeoutMs + 500) / 1000)
  let ceilingSeconds := (tuning.maxLatenessMs + 500) / 1000
  decide (row.status = .releasing) &&
    row.claimedAt.any (fun at_ => decide (at_ < now - claimTimeoutSeconds * 1000)) &&
    decide (row.scheduledAt < now - ceilingSeconds * 1000)

/-- Give up on an abandoned hold. -/
def sweepStalled (tuning : ReleaseTuning) (now : Int) (row : ScheduledMessageRow) :
    Option ScheduledMessageRow :=
  if stalled tuning now row then some { row with
    status := .failed
    failureReason := some ((match row.failureReason with
        | some reason => reason ++ " | "
        | none => "") ++
      "Release was interrupted by a worker failure and the staleness ceiling has " ++
      "since elapsed; the message was not sent.")
    evidence := nofun }
  else none

/-- Why an operator cancelled. -/
def cancelDetail (reason : Option String) : String :=
  (Text.truthy (reason.map Text.trim)).getD "Cancelled by operator before release"

/-- Cancel a hold no release has claimed. -/
def cancelHold (detail : String) (row : ScheduledMessageRow) : Option ScheduledMessageRow :=
  if row.status = .pending then some { row with
    status := .cancelled
    failureReason := some detail
    evidence := nofun }
  else none

/-- Move a hold no release has claimed. -/
def rescheduleHold (when_ : Int) (row : ScheduledMessageRow) : Option ScheduledMessageRow :=
  if row.status = .pending then some { row with scheduledAt := when_ } else none

/-! ## Refusals at release -/

/-- An error out of the send path. -/
inductive ReleaseError where
  /-- An HTTP exception with its status. -/
  | http (status : Nat) (message : String)
  /-- A `PermanentJobError`. -/
  | permanentJob (message : String)
  /-- Anything else, such as a lost connection. -/
  | other (message : String)
  deriving DecidableEq

def ReleaseError.message : ReleaseError → String
  | .http _ message | .permanentJob message | .other message => message

/-- A refusal that is a decision rather than a blip: a 4xx, but not a 408 or a 429. -/
def isPermanentReleaseRefusal : ReleaseError → Bool
  | .http status _ => 400 ≤ status && status < 500 && status != 429 && status != 408
  | _ => false

/-- What the job's context says of the attempt a release is. -/
structure ReleaseContext where
  workerId : String
  attempt : Nat
  maxAttempts : Nat

/-- Whether the error ends the job as well. -/
def permanentFailure (error : ReleaseError) : Bool :=
  isPermanentReleaseRefusal error || match error with
    | .permanentJob _ => true
    | _ => false

/-- Whether a failed release is the last. -/
def terminalFailure (context : ReleaseContext) (error : ReleaseError) : Bool :=
  permanentFailure error || decide (context.maxAttempts ≤ context.attempt)

/-- What is recorded of a failed release. -/
def failureReason (context : ReleaseContext) (error : ReleaseError) : String :=
  let message := Text.clip 2000 error.message
  if permanentFailure error then "Refused at release: " ++ message
  else if context.maxAttempts ≤ context.attempt then
    "Release failed after " ++ toString context.attempt ++
      " attempt(s) and was not retried further: " ++ message
  else "Release attempt " ++ toString context.attempt ++ " failed and will be retried: " ++ message

/-! ## What a statement can do to a hold -/

/-- What every statement respects: the hold stays the same hold of the same job, with no fewer
attempts counted, and it was open. -/
structure HoldWrite (row row' : ScheduledMessageRow) : Prop where
  id : row'.id = row.id
  kind : row'.kind = row.kind
  jobId : row'.jobId = row.jobId
  attempts : row.releaseAttempts ≤ row'.releaseAttempts
  live : row.status.open_ = true

section Specs

variable {row row' : ScheduledMessageRow}

variable {now latenessMs : Int} {fence : Nat}

theorem claimHold_spec {workerId : String} (h : claimHold now workerId row = some row') :
    HoldWrite row row' ∧ row'.status = .releasing ∧
      row'.releaseAttempts = row.releaseAttempts + 1 ∧ row'.claimedAt = some now := by
  rw [claimHold] at h
  split at h
  next hopen =>
    cases h
    exact ⟨⟨rfl, rfl, rfl, Nat.le_succ _, hopen⟩, rfl, rfl, rfl⟩
  · cases h

/-- What a write under a fence respects: the fence is the hold's, and stays so. -/
structure FencedWrite (fence : Nat) (row row' : ScheduledMessageRow) : Prop
    extends HoldWrite row row' where
  held : row.heldBy fence
  fence : row'.releaseAttempts = row.releaseAttempts

theorem FencedWrite.of_eq (hheld : row.heldBy fence) (hid : row'.id = row.id)
    (hkind : row'.kind = row.kind) (hjob : row'.jobId = row.jobId)
    (hfence : row'.releaseAttempts = row.releaseAttempts) : FencedWrite fence row row' where
  id := hid
  kind := hkind
  jobId := hjob
  attempts := Nat.le_of_eq hfence.symm
  live := by rw [hheld.1]; rfl
  held := hheld
  fence := hfence

theorem markReleased_spec {late : Bool} {sqlId : String} {decisionId : Nat}
    (h : markReleased now late latenessMs sqlId decisionId fence row = some row') :
    FencedWrite fence row row' ∧ row'.status = .released := by
  rw [markReleased] at h
  split at h
  next hheld =>
    cases h
    exact ⟨FencedWrite.of_eq hheld rfl rfl rfl rfl, rfl⟩
  · cases h

theorem markBulkReleased_spec {late : Bool}
    (h : markBulkReleased now late latenessMs fence row = some row') :
    FencedWrite fence row row' ∧ row'.status = .released := by
  rw [markBulkReleased] at h
  split at h
  next hheld =>
    cases h
    exact ⟨FencedWrite.of_eq hheld.1 rfl rfl rfl rfl, rfl⟩
  · cases h

theorem expireHold_spec {reason : String} (h : expireHold reason latenessMs fence row = some row') :
    FencedWrite fence row row' ∧ row'.status = .expired := by
  rw [expireHold] at h
  split at h
  next hheld =>
    cases h
    exact ⟨FencedWrite.of_eq hheld rfl rfl rfl rfl, rfl⟩
  · cases h

theorem recordReleaseFailure_spec {terminal : Bool} {reason : String}
    (h : recordReleaseFailure terminal reason fence row = some row') :
    FencedWrite fence row row' ∧ row'.status = if terminal then .failed else .pending := by
  rw [recordReleaseFailure] at h
  split at h
  next hheld =>
    cases h
    exact ⟨FencedWrite.of_eq hheld rfl rfl rfl rfl, rfl⟩
  · cases h

theorem sweepStalled_spec {tuning : ReleaseTuning} (h : sweepStalled tuning now row = some row') :
    HoldWrite row row' ∧ row.status = .releasing ∧ row'.status = .failed ∧
      row'.releaseAttempts = row.releaseAttempts := by
  rw [sweepStalled] at h
  split at h
  next hstalled =>
    have hreleasing : row.status = .releasing := by
      simp only [stalled, Bool.and_eq_true, decide_eq_true_eq] at hstalled
      exact hstalled.1.1
    cases h
    exact ⟨⟨rfl, rfl, rfl, Nat.le_refl _, by rw [hreleasing]; rfl⟩, hreleasing, rfl, rfl⟩
  · cases h

theorem cancelHold_spec {detail : String} (h : cancelHold detail row = some row') :
    HoldWrite row row' ∧ row.status = .pending ∧ row'.status = .cancelled ∧
      row'.releaseAttempts = row.releaseAttempts := by
  rw [cancelHold] at h
  split at h
  next hpending =>
    cases h
    exact ⟨⟨rfl, rfl, rfl, Nat.le_refl _, by rw [hpending]; rfl⟩, hpending, rfl, rfl⟩
  · cases h

theorem rescheduleHold_spec {when_ : Int} (h : rescheduleHold when_ row = some row') :
    HoldWrite row row' ∧ row.status = .pending ∧ row'.status = .pending ∧
      row'.releaseAttempts = row.releaseAttempts := by
  rw [rescheduleHold] at h
  split at h
  next hpending =>
    cases h
    exact ⟨⟨rfl, rfl, rfl, Nat.le_refl _, by rw [hpending]; rfl⟩, hpending, hpending, rfl⟩
  · cases h

end Specs

end Jkannel.Messaging
