import Jkannel.Lib.Transition
import Jkannel.Messaging.Holds
import Jkannel.Platform.Jobs

/-!
# Holds, release jobs and campaigns

A message or campaign to be sent later is three things at once: a hold, the job that will release
it, and for a campaign a row of `bulk_send_jobs` that waits in `scheduled` until it does.  The state
machine here has any number of all three, the operations of the two services that write them, and
the workers of the job queue, which may die at any step.

* `submitMessage` and `submitBulk` write a hold and its job in one transaction.  Whether a campaign
  waits is decided by another clock reading and another bound than whether it gets a hold.
* A worker claims a job (`Worker`), calls `release`, which claims the hold, and ends the job; its send
  is a single step here, its insides being another file's business.
* `NothingForgotten` is what the machine is for, and `Kept` the condition on the steps it needs.
-/

namespace Jkannel.Messaging.HoldQueue

open Platform (JobRow RetryTuning)
open Transition (Ack)

/-- The release handler's job type. -/
def SCHEDULED_RELEASE_JOB_TYPE : String := "message.scheduled.release"

/-- Attempts a release job gets before it dead-letters. -/
def SCHEDULED_RELEASE_MAX_ATTEMPTS : Nat := 4

/-- A release job: the row of the queue, and the hold its input names. -/
structure ReleaseJob where
  row : JobRow
  scheduledMessageId : Nat

/-- The statuses of a campaign. -/
inductive CampaignStatus where
  | scheduled | queued | running | completed | partial_ | failed
  deriving DecidableEq

/-- A row of `bulk_send_jobs`. -/
structure Campaign where
  status : CampaignStatus
  scheduledAt : Option Int
  detail : Option String

/-- How far a worker has got with a claimed job. -/
inductive Phase where
  /-- The job is claimed, and `release` is to be called. -/
  | claimed
  /-- `release` has been called at an instant, and the hold is to be claimed. -/
  | called (now : Int)
  /-- The hold has been claimed, as this row. -/
  | releasing (now : Int) (row : ScheduledMessageRow)
  /-- The release has thrown, and the failure is to be recorded on the hold. -/
  | failing (row : ScheduledMessageRow) (error : ReleaseError)
  /-- The handler has returned, and the job is to be completed. -/
  | returned (result : String)
  /-- The handler has thrown, and the attempt is to be failed. -/
  | threw (message : String) (permanent : Bool)
  | ended

/-- The hold as a worker has claimed it. -/
def Phase.row : Phase → Option ScheduledMessageRow
  | .releasing _ row | .failing row _ => some row
  | _ => none

/-- A worker and the job it claimed. -/
structure Worker where
  /-- The row as the claim returned it. -/
  job : JobRow
  scheduledMessageId : Nat
  phase : Phase

/-- The context the worker hands to the handler. -/
def Worker.context (worker : Worker) : ReleaseContext where
  workerId := "job:" ++ toString worker.job.id
  attempt := worker.job.attempts
  maxAttempts := worker.job.maxAttempts

/-- The holds, their jobs and the workers. -/
structure State where
  hold : Nat → Option ScheduledMessageRow
  job : Nat → Option ReleaseJob
  campaign : Nat → Option Campaign
  worker : Nat → Option Worker
  clock : Int

def init (clock : Int) : State := ⟨fun _ => none, fun _ => none, fun _ => none, fun _ => none, clock⟩

/-- What the services are deployed with. -/
structure Config where
  release : ReleaseTuning
  retry : RetryTuning

/-! ## Writes -/

def State.setHold (s : State) (id : Nat) (row : ScheduledMessageRow) : State :=
  { s with hold := Function.update s.hold id (some row) }

def State.setJob (s : State) (id : Nat) (job : ReleaseJob) : State :=
  { s with job := Function.update s.job id (some job) }

def State.setCampaign (s : State) (id : Nat) (campaign : Campaign) : State :=
  { s with campaign := Function.update s.campaign id (some campaign) }

def State.setPhase (s : State) (w : Nat) (worker : Worker) (phase : Phase) : State :=
  { s with worker := Function.update s.worker w (some { worker with phase := phase }) }

/-- `UPDATE scheduled_messages … WHERE id = …`. -/
def State.updateHold (s : State) (id : Nat)
    (statement : ScheduledMessageRow → Option ScheduledMessageRow) : State :=
  match (s.hold id).bind statement with
  | some row' => s.setHold id row'
  | none => s

/-- `UPDATE api_jobs … WHERE id = …`. -/
def State.updateJob (s : State) (id : Nat) (statement : JobRow → Option JobRow) : State :=
  match s.job id with
  | some job =>
    match statement job.row with
    | some row' => s.setJob id { job with row := row' }
    | none => s
  | none => s

/-- `UPDATE bulk_send_jobs … WHERE id = … AND status = 'scheduled'`. -/
def State.updateScheduled (s : State) (id : Nat) (statement : Campaign → Campaign) : State :=
  match s.campaign id with
  | some campaign =>
    if campaign.status = .scheduled then s.setCampaign id (statement campaign) else s
  | none => s

/-- `enqueueRelease`: the release job of a hold, due at its instant, and the hold that names it. -/
def State.enqueueRelease (s : State) (holdId jobId : Nat) (row : ScheduledMessageRow) :
    Option State :=
  match s.hold holdId, s.job jobId, Platform.insert jobId SCHEDULED_RELEASE_JOB_TYPE
      SCHEDULED_RELEASE_MAX_ATTEMPTS (some row.scheduledAt) s.clock with
  | none, none, some job =>
    some ((s.setHold holdId { row with jobId := some jobId }).setJob jobId ⟨job, holdId⟩)
  | _, _, _ => none

/-! ## Actions -/

/-- One step of a request or a worker. -/
inductive Action where
  | tick (ms : Nat)
  /-- A message whose schedule was parsed at `parsedAt`. -/
  | submitMessage (holdId jobId : Nat) (epochSeconds : Option Int) (validity : Option Int)
    (parsedAt : Int)
  /-- A campaign whose schedule was parsed at `parsedAt`; `createJob` reads the clock `elapsed`
  milliseconds after `submitBulk` did. -/
  | submitBulk (campaignId holdId jobId : Nat) (epochSeconds : Option Int) (validity : Option Int)
    (parsedAt : Int) (elapsed : Nat)
  /-- The operator cancels a hold. -/
  | cancel (holdId : Nat) (reason : Option String)
  | reschedule (holdId : Nat) (epochSeconds : Int)
  /-- The operator cancels a job. -/
  | cancelJob (jobId : Nat) (reason : Option String)
  | claimJob (w jobId : Nat) (workerId : String)
  /-- A heartbeat or a progress report lands. -/
  | progress (w : Nat) (percent : Int)
  /-- The handler calls `release`. -/
  | call (w : Nat)
  /-- The handler throws before `release` has claimed the hold. -/
  | throwEarly (w : Nat) (message : String)
  /-- `sweepStalled`, at the head of some release. -/
  | sweep
  | claimHold (w : Nat) (ack : Ack)
  | expire (w : Nat) (reason : String) (ack : Ack)
  /-- The send of a held message: what it submitted, or what it threw. -/
  | send (w : Nat) (result : Except ReleaseError (Nat × Nat))
  /-- The release of a campaign, and what its runner then made of it. -/
  | releaseBulk (w : Nat) (ack : Ack) (processed : Except ReleaseError String)
  /-- `recordReleaseFailure`. -/
  | record (w : Nat) (ack : Ack)
  | complete (w : Nat) (ack : Ack)
  | fail (w : Nat) (ack : Ack)
  /-- The worker dies. -/
  | crash (w : Nat)
  | reap (staleAfterMs : Int)

/-- Why a release whose fence has moved throws. -/
def supersededError (what : String) (id : Nat) (rest : String) : ReleaseError :=
  .other ("Scheduled " ++ what ++ " " ++ toString id ++
    " was claimed by another release (or resolved) while this one was in flight; " ++ rest)

/-- What a release says of a hold there is nothing to release of. -/
def endedOutcome : HoldStatus → String
  | .cancelled => "cancelled"
  | .released => "already_released"
  | _ => "already_failed"

/-- What a claim of hold `id` leads to, by the hold it found and the row it claimed. -/
def claimOutcome (now : Int) (id : Nat) :
    Ack → Option ScheduledMessageRow → Option ScheduledMessageRow → Phase
  | .ok, _, some row => .releasing now row
  | .ok, some existing, none => .returned (endedOutcome existing.status)
  | .ok, none, none => .threw ("Scheduled message " ++ toString id ++
      " no longer exists, so there is nothing to release.") true
  -- thrown outside the `try`
  | .lost error, _, _ | .refused error, _, _ => .threw error false

/-- Where a worker goes from a transaction whose failure it does not catch. -/
def afterAck (p : Phase) : Ack → Phase
  | .ok => p
  | .lost error | .refused error => .threw error false

/-- What the release of a campaign leads to, by what its runner made of it. -/
def bulkOutcome (row : ScheduledMessageRow) : Ack → Except ReleaseError String → Phase
  | .lost error, _ | .refused error, _ => .failing row (.other error)
  | .ok, .error error => .failing row error
  | .ok, .ok _ => .returned "released"

/-- What an action of worker `w` does. -/
@[grind =] def workerStep (cfg : Config) (s : State) (w : Nat) (worker : Worker) : Action → Option State
  | .progress _ percent =>
    some (s.updateJob worker.job.id (Platform.reportProgress s.clock percent))
  | .call _ =>
    match worker.phase with
    | .claimed => some (s.setPhase w worker (.called s.clock))
    | _ => none
  | .throwEarly _ message =>
    match worker.phase with
    | .claimed | .called _ => some (s.setPhase w worker (.threw message false))
    | _ => none
  | .claimHold _ ack =>
    match worker.phase with
    | .called now =>
      let statement := claimHold s.clock worker.context.workerId
      let found := s.hold worker.scheduledMessageId
      let s' := if ack.committed then s.updateHold worker.scheduledMessageId statement else s
      some (s'.setPhase w worker
        (claimOutcome now worker.scheduledMessageId ack found (found.bind statement)))
    | _ => none
  | .expire _ reason ack =>
    match worker.phase with
    | .releasing now row =>
      let verdict := classifyMissedWindow row.scheduledAt now cfg.release.maxLatenessMs
      if verdict.expire then
        let s' := if ack.committed then s.updateHold worker.scheduledMessageId
            (expireHold reason verdict.latenessMs row.releaseAttempts) else s
        some (s'.setPhase w worker (afterAck (.returned "expired") ack))
      else none
    | _ => none
  | .send _ result =>
    match worker.phase with
    | .releasing now row =>
      let verdict := classifyMissedWindow row.scheduledAt now cfg.release.maxLatenessMs
      if verdict.expire ∨ row.kind ≠ .message then none
      else match result with
        | .error error => some (s.setPhase w worker (.failing row error))
        | .ok (sqlId, decisionId) =>
          match (s.hold worker.scheduledMessageId).bind (markReleased s.clock verdict.late
              verdict.latenessMs (toString sqlId) decisionId row.releaseAttempts) with
          | some row' => some ((s.setHold worker.scheduledMessageId row').setPhase w worker
              (.returned "released"))
          | none => some (s.setPhase w worker (.failing row (supersededError "message" row.id
              "the send was rolled back rather than delivered twice.")))
    | _ => none
  | .releaseBulk _ ack processed =>
    match worker.phase with
    | .releasing now row =>
      let verdict := classifyMissedWindow row.scheduledAt now cfg.release.maxLatenessMs
      match verdict.expire, row.kind with
      | false, .bulk campaignId =>
        match ack, (s.hold worker.scheduledMessageId).bind (markBulkReleased s.clock verdict.late
            verdict.latenessMs row.releaseAttempts) with
        | .refused error, _ => some (s.setPhase w worker (.failing row (.other error)))
        | _, none => some (s.setPhase w worker (.failing row (supersededError "campaign" row.id
            "the campaign was not started.")))
        | ack, some row' =>
          let s' := (s.updateScheduled campaignId fun c => { c with status := .queued }).setHold
            worker.scheduledMessageId row'
          some (s'.setPhase w worker (bulkOutcome row ack processed))
      | _, _ => none
    | _ => none
  | .record _ ack =>
    match worker.phase with
    | .failing row error =>
      let s' := if ack.committed then s.updateHold worker.scheduledMessageId
          (recordReleaseFailure (terminalFailure worker.context error)
            (failureReason worker.context error) row.releaseAttempts) else s
      some (s'.setPhase w worker (.threw error.message (permanentFailure error)))
    | _ => none
  | .complete _ ack =>
    match worker.phase with
    | .returned result =>
      let s' := if ack.committed then
        s.updateJob worker.job.id (Platform.completeJob s.clock result) else s
      some (s'.setPhase w worker (afterAck .ended ack))
    | _ => none
  | .fail _ ack =>
    match worker.phase with
    | .threw message permanent =>
      let s' := if ack.committed then s.updateJob worker.job.id
        (Platform.failAttempt cfg.retry s.clock worker.job message permanent) else s
      some (s'.setPhase w worker .ended)
    | _ => none
  | .crash _ => some (s.setPhase w worker .ended)
  | _ => none

/-- The worker an action is a step of. -/
def Action.worker : Action → Option Nat
  | .progress w _ | .call w | .throwEarly w _ | .claimHold w _ | .expire w _ _ | .send w _
  | .releaseBulk w _ _ | .record w _ | .complete w _ | .fail w _ | .crash w => some w
  | _ => none

/-- `submitMessage` for a schedule that needs a hold. -/
def submitMessage (s : State) (holdId jobId : Nat) (schedule : MessageSchedule) : Option State :=
  match schedule.scheduledAtMs, requiresHold schedule s.clock with
  | some when_, true =>
    s.enqueueRelease holdId jobId (insertHold holdId .message when_ schedule.validityMinutes)
  -- sent at once: nothing is held
  | _, _ => some s

/-- `createJob`: whether a campaign waits is a matter of the clock alone. -/
def createJob (schedule : MessageSchedule) (now : Int) : Campaign where
  status := if schedule.scheduledAtMs.any fun when_ => decide (now < when_) then .scheduled
    else .queued
  scheduledAt := schedule.scheduledAtMs
  detail := none

/-- `submitBulk`: the campaign, and its hold when the schedule needs one. -/
def submitBulk (s : State) (campaignId holdId jobId : Nat) (schedule : MessageSchedule)
    (elapsed : Nat) : Option State :=
  match s.campaign campaignId with
  | some _ => none
  | none =>
    let s' := s.setCampaign campaignId (createJob schedule (s.clock + elapsed))
    match schedule.scheduledAtMs, requiresHold schedule s.clock with
    | some when_, true => s'.enqueueRelease holdId jobId
        (insertHold holdId (.bulk campaignId) when_ schedule.validityMinutes)
    | _, _ => some s'

/-- `cancel`: the hold, its job and its campaign, in one transaction. -/
def cancel (s : State) (holdId : Nat) (reason : Option String) : Option State :=
  let detail := cancelDetail reason
  match s.hold holdId with
  | none => none
  | some row =>
    match cancelHold detail row with
    | none => none
    | some row' =>
      let s₁ := s.setHold holdId row'
      let s₂ := match row.jobId with
        | some jobId => s₁.updateJob jobId
            (Platform.cancelOn s.clock (some ("Scheduled message cancelled: " ++ detail)))
        | none => s₁
      some <| match row.kind with
        | .bulk campaignId => s₂.updateScheduled campaignId fun c =>
            { c with status := .failed, detail := some detail }
        | .message => s₂

/-- `reschedule`: refused when the job has been claimed. -/
def reschedule (s : State) (holdId : Nat) (epochSeconds : Int) : Option State :=
  match s.hold holdId with
  | none => none
  | some row =>
    match parseMessageSchedule (some epochSeconds) row.validityMinutes s.clock with
    | .error _ => none
    | .ok schedule =>
      match schedule.scheduledAtMs, requiresHold schedule s.clock, row.jobId with
      | some when_, true, some jobId =>
        match rescheduleHold when_ row, s.job jobId with
        | some row', some job =>
          match Platform.rescheduleOn when_ job.row with
          | some moved =>
            let s' := (s.setHold holdId row').setJob jobId { job with row := moved }
            some <| match row.kind with
              | .bulk campaignId => s'.updateScheduled campaignId fun c =>
                  { c with scheduledAt := some when_ }
              | .message => s'
          | none => none
        | _, _ => none
      | _, _, _ => none

/-- What a sweep leaves of a hold. -/
def swept (tuning : ReleaseTuning) (now : Int) (row : ScheduledMessageRow) : ScheduledMessageRow :=
  (sweepStalled tuning now row).getD row

/-- What a reaping leaves of a job. -/
def reaped (staleAfterMs now : Int) (job : ReleaseJob) : ReleaseJob :=
  { job with row := (Platform.reapStuck staleAfterMs now job.row).getD job.row }

/-- What one action does. -/
@[grind =] def step (cfg : Config) (s : State) : Action → Option State
  | .tick ms => some { s with clock := s.clock + ms }
  | .submitMessage holdId jobId epochSeconds validity parsedAt =>
    match parseMessageSchedule epochSeconds validity parsedAt with
    | .ok schedule => submitMessage s holdId jobId schedule
    | .error _ => none
  | .submitBulk campaignId holdId jobId epochSeconds validity parsedAt elapsed =>
    match parseMessageSchedule epochSeconds validity parsedAt with
    | .ok schedule => submitBulk s campaignId holdId jobId schedule elapsed
    | .error _ => none
  | .cancel holdId reason => cancel s holdId reason
  | .reschedule holdId epochSeconds => reschedule s holdId epochSeconds
  | .cancelJob jobId reason => some (s.updateJob jobId (Platform.cancelOn s.clock reason))
  | .claimJob w jobId workerId =>
    match s.worker w, s.job jobId with
    | none, some job =>
      match Platform.claimOn s.clock workerId job.row with
      | some row' => some { s.setJob jobId { job with row := row' } with
          worker := Function.update s.worker w (some ⟨row', job.scheduledMessageId, .claimed⟩) }
      | none => none
    | _, _ => none
  | .sweep => some { s with hold := fun id => (s.hold id).map (swept cfg.release s.clock) }
  | .reap staleAfterMs => some { s with job := fun id => (s.job id).map (reaped staleAfterMs s.clock) }
  | a =>
    match a.worker with
    | some w => (s.worker w).bind fun worker => workerStep cfg s w worker a
    | none => none

/-- Holds, jobs and campaigns as a transition system. -/
def holds (cfg : Config) : Transition.System State Action := ⟨step cfg⟩

/-! ## What must not be forgotten -/

/-- A job that is still to run or running. -/
def ReleaseJob.live (job : ReleaseJob) : Prop :=
  job.row.status = .queued ∨ job.row.status = .running

instance (job : ReleaseJob) : Decidable job.live := inferInstanceAs (Decidable (_ ∨ _))

/-- The hold's release job is still to run or running. -/
def State.HasReleaser (s : State) (row : ScheduledMessageRow) : Prop :=
  ∃ jobId job, row.jobId = some jobId ∧ s.job jobId = some job ∧ job.live

/-- Some later `sweepStalled` resolves the hold. -/
def State.Sweepable (cfg : Config) (s : State) (row : ScheduledMessageRow) : Prop :=
  ∃ later, s.clock ≤ later ∧ (sweepStalled cfg.release later row).isSome = true

/-- **No hold or campaign is forgotten.**  Every open hold has a release job that is to run or
running, or is one a sweep still resolves; every campaign that waits has an open hold. -/
structure NothingForgotten (cfg : Config) (s : State) : Prop where
  holds : ∀ id row, s.hold id = some row → row.status.open_ = true →
    s.HasReleaser row ∨ s.Sweepable cfg row
  campaigns : ∀ id campaign, s.campaign id = some campaign → campaign.status = .scheduled →
    ∃ holdId row, s.hold holdId = some row ∧ row.kind = .bulk id ∧ row.status.open_ = true

/-- The hold a job is to release is not waiting for it. -/
def State.NotWaitedFor (s : State) (holdId : Nat) : Prop :=
  ∀ row, s.hold holdId = some row → row.status ≠ .pending

/-- No campaign waits for the hold. -/
def State.NoCampaignWaits (s : State) (row : ScheduledMessageRow) : Prop :=
  ∀ campaignId campaign, row.kind = .bulk campaignId → s.campaign campaignId = some campaign →
    campaign.status ≠ .scheduled

/-- **The condition under which nothing is forgotten.**

* A campaign's instant is not between `createJob`'s reading of the clock and the minute of grace.
* A release job does not end (cancelled by itself, out of attempts, or written by a worker that
  holds it no longer) while its hold is pending.
* A failed release does not put its hold back to pending when the job has ended meanwhile.
* A hold that expires, fails or is swept is not one a campaign waits for. -/
def Kept (cfg : Config) (s : State) : Action → Prop
  | .submitBulk _ _ _ epochSeconds _ _ elapsed => ∀ seconds, epochSeconds = some seconds →
      s.clock + elapsed < seconds * 1000 → s.clock + SCHEDULE_PAST_GRACE_MS < seconds * 1000
  | .cancelJob jobId _ => ∀ job, s.job jobId = some job → s.NotWaitedFor job.scheduledMessageId
  | .complete w ack => ∀ worker job, s.worker w = some worker →
      s.job worker.job.id = some job → ack.committed = true → job.row.status = .running →
      s.NotWaitedFor job.scheduledMessageId
  | .fail w ack => ∀ worker job message permanent, s.worker w = some worker →
      worker.phase = .threw message permanent → s.job worker.job.id = some job →
      ack.committed = true → job.row.status = .running →
      Platform.exhausted worker.job permanent = true → s.NotWaitedFor job.scheduledMessageId
  | .reap staleAfterMs => ∀ jobId job, s.job jobId = some job →
      Platform.stale staleAfterMs s.clock job.row = true →
      job.row.maxAttempts ≤ job.row.attempts → s.NotWaitedFor job.scheduledMessageId
  | .record w ack => ∀ worker row error current, s.worker w = some worker →
      worker.phase = .failing row error → s.hold worker.scheduledMessageId = some current →
      ack.committed = true → current.heldBy row.releaseAttempts →
      if terminalFailure worker.context error then s.NoCampaignWaits current
      else s.HasReleaser current
  | .expire w _ ack => ∀ worker now row current, s.worker w = some worker →
      worker.phase = .releasing now row → s.hold worker.scheduledMessageId = some current →
      ack.committed = true → current.heldBy row.releaseAttempts → s.NoCampaignWaits current
  | .sweep => ∀ id row, s.hold id = some row → stalled cfg.release s.clock row = true →
      s.NoCampaignWaits row
  | _ => True

end Jkannel.Messaging.HoldQueue
