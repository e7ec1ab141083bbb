import Jkannel.Messaging.HoldQueue
import Jkannel.Messaging.Send

/-!
# Campaigns

A campaign is one row of `bulk_send_jobs` with a row for each recipient.  It is dispatched by
`processJob`, which ticks of any number of replicas, the creation itself and the release of a held
campaign all call, and which may die anywhere.

* `claimJob`, `finalise` and `createJob` are the transactions; between the first and the second a call
  of `processJob` (`Phase`) passes one recipient after the other to the send path.
* `step` has all callers and the releases of the hold, with the operator's cancelling and moving.
* `AtMostOnce`, `AccountedFor` and `Finishes` are what is promised.  The last needs the steps to be
  `Steady`: a campaign that is cut off while it is `running` is nobody's any more.
-/

namespace Jkannel.Messaging.Campaigns

open Jkannel.Messaging.HoldQueue (CampaignStatus)
open Jkannel.Messaging.Send (SendRequest)
open Transition (Ack)

/-! ## Rows -/

inductive RecipientStatus where
  | pending | submitted | failed
  deriving DecidableEq

/-- A row of `bulk_send_recipients`. -/
structure Recipient where
  id : Nat
  receiver : String
  text : String
  status : RecipientStatus
  foreignId : Option String
  error : Option String

/-- A row of `bulk_send_jobs`. -/
structure BulkSendJob where
  id : Nat
  name : String
  smscId : Option String
  sender : Option String
  customerId : Option String
  createdBy : Option String
  status : CampaignStatus
  total : Nat
  submitted : Nat
  failed : Nat
  scheduledAt : Option Int
  validityMinutes : Option Int
  priority : Option Int
  detail : Option String
  completedAt : Option Int

/-- What a campaign is deployed with. -/
structure Setting where
  tenantSmscs : List String
  customers : List String
  /-- `BULK_SEND_DEFAULT_SENDER`. -/
  defaultSender : Option String
  /-- `BULK_SEND_INLINE_MAX`. -/
  inlineMax : Nat
  release : ReleaseTuning

def defaultBulkSender (setting : Setting) : String :=
  (Text.truthy (setting.defaultSender.map Text.trim)).getD "JKANNEL"

/-! ## Creation -/

/-- A campaign as it is asked for. -/
structure CreateBulkSendInput where
  name : String
  smscId : Option String
  message : String
  recipients : List String
  sender : Option String
  customerId : Option String
  priority : Option Int
  schedule : Option MessageSchedule

def BULK_SEND_MAX_RECIPIENTS : Nat := 5000

/-- The row of a new campaign. -/
def newJob (setting : Setting) (id : Nat) (userId : String) (input : CreateBulkSendInput)
    (now : Int) : BulkSendJob where
  id
  name := input.name
  smscId := Text.truthy (input.smscId.map Text.trim)
  sender := some ((Text.truthy (input.sender.map Text.trim)).getD (defaultBulkSender setting))
  customerId := input.customerId
  createdBy := some userId
  status :=
    if (input.schedule.bind MessageSchedule.scheduledAtMs).any fun when_ => decide (now < when_) then
      .scheduled
    else .queued
  total := input.recipients.length
  submitted := 0
  failed := 0
  scheduledAt := input.schedule.bind MessageSchedule.scheduledAtMs
  validityMinutes := input.schedule.bind MessageSchedule.validityMinutes
  priority := input.priority
  detail := none
  completedAt := none

/-- The rows of its recipients. -/
def newRecipients (input : CreateBulkSendInput) : List Recipient :=
  input.recipients.zipIdx.map fun (receiver, id) => ⟨id, receiver, input.message, .pending, none, none⟩

/-- `createJob`, as far as what it writes. -/
def createJob (setting : Setting) (id : Nat) (userId : String) (input : CreateBulkSendInput)
    (now : Int) : Except String (BulkSendJob × List Recipient) :=
  if input.recipients = [] then .error "recipients must be a non-empty array"
  else if BULK_SEND_MAX_RECIPIENTS < input.recipients.length then
    .error ("recipients exceeds the maximum of " ++ toString BULK_SEND_MAX_RECIPIENTS ++ " per job")
  else if (Text.truthy (input.smscId.map Text.trim)).any (· ∉ setting.tenantSmscs) then
    .error "smscId must reference one of your tenant’s SMSCs"
  else if (Text.truthy input.customerId).any (· ∉ setting.customers) then .error "Customer not found"
  else .ok (newJob setting id userId input now, newRecipients input)

/-! ## Dispatch -/

/-- What a claim returns to the call that made it. -/
structure Claim where
  smscId : Option String
  sender : String
  customerId : Option String
  createdBy : String
  priority : Option Int
  schedule : Option MessageSchedule
  recipients : List Recipient

/-- Job statuses the runner will pick up. -/
def DISPATCHABLE_STATUSES : List CampaignStatus := [.queued]

/-- The claim's transaction: the job, now running, with the recipients that are pending. -/
def claimJob (setting : Setting) (job : BulkSendJob) (recipients : List Recipient) :
    Option (BulkSendJob × Claim) :=
  if job.status ∈ DISPATCHABLE_STATUSES then
    some ({ job with status := .running }, {
      smscId := job.smscId
      sender := job.sender.getD (defaultBulkSender setting)
      customerId := job.customerId
      createdBy := job.createdBy.getD "bulk-send"
      priority := job.priority
      schedule :=
        if job.scheduledAt = none ∧ job.validityMinutes = none then none
        else some ⟨job.scheduledAt, job.validityMinutes⟩
      recipients := recipients.filter fun r => r.status = .pending })
  else none

/-- What became of a recipient: the row it was submitted as, or why it was not. -/
structure Outcome where
  id : Nat
  result : Except String Nat

def Outcome.ok (outcome : Outcome) : Bool := outcome.result.isOk

/-- What the send path is asked for a recipient. -/
def requestFor (jobId : Nat) (claim : Claim) (recipient : Recipient) : SendRequest where
  sender := some claim.sender
  receiver := recipient.receiver
  text := some recipient.text
  smscId := claim.smscId
  dlrMask := none
  dlrUrl := none
  foreignId := none
  customerId := claim.customerId
  channel := .bulk
  reference := some (toString jobId)
  operator := none
  rerouteIfUnavailable := false
  cost := none
  priority := claim.priority
  schedule := claim.schedule
  onSubmitted := none

/-- `UPDATE bulk_send_recipients … WHERE id = …`. -/
def Outcome.write (outcome : Outcome) (row : Recipient) : Recipient :=
  match outcome.result with
  | .ok sqlId =>
    { row with
      status := .submitted
      foreignId := some (toString sqlId)
      error := none }
  | .error error =>
    { row with
      status := .failed
      foreignId := none
      error := some error }

/-- The outcomes, one UPDATE after the other. -/
def writeOutcomes (outcomes : List Outcome) (rows : List Recipient) : List Recipient :=
  outcomes.foldl (fun rows outcome =>
    rows.map fun row => if row.id = outcome.id then outcome.write row else row) rows

/-- The status its recipients give a job. -/
def finalStatus (submitted failed : Nat) : CampaignStatus :=
  if failed = 0 then .completed else if submitted = 0 then .failed else .partial_

/-- `finalise`, of the job's row. -/
def finalise (now : Int) (outcomes : List Outcome) (job : BulkSendJob) : BulkSendJob :=
  let submitted := outcomes.countP Outcome.ok
  let failed := outcomes.length - submitted
  { job with
    status := finalStatus submitted failed
    submitted := job.submitted + submitted
    failed := job.failed + failed
    detail := if failed = 0 then none else some (toString failed ++ " recipient(s) failed to submit")
    completedAt := some now }

/-! ## The machine -/

/-- How far a call of `processJob` has got. -/
inductive Phase where
  | started
  /-- The job is claimed, and SQLBox is to be probed. -/
  | claimed (claim : Claim)
  | sending (claim : Claim) (outcomes : List Outcome) (rest : List Recipient)
  | ended

/-- How far a call of `release` has got. -/
inductive ReleasePhase where
  | started
  /-- The hold has been claimed, as this row. -/
  | claimed (row : ScheduledMessageRow)
  /-- The release has thrown, and the failure is to be recorded on the hold. -/
  | failing (row : ScheduledMessageRow) (error : ReleaseError)
  | ended

/-- The release of a campaign's hold. -/
structure Release where
  context : ReleaseContext
  /-- The clock as the call read it. -/
  now : Int
  phase : ReleasePhase

/-- A call of the send path. -/
structure Sent where
  recipient : Nat
  request : SendRequest
  result : Except String Nat

/-- The job, its recipients and the calls. -/
structure State where
  job : BulkSendJob
  recipients : List Recipient
  hold : Option ScheduledMessageRow
  /-- The creation's own call of `processJob` is still to come. -/
  kick : Bool
  processes : List Phase
  releases : List Release
  sent : List Sent
  clock : Int

/-- `submitBulk`, at `now`; `createJob` reads the clock `elapsed` milliseconds later. -/
def submitBulk (setting : Setting) (id holdId : Nat) (userId : String) (input : CreateBulkSendInput)
    (now : Int) (elapsed : Nat) : Except String State := do
  let (job, recipients) ← createJob setting id userId input (now + elapsed)
  let hold := do
    let schedule ← input.schedule
    let when_ ← schedule.scheduledAtMs
    if requiresHold schedule now then
      some (insertHold holdId (.bulk id) when_ schedule.validityMinutes)
    else none
  return {
    job
    recipients
    hold
    kick := job.status = .queued && decide (job.total ≤ setting.inlineMax)
    processes := []
    releases := []
    sent := []
    clock := now + elapsed }

/-- One step of one call. -/
inductive Action where
  | tick (ms : Nat)
  /-- A runner's tick finds the job among those to dispatch. -/
  | list
  /-- The creation's own call. -/
  | kick
  /-- Another claim of the job has the advisory lock. -/
  | locked (p : Nat)
  | claim (p : Nat) (ack : Ack)
  | probe (p : Nat) (available : Bool) (evidence : String)
  /-- The next recipient is passed to the send path. -/
  | send (p : Nat) (result : Except String Nat)
  | finalise (p : Nat) (ack : Ack)
  /-- The process dies. -/
  | crash (p : Nat)
  /-- The release job calls `release`. -/
  | callRelease (context : ReleaseContext)
  | claimHold (r : Nat) (ack : Ack)
  | expire (r : Nat) (reason : String) (ack : Ack)
  | releaseBulk (r : Nat) (ack : Ack)
  /-- `recordReleaseFailure`. -/
  | record (r : Nat) (ack : Ack)
  | crashRelease (r : Nat)
  /-- `sweepStalled`, at the head of some release. -/
  | sweep
  | cancel (reason : Option String)
  /-- The operator moves the hold; its release job can be moved when `queued`. -/
  | reschedule (epochSeconds : Int) (queued : Bool)

/-- `UPDATE scheduled_messages … WHERE id = …`. -/
def State.updateHold (s : State) (statement : ScheduledMessageRow → Option ScheduledMessageRow) :
    State :=
  match s.hold.bind statement with
  | some row' => { s with hold := some row' }
  | none => s

/-- `UPDATE bulk_send_jobs … WHERE id = … AND status = 'scheduled'`. -/
def State.updateScheduled (s : State) (statement : BulkSendJob → BulkSendJob) : State :=
  if s.job.status = .scheduled then { s with job := statement s.job } else s

def State.setPhase (s : State) (p : Nat) (phase : Phase) : State :=
  { s with processes := s.processes.set p phase }

def State.setRelease (s : State) (r : Nat) (call : Release) (phase : ReleasePhase) : State :=
  { s with releases := s.releases.set r { call with phase } }

/-- A call of `processJob` begins. -/
def State.process (s : State) : State := { s with processes := s.processes ++ [.started] }

/-- What an action of the call `p` of `processJob` does. -/
@[grind =] def processStep (setting : Setting) (s : State) (p : Nat) (phase : Phase) : Action → Option State
  | .locked _ =>
    match phase with
    | .started => some (s.setPhase p .ended)
    | _ => none
  | .claim _ ack =>
    match phase with
    | .started =>
      match claimJob setting s.job s.recipients with
      -- skipped
      | none => some (s.setPhase p .ended)
      | some (job', claim) =>
        let s' := if ack.committed then { s with job := job' } else s
        some (s'.setPhase p (if ack = .ok then .claimed claim else .ended))
    | _ => none
  | .probe _ available evidence =>
    match phase with
    | .claimed claim =>
      some <| s.setPhase p <|
        if available then .sending claim [] claim.recipients
        else .sending claim (claim.recipients.map fun recipient =>
          ⟨recipient.id, .error ("SQLBox unavailable: " ++ evidence)⟩) []
    | _ => none
  | .send _ result =>
    match phase with
    | .sending claim outcomes (recipient :: rest) =>
      let call : Sent := ⟨recipient.id, requestFor s.job.id claim recipient, result⟩
      some (State.setPhase { s with sent := s.sent ++ [call] } p
        (.sending claim (outcomes ++ [⟨recipient.id, result⟩]) rest))
    | _ => none
  | .finalise _ ack =>
    match phase with
    | .sending _ outcomes [] =>
      let s' := if ack.committed then { s with
          job := Campaigns.finalise s.clock outcomes s.job
          recipients := writeOutcomes outcomes s.recipients } else s
      some (s'.setPhase p .ended)
    | _ => none
  | .crash _ => some (s.setPhase p .ended)
  | _ => none

/-- What a release decides on the hold it has claimed. -/
def Release.verdict (setting : Setting) (call : Release) (row : ScheduledMessageRow) :
    MissedWindowVerdict :=
  classifyMissedWindow row.scheduledAt call.now setting.release.maxLatenessMs

/-- What an action of the call `r` of `release` does. -/
def releaseStep (setting : Setting) (s : State) (r : Nat) (call : Release) : Action → Option State
  | .claimHold _ ack =>
    match call.phase with
    | .started =>
      let statement := Messaging.claimHold s.clock call.context.workerId
      let s' := if ack.committed then s.updateHold statement else s
      some <| s'.setRelease r call <| match ack, s.hold.bind statement with
        | .ok, some row => .claimed row
        | _, _ => .ended
    | _ => none
  | .expire _ reason ack =>
    match call.phase with
    | .claimed row =>
      let verdict := call.verdict setting row
      if verdict.expire then
        let s' := if ack.committed then
          s.updateHold (expireHold reason verdict.latenessMs row.releaseAttempts) else s
        some (s'.setRelease r call .ended)
      else none
    | _ => none
  | .releaseBulk _ ack =>
    match call.phase with
    | .claimed row =>
      let verdict := call.verdict setting row
      if verdict.expire then none
      else match ack, s.hold.bind (markBulkReleased s.clock verdict.late verdict.latenessMs
          row.releaseAttempts) with
        | .refused error, _ => some (s.setRelease r call (.failing row (.other error)))
        | _, none => some (s.setRelease r call (.failing row
            (HoldQueue.supersededError "campaign" row.id "the campaign was not started.")))
        | .lost error, some row' =>
          let s' := { s.updateScheduled fun job => { job with status := .queued } with
            hold := some row' }
          some (s'.setRelease r call (.failing row (.other error)))
        | .ok, some row' =>
          let s' := { s.updateScheduled fun job => { job with status := .queued } with
            hold := some row' }
          -- what the release makes of its own `processJob` finds the hold released
          some (s'.process.setRelease r call .ended)
    | _ => none
  | .record _ ack =>
    match call.phase with
    | .failing row error =>
      let s' := if ack.committed then s.updateHold (recordReleaseFailure
        (terminalFailure call.context error) (failureReason call.context error)
        row.releaseAttempts) else s
      some (s'.setRelease r call .ended)
    | _ => none
  | .crashRelease _ => some (s.setRelease r call .ended)
  | _ => none

/-- The call of `processJob` an action is a step of. -/
def Action.process : Action → Option Nat
  | .locked p | .claim p _ | .probe p _ _ | .send p _ | .finalise p _ | .crash p => some p
  | _ => none

/-- The call of `release` an action is a step of. -/
def Action.release : Action → Option Nat
  | .claimHold r _ | .expire r _ _ | .releaseBulk r _ | .record r _ | .crashRelease r => some r
  | _ => none

/-- `cancel`: the hold and its campaign, in one transaction. -/
def cancel (s : State) (reason : Option String) : Option State :=
  (s.hold.bind (cancelHold (cancelDetail reason))).map fun row' =>
    { s.updateScheduled fun job =>
        { job with
          status := .failed
          detail := some (cancelDetail reason)
          completedAt := some s.clock } with
      hold := some row' }

/-- `reschedule`: refused when the release job has been claimed. -/
def reschedule (s : State) (epochSeconds : Int) (queued : Bool) : Option State :=
  s.hold.bind fun row =>
    match parseMessageSchedule (some epochSeconds) row.validityMinutes s.clock with
    | .error _ => none
    | .ok schedule =>
      if requiresHold schedule s.clock ∧ queued then
        schedule.scheduledAtMs.bind fun when_ =>
          (rescheduleHold when_ row).map fun row' =>
            { s.updateScheduled fun job => { job with scheduledAt := some when_ } with
              hold := some row' }
      else none

/-- What one action does. -/
@[grind =] def step (setting : Setting) (s : State) : Action → Option State
  | .tick ms => some { s with clock := s.clock + ms }
  | .list => if s.job.status ∈ DISPATCHABLE_STATUSES then some s.process else none
  | .kick => if s.kick then some { s.process with kick := false } else none
  | .callRelease context =>
    some { s with releases := s.releases ++ [⟨context, s.clock, .started⟩] }
  | .sweep => some (s.updateHold (sweepStalled setting.release s.clock))
  | .cancel reason => cancel s reason
  | .reschedule epochSeconds queued => reschedule s epochSeconds queued
  | a =>
    match a.process, a.release with
    | some p, _ => s.processes[p]?.bind fun phase => processStep setting s p phase a
    | none, some r => s.releases[r]?.bind fun call => releaseStep setting s r call a
    | none, none => none

/-- A campaign as a transition system. -/
def dispatching (setting : Setting) : Transition.System State Action := ⟨step setting⟩

/-! ## What is promised -/

/-- A job nobody works on again. -/
def terminal : CampaignStatus → Bool
  | .completed | .partial_ | .failed => true
  | _ => false

/-- No recipient is passed to the send path twice. -/
def AtMostOnce (s : State) : Prop := (s.sent.map Sent.recipient).Nodup

/-- A recipient's row agrees with what became of the recipient. -/
def Agrees (sent : List Sent) (row : Recipient) : Prop :=
  match row.status with
  | .pending => False
  | .submitted => ∃ call ∈ sent, call.recipient = row.id ∧
      ∃ sqlId, call.result = .ok sqlId ∧ row.foreignId = some (toString sqlId)
  | .failed => ∀ call ∈ sent, call.recipient = row.id →
      ∃ error, call.result = .error error ∧ row.error = some error

/-- The counts and the rows say what happened. -/
structure Accounted (s : State) : Prop where
  sum : s.job.submitted + s.job.failed = s.job.total
  submitted : s.job.submitted = s.recipients.countP fun row => row.status = .submitted
  failed : s.job.failed = s.recipients.countP fun row => row.status = .failed
  agrees : ∀ row ∈ s.recipients, Agrees s.sent row

/-- The operator has cancelled the campaign before anything was sent. -/
structure Cancelled (s : State) : Prop where
  hold : ∃ row ∈ s.hold, row.status = .cancelled
  sent : s.sent = []
  pending : ∀ row ∈ s.recipients, row.status = .pending

/-- A campaign that has ended is accounted for, or was cancelled. -/
structure AccountedFor (s : State) : Prop where
  finalised : s.job.status = .completed ∨ s.job.status = .partial_ → Accounted s
  failed : s.job.status = .failed → Accounted s ∨ Cancelled s

/-- Some sequence of the services' operations ends the campaign. -/
def Finishes (setting : Setting) (s : State) : Prop :=
  ∃ actions s', (dispatching setting).run s actions = some s' ∧ terminal s'.job.status = true

/-! ## The condition -/

/-- A call of `processJob` that has claimed the job, and not finalised it. -/
def Phase.working : Phase → Bool
  | .claimed _ | .sending .. => true
  | _ => false

/-- The hold's instant is so long past that a release gives it up. -/
def tooLate (setting : Setting) (now : Int) (row : ScheduledMessageRow) : Bool :=
  (classifyMissedWindow row.scheduledAt now setting.release.maxLatenessMs).expire

/-- **The condition under which a campaign can be ended.**

* No call of `processJob` is cut off between its claim and its `finalise`.
* The hold of a campaign that waits for it is not ended by a release or by a sweep, and when the
  instant is too long past it is not being released. -/
def Steady (setting : Setting) (s : State) : Action → Prop
  | .crash p => ∀ phase ∈ s.processes[p]?, phase.working = false
  | .claim _ ack => s.job.status = .queued → ack.committed = true → ack = .ok
  | .finalise _ ack => ack.committed = true
  | .tick ms => s.job.status = .scheduled → ∀ row ∈ s.hold, row.status = .releasing →
      tooLate setting (s.clock + ms) row = false
  | .claimHold _ ack => s.job.status = .scheduled → ack.committed = true →
      ∀ row ∈ s.hold, tooLate setting s.clock row = false
  | .expire r _ ack => s.job.status = .scheduled → ack.committed = true →
      ∀ call ∈ s.releases[r]?, ∀ row, call.phase = .claimed row →
        ¬ ∃ current ∈ s.hold, current.heldBy row.releaseAttempts
  | .record r ack => s.job.status = .scheduled → ack.committed = true →
      ∀ call ∈ s.releases[r]?, ∀ row error, call.phase = .failing row error →
        terminalFailure call.context error = true →
        ¬ ∃ current ∈ s.hold, current.heldBy row.releaseAttempts
  | .sweep => s.job.status = .scheduled →
      ∀ row ∈ s.hold, sweepStalled setting.release s.clock row = none
  | _ => True

end Jkannel.Messaging.Campaigns
