import Jkannel.Lib.Transition
import Jkannel.Messaging.Holds

/-!
# Releasing a held message

The state machine of one hold of a message: any number of workers running `release` on it, whatever
the job queue thinks of their claims, the operator's `cancel` and `reschedule`, and `sweepStalled`.
The hold is in the tenant's database and the engine's spool in another, so that a send which has
written to the spool and then rolls back leaves its row there.

* `Phase` is how far a release has got; the send is the part from its BEGIN (`sending`) to its
  COMMIT, with the insert into the spool and the fenced write of the hold in between.
* `step` is the machine, one action a transaction, a statement of the send or a step of a worker.
  The send's fenced write locks the hold until the send has ended, so nobody else writes to it then.
* `AtMostOnce` is what the machine is for, and `Current` the condition on the steps it needs.
-/

namespace Jkannel.Messaging.HoldRelease

open Transition (Ack)

/-- How far a release has got. -/
inductive Phase where
  /-- It has been called, and the hold is to be claimed. -/
  | started
  /-- The hold has been claimed, as this row. -/
  | claimed (row : ScheduledMessageRow)
  /-- The send has begun, and the engine has not been written to. -/
  | sending (row : ScheduledMessageRow)
  /-- The engine has the message. -/
  | inserted (row : ScheduledMessageRow) (sqlId decisionId : Nat)
  /-- The hold is written, as this second row, and locked; the send has yet to commit. -/
  | marked (row updated : ScheduledMessageRow)
  /-- The send has thrown and rolled back, and the failure is to be recorded. -/
  | failing (row : ScheduledMessageRow) (error : ReleaseError)
  /-- The release has returned or thrown, or its worker is dead. -/
  | ended
  deriving DecidableEq

/-- The fence a release has claimed the hold under. -/
def Phase.fence : Phase → Option Nat
  | .claimed row | .sending row | .inserted row _ _ | .marked row _ | .failing row _ =>
    some row.releaseAttempts
  | _ => none

/-- The fence of a release that has written to the engine and not committed. -/
def Phase.spooled : Phase → Option Nat
  | .inserted row _ _ | .marked row _ => some row.releaseAttempts
  | _ => none

/-- Whether the send's transaction is open. -/
def Phase.inTransaction : Phase → Bool
  | .sending _ | .inserted _ _ _ | .marked _ _ => true
  | _ => false

/-- One call of `release`. -/
structure Worker where
  context : ReleaseContext
  /-- When it was called. -/
  now : Int
  phase : Phase

/-- A row of the engine's spool for the held message, and the fence it was sent under. -/
structure Spooled where
  sqlId : Nat
  fence : Nat

/-- One hold and its releases. -/
structure State where
  /-- The committed row. -/
  hold : ScheduledMessageRow
  /-- The release whose transaction has the row locked. -/
  lock : Option Nat
  /-- The engine's rows for the message, the oldest first. -/
  spool : List Spooled
  workers : Nat → Option Worker
  clock : Int

/-- A message held until `scheduledAt`. -/
def init (id jobId : Nat) (scheduledAt : Int) (validityMinutes : Option Int) (clock : Int) :
    State where
  hold := { insertHold id .message scheduledAt validityMinutes with jobId := some jobId }
  lock := none
  spool := []
  workers := fun _ => none
  clock := clock

/-- One statement of one release. -/
inductive Action where
  | tick (ms : Nat)
  /-- `release` is called. -/
  | start (w : Nat) (context : ReleaseContext)
  /-- `sweepStalled` runs, at the head of a release of this hold or another. -/
  | sweep
  | claim (w : Nat) (ack : Ack)
  /-- A hold that is too late is expired. -/
  | expire (w : Nat) (reason : String) (ack : Ack)
  /-- The send opens its transaction. -/
  | begin_ (w : Nat)
  /-- The send throws before it has written to the engine. -/
  | throwBefore (w : Nat) (error : ReleaseError)
  /-- The send writes to the engine, which numbers the row `sqlId`. -/
  | insert (w : Nat) (sqlId decisionId : Nat) (ack : Ack)
  /-- The send throws after it has written to the engine. -/
  | throwAfter (w : Nat) (error : ReleaseError)
  /-- `onSubmitted`: the fenced write of the hold. -/
  | mark (w : Nat)
  | commit (w : Nat)
  /-- `recordReleaseFailure`, whose own failure is ignored. -/
  | record (w : Nat) (ack : Ack)
  /-- The worker dies, and its transaction with it. -/
  | crash (w : Nat)
  | cancel (reason : Option String)
  /-- `reschedule`; `queued` is whether the release job could still be moved. -/
  | reschedule (epochSeconds : Int) (queued : Bool)

/-- `UPDATE scheduled_messages … WHERE id = …`. -/
def State.update (s : State) (statement : ScheduledMessageRow → Option ScheduledMessageRow) :
    State :=
  match statement s.hold with
  | some row' => { s with hold := row' }
  | none => s

/-- A transaction of one statement, which takes effect unless it is refused. -/
def State.transact (s : State) (ack : Ack)
    (statement : ScheduledMessageRow → Option ScheduledMessageRow) : State :=
  if ack.committed then s.update statement else s

/-- Move a release on. -/
def State.setPhase (s : State) (w : Nat) (worker : Worker) (phase : Phase) : State :=
  { s with workers := Function.update s.workers w (some { worker with phase := phase }) }

/-- Why a send whose fence has moved throws. -/
def supersededError (id : Nat) : ReleaseError :=
  .other ("Scheduled message " ++ toString id ++
    " was claimed by another release (or resolved) while this " ++
    "one was in flight; the send was rolled back rather than delivered twice.")

/-- What a release decides on a hold it has claimed. -/
def Worker.verdict (tuning : ReleaseTuning) (worker : Worker) (row : ScheduledMessageRow) :
    MissedWindowVerdict :=
  classifyMissedWindow row.scheduledAt worker.now tuning.maxLatenessMs

/-- Where a claim leaves the release: there may be nothing to release any more, or the claim may
have thrown. -/
def claimOutcome : Ack → Option ScheduledMessageRow → Phase
  | .ok, some row => .claimed row
  | _, _ => .ended

/-- What an action of release `w` does. -/
@[grind =] def workerStep (tuning : ReleaseTuning) (s : State) (w : Nat) (worker : Worker) :
    Action → Option State
  | .claim _ ack =>
    match worker.phase, s.lock with
    | .started, none =>
      let s' := s.transact ack (claimHold s.clock worker.context.workerId)
      some (s'.setPhase w worker
        (claimOutcome ack (claimHold s.clock worker.context.workerId s.hold)))
    | _, _ => none
  | .expire _ reason ack =>
    match worker.phase, s.lock with
    | .claimed row, none =>
      let verdict := worker.verdict tuning row
      if verdict.expire then
        let s' := s.transact ack (expireHold reason verdict.latenessMs row.releaseAttempts)
        some (s'.setPhase w worker .ended)
      else none
    | _, _ => none
  | .begin_ _ =>
    match worker.phase with
    | .claimed row =>
      if (worker.verdict tuning row).expire then none
      else some (s.setPhase w worker (.sending row))
    | _ => none
  | .throwBefore _ error =>
    match worker.phase with
    | .sending row => some (s.setPhase w worker (.failing row error))
    | _ => none
  | .insert _ sqlId decisionId ack =>
    match worker.phase with
    | .sending row =>
      -- the engine's database commits this on its own
      let s' := if ack.committed then
        { s with spool := s.spool ++ [⟨sqlId, row.releaseAttempts⟩] } else s
      some <| s'.setPhase w worker <| match ack with
        | .ok => .inserted row sqlId decisionId
        | .lost error | .refused error => .failing row (.other error)
    | _ => none
  | .throwAfter _ error =>
    match worker.phase with
    | .inserted row _ _ => some (s.setPhase w worker (.failing row error))
    | _ => none
  | .mark _ =>
    match worker.phase, s.lock with
    | .inserted row sqlId decisionId, none =>
      let verdict := worker.verdict tuning row
      match markReleased s.clock verdict.late verdict.latenessMs (toString sqlId) decisionId
          row.releaseAttempts s.hold with
      | some updated => some { s.setPhase w worker (.marked row updated) with lock := some w }
      | none => some (s.setPhase w worker (.failing row (supersededError row.id)))
    | _, _ => none
  | .commit _ =>
    match worker.phase with
    | .marked _ updated => some { s.setPhase w worker .ended with hold := updated, lock := none }
    | _ => none
  | .record _ ack =>
    match worker.phase, s.lock with
    | .failing row error, none =>
      let s' := s.transact ack (recordReleaseFailure (terminalFailure worker.context error)
        (failureReason worker.context error) row.releaseAttempts)
      some (s'.setPhase w worker .ended)
    | _, _ => none
  | .crash _ =>
    some { s.setPhase w worker .ended with lock := if s.lock = some w then none else s.lock }
  | _ => none

/-- The release an action is a step of. -/
def Action.worker : Action → Option Nat
  | .claim w _ | .expire w _ _ | .begin_ w | .throwBefore w _ | .insert w _ _ _ | .throwAfter w _
  | .mark w | .commit w | .record w _ | .crash w => some w
  | _ => none

/-- What one action does. -/
@[grind =] def step (tuning : ReleaseTuning) (s : State) : Action → Option State
  | .tick ms => some { s with clock := s.clock + ms }
  | .start w context =>
    match s.workers w with
    | none => some { s with
        workers := Function.update s.workers w (some ⟨context, s.clock, .started⟩) }
    | some _ => none
  | .sweep =>
    match s.lock with
    | none => some (s.update (sweepStalled tuning s.clock))
    | some _ => none
  | .cancel reason =>
    match s.lock with
    | none => some (s.update (cancelHold (cancelDetail reason)))
    | some _ => none
  | .reschedule epochSeconds queued =>
    match s.lock, parseMessageSchedule (some epochSeconds) s.hold.validityMinutes s.clock with
    | none, .ok schedule =>
      match schedule.scheduledAtMs with
      | some when_ =>
        if requiresHold schedule s.clock ∧ queued then some (s.update (rescheduleHold when_))
        else none
      | none => none
    | _, _ => none
  | a =>
    match a.worker with
    | some w => (s.workers w).bind fun worker => workerStep tuning s w worker a
    | none => none

/-- Release as a transition system. -/
def release (tuning : ReleaseTuning) : Transition.System State Action := ⟨step tuning⟩

/-- **At most one row, and none while the hold says it has not been sent.**  The engine never holds
two rows for the message, and none when the hold is being released and no send is open. -/
structure AtMostOnce (s : State) : Prop where
  once : s.spool.length ≤ 1
  unsent : s.hold.status = .releasing →
    (∀ w worker, s.workers w = some worker → worker.phase.inTransaction = false) → s.spool = []

/-- A release that has written to the engine and not committed has the hold. -/
def State.Spooling (s : State) : Prop :=
  ∃ w worker, s.workers w = some worker ∧ worker.phase.spooled = some s.hold.releaseAttempts

/-- **The condition a release is safe under.**  Whoever writes to the engine has the hold, or finds
it ended with no row there; and from then on, as long as it has the hold, it neither throws nor
dies, and nobody claims the hold from it. -/
def Current (s : State) : Action → Prop
  | .insert w _ _ ack => ∀ worker row, s.workers w = some worker → worker.phase = .sending row →
      match ack with
      | .ok => s.hold.heldBy row.releaseAttempts ∨ (s.hold.status.open_ = false ∧ s.spool = [])
      | .lost _ => s.hold.status.open_ = false ∧ s.spool = []
      | .refused _ => True
  | .throwAfter w _ | .crash w => ∀ worker fence, s.workers w = some worker →
      worker.phase.spooled = some fence → ¬ s.hold.heldBy fence
  | .claim _ _ => s.hold.status = .releasing → ¬ s.Spooling
  | _ => True

end Jkannel.Messaging.HoldRelease
