import Jkannel.Lib.Transition
import Jkannel.Retry.Chain

/-!
# Dispatching and scanning

The state machine of one retry chain.  Any number of dispatches of it may be under way, since a
dispatch is a job the queue may repeat or give to a second worker, and so may any number of scans.
An action is one transaction on the tenant's database, one write to the engine, or one read of the
engine's delivery reports, because anything may come between two of those; a dispatch may also die
between them, and a transaction may be refused or its acknowledgement lost.

Every transaction concerns the chain of its `retry_id` only, so the chains of a tenant run side by
side without meeting, and one of them is the whole system.

* `Phase` is how far a dispatch has got, in the order of the source: load, look at the delivery
  reports, claim, choose a bind, send, and book what came of it.
* The send is three actions: `insert` writes to the engine, which no rollback undoes; `fence` is the
  guarded INSERT of the attempt row; `commit` records the re-send and commits both.  From its UPDATE
  to its COMMIT the transaction holds the chain's row lock, so the two are one action.
* `Settle` is how far a scan's settling of a `resent` chain has got.
-/

namespace Jkannel.Retry

open Transition (Ack)

/-- How far a dispatch has got. -/
inductive Phase where
  /-- It has read the chain, and whether the policy in force is enabled. -/
  | loaded (chain : Chain) (enabled : Bool) (refs : List Nat)
  /-- No report of delivery has been seen. -/
  | cleared (chain : Chain)
  /-- It has claimed attempt `n`. -/
  | claimed (n : Nat)
  /-- It has chosen a bind for attempt `n`. -/
  | bound (n : Nat) (smscId : String) (reason : String)
  /-- The engine has taken attempt `n`, and the tenant's transaction is open. -/
  | submitted (n : Nat) (smscId : String) (ref : Nat) (reason : String)
  /-- The attempt row is inserted in the open transaction. -/
  | fenced (n : Nat) (smscId : String) (ref : Nat) (reason : String)
  /-- The send is committed; the charge is to be recorded. -/
  | sent (n : Nat) (smscId : String)
  /-- No bind was left for attempt `n`, which is to be recorded. -/
  | noBind (n : Nat) (reason : String)
  /-- The send of attempt `n` threw, which is to be recorded. -/
  | refused (n : Nat) (smscId : String) (message : String)
  /-- The chain is to be ended, by the dispatch of attempt `n` if it has claimed one. -/
  | finishing (status : ChainStatus) (reason : String) (n : Option Nat)
  /-- Over, or dead. -/
  | ended
  deriving DecidableEq

/-- How far the settling of a `resent` chain has got. -/
inductive Settle where
  /-- It has read attempt `n` of the chain, submitted as `ref` and not reported on. -/
  | loaded (n : Nat) (ref : Nat) (smscId : Option String)
  /-- The engine says attempt `n` was delivered. -/
  | seen (n : Nat) (smscId : Option String)
  | ended

/-- An engine row made for the chain. -/
structure Submission where
  sqlId : Nat
  /-- The attempt it was made for. -/
  attemptNo : Nat
  smscId : String

/-- The chain, the engine's side of it, and everything under way. -/
structure State where
  chain : Option Chain
  /-- The attempt rows. -/
  attempts : List Attempt
  /-- The engine rows made for the chain. -/
  spool : List Submission
  /-- The engine's next key. -/
  nextSqlId : Nat
  /-- The engine's delivery reports, as reference and event, in the order it sorts them. -/
  reports : List (Nat × Int)
  dispatcher : Nat → Option Phase
  settler : Nat → Option Settle

/-- Before the chain is opened. -/
def init : State := ⟨none, [], [], 1, [], fun _ => none, fun _ => none⟩

/-- One step of a scan or a dispatch. -/
inductive Action where
  /-- The engine writes a delivery report, at a place of its order. -/
  | report (place : Nat) (ref : Nat) (event : Int)
  /-- `ingestReport` of a message that is not a retry. -/
  | ingest (origin : Nat) (smscId : String) (maxAttempts : Nat) (refused : Option String)
  /-- `ingestReport` of a retry, which is `continueChain`. -/
  | continueWith (ref : Nat) (event : Int) (smscId : String)
  /-- `settleResentChains` reads the chain. -/
  | settleLoad (t : Nat)
  /-- It reads the engine's reports. -/
  | settleRead (t : Nat)
  /-- It ends the chain as delivered. -/
  | settleFinish (t : Nat) (ack : Ack)
  /-- `dispatch` reads the chain and the policy. -/
  | load (d : Nat) (enabled : Bool)
  /-- It reads the engine's reports, the last thing before the claim. -/
  | readReports (d : Nat)
  /-- It claims the chain. -/
  | claim (d : Nat) (ack : Ack)
  /-- `chooseBind`. -/
  | chooseBind (d : Nat) (smscId : Option String) (reason : String)
  /-- The engine's INSERT. -/
  | insert (d : Nat) (ack : Ack)
  /-- The guarded INSERT of the attempt row. -/
  | fence (d : Nat)
  /-- The UPDATE to `resent`, and the COMMIT of the send. -/
  | commit (d : Nat) (ack : Ack)
  /-- The send throws, before or after the engine's INSERT. -/
  | sendFails (d : Nat) (message : String)
  /-- The transaction that records the charge. -/
  | charge (d : Nat) (ack : Ack)
  /-- `recordAttempt`, which is best effort. -/
  | recordAttempt (d : Nat) (applied : Bool)
  /-- `finish`. -/
  | finish (d : Nat) (ack : Ack)
  /-- The worker of the dispatch dies, or an error outside the send ends it. -/
  | crash (d : Nat)

/-! ## Reads and writes -/

/-- `latestDeliveryEvents`, for one reference. -/
def State.latestEvent (s : State) (ref : Nat) : Option Int :=
  ((s.reports.filter fun p => p.1 = ref).getLast?).map Prod.snd

def State.setPhase (s : State) (d : Nat) (p : Phase) : State :=
  { s with dispatcher := Function.update s.dispatcher d (some p) }

def State.setSettle (s : State) (t : Nat) (p : Settle) : State :=
  { s with settler := Function.update s.settler t (some p) }

/-- `UPDATE message_delivery_retries … WHERE id = …`. -/
def State.onChain (s : State) (statement : Chain → Option Chain) : State :=
  match s.chain.bind statement with
  | some c' => { s with chain := some c' }
  | none => s

/-- `UPDATE message_delivery_retry_attempts SET dlr_event = …` on the rows `p` picks. -/
def State.setDlrEvent (s : State) (p : Attempt → Bool) (event : Int) : State :=
  let report (a : Attempt) := if p a then { a with dlrEvent := some event } else a
  { s with attempts := s.attempts.map report }

/-- Whether attempt `n` has a row already, which the unique index then refuses a second. -/
def State.recorded (s : State) (n : Nat) : Bool := s.attempts.any fun a => a.attemptNo = n

/-- The engine takes a submission and numbers it. -/
def State.engineInsert (s : State) (n : Nat) (smscId : String) : State :=
  { s with
    spool := s.spool ++ [⟨s.nextSqlId, n, smscId⟩]
    nextSqlId := s.nextSqlId + 1 }

/-- The effect of the send's transaction: the attempt row, and the chain in `resent`. -/
def State.commitSend (s : State) (n : Nat) (smscId : String) (ref : Nat) (reason : String) :
    State :=
  { s.onChain (markResent n smscId) with
    attempts := s.attempts ++ [⟨n, some smscId, .submitted, some ref, none, reason⟩] }

/-- `INSERT … ON CONFLICT DO NOTHING` of an attempt that was not submitted. -/
def State.recordAttempt (s : State) (n : Nat) (smscId : Option String) (outcome : AttemptOutcome)
    (reason : String) : State :=
  if s.recorded n then s
  else { s with attempts := s.attempts ++ [⟨n, smscId, outcome, none, none, reason⟩] }

/-- What ends a dispatch that lost the claim. -/
def lostClaim (c : Chain) : Phase :=
  .finishing .exhausted ("no attempts left (" ++ toString c.attempts ++ " of " ++
    toString c.maxAttempts ++ " used)") none

@[simp] theorem onChain_attempts (s : State) (f : Chain → Option Chain) :
    (s.onChain f).attempts = s.attempts := by
  unfold State.onChain; split <;> rfl

@[simp] theorem onChain_dispatcher (s : State) (f : Chain → Option Chain) :
    (s.onChain f).dispatcher = s.dispatcher := by
  unfold State.onChain; split <;> rfl

/-! ## The machine -/

/-- The transactions and reads of a dispatch of the chain with id `retryId`. -/
def dispatchStep (retryId : String) (s : State) (d : Nat) : Phase → Action → Option State
  | .loaded c enabled refs, .readReports _ =>
    if !enabled then
      some (s.setPhase d (.finishing .abandoned
        "delivery retry was switched off before this attempt ran" none))
    else match refs.find? fun ref => s.latestEvent ref = some DLR_EVENT_DELIVERED with
      | some ref => some (s.setPhase d (.finishing .delivered ("a delivered report arrived for " ++
          toString ref ++ " after the failure; retry cancelled") none))
      | none => some (s.setPhase d (.cleared c))
  | .cleared c, .claim _ ack =>
    if ack.committed then
      match s.chain.bind claim with
      | some c' =>
        let s' := { s with chain := some c' }
        -- the increment is committed, whether or not the dispatch learns of it
        if ack = .ok then some (s'.setPhase d (.claimed c'.attempts))
        else some (s'.setPhase d .ended)
      | none => some (s.setPhase d (if ack = .ok then lostClaim c else .ended))
    else some (s.setPhase d .ended)
  | .claimed n, .chooseBind _ smscId reason =>
    match smscId with
    | some smscId => some (s.setPhase d (.bound n smscId reason))
    | none => some (s.setPhase d (.noBind n reason))
  | .bound n smscId reason, .insert _ ack =>
    let s' := if ack.committed then s.engineInsert n smscId else s
    match ack with
    | .ok => some (s'.setPhase d (.submitted n smscId s.nextSqlId reason))
    | .lost error | .refused error => some (s'.setPhase d (.refused n smscId error))
  | .bound n smscId _, .sendFails _ message => some (s.setPhase d (.refused n smscId message))
  | .submitted n smscId ref reason, .fence _ =>
    if !s.chain.any (holdsFence n) then
      some (s.setPhase d (.refused n smscId ("delivery retry " ++ retryId ++ " attempt " ++
        toString n ++ " was claimed by another worker; rolling this send back")))
    else if s.recorded n then
      some (s.setPhase d (.refused n smscId ("duplicate key value violates unique constraint " ++
        "\"message_delivery_retry_attempts_no_uidx\"")))
    else some (s.setPhase d (.fenced n smscId ref reason))
  | .submitted n smscId _ _, .sendFails _ message => some (s.setPhase d (.refused n smscId message))
  | .fenced n smscId ref reason, .commit _ ack =>
    let s' := if ack.committed then s.commitSend n smscId ref reason else s
    match ack with
    | .ok => some (s'.setPhase d (.sent n smscId))
    | .lost error | .refused error => some (s'.setPhase d (.refused n smscId error))
  | .fenced n smscId _ _, .sendFails _ message => some (s.setPhase d (.refused n smscId message))
  | .sent n smscId, .charge _ ack =>
    match ack with
    | .ok => some (s.setPhase d .ended)
    -- inside the same `try` as the send
    | .lost error | .refused error => some (s.setPhase d (.refused n smscId error))
  | .noBind n reason, .recordAttempt _ applied =>
    let s' := if applied then s.recordAttempt n none .noBind reason else s
    some (s'.setPhase d (.finishing .exhausted reason (some n)))
  | .refused n smscId message, .recordAttempt _ applied =>
    let s' := if applied then s.recordAttempt n (some smscId) .refused ("refused: " ++ message)
      else s
    some (s'.setPhase d (.finishing .failed ("retry refused by the send path: " ++ message)
      (some n)))
  | .finishing status reason _, .finish _ ack =>
    let s' := if ack.committed then s.onChain fun c => some (terminate status reason c) else s
    some (s'.setPhase d .ended)
  | _, .crash _ => some (s.setPhase d .ended)
  | _, _ => none

/-- What one action does. -/
@[grind =] def step (retryId : String) (s : State) (a : Action) : Option State :=
  match a with
  | .report place ref event => some { s with reports := s.reports.insertIdx place (ref, event) }
  | .ingest origin smscId maxAttempts refused =>
    -- `ON CONFLICT (tenant_id, origin_message_ref) DO NOTHING`
    match s.chain, openChain origin smscId maxAttempts refused with
    | none, some c => some { s with chain := some c }
    | _, _ => some s
  | .continueWith ref event smscId =>
    if (ref, event) ∈ s.reports ∧ negativeEvent event = true ∧
        s.attempts.any (fun a => a.messageRef = some ref) = true then
      some ((s.setDlrEvent (fun a => a.messageRef = some ref) event).onChain
        (continueChain smscId event))
    else none
  | .settleLoad t =>
    match s.settler t, s.chain with
    | none, some c =>
      match s.attempts.find? fun a => a.attemptNo = c.attempts ∧ a.dlrEvent = none with
      | some a => match a.messageRef with
        | some ref =>
          if c.status = .resent then some (s.setSettle t (.loaded c.attempts ref a.smscId))
          else some (s.setSettle t .ended)
        | none => some (s.setSettle t .ended)
      | none => some (s.setSettle t .ended)
    | _, _ => none
  | .settleRead t =>
    match s.settler t with
    | some (.loaded n ref smscId) =>
      if s.latestEvent ref = some DLR_EVENT_DELIVERED then some (s.setSettle t (.seen n smscId))
      else some (s.setSettle t .ended)
    | _ => none
  | .settleFinish t ack =>
    match s.settler t with
    | some (.seen n smscId) =>
      let s' := if ack.committed then
          (s.setDlrEvent (fun a => a.attemptNo = n) DLR_EVENT_DELIVERED).onChain fun c =>
            some (terminate .delivered ("retry " ++ toString n ++ " on " ++
              smscId.getD "unknown bind" ++ " was delivered") c)
        else s
      some (s'.setSettle t .ended)
    | _ => none
  | .load d enabled =>
    match s.dispatcher d, s.chain with
    | none, some c =>
      if c.status.claimable then
        some (s.setPhase d (.loaded c enabled
          (c.originMessageRef :: s.attempts.filterMap Attempt.messageRef)))
      else some (s.setPhase d .ended)
    | _, _ => none
  | .readReports d | .claim d _ | .chooseBind d _ _ | .insert d _ | .fence d | .commit d _
  | .sendFails d _ | .charge d _ | .recordAttempt d _ | .finish d _ | .crash d =>
    (s.dispatcher d).bind fun p => dispatchStep retryId s d p a

/-- The chain as a transition system. -/
def retries (retryId : String) : Transition.System State Action := ⟨step retryId⟩

end Jkannel.Retry
