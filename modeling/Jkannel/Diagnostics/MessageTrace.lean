import Jkannel.Engine.Receipts

/-!
# The trace of a message

A message's history is spread over two databases: the engine has its spool row, its sent row and its
delivery reports, and the service's own database has the routing decision and the retry attempts.
The trace fetches from each what mentions one id, and puts it into stages.

* `engineTrace` are the engine's rows for an id, those the tenant may see, in the order of time.
* `assembleTrace` makes the stages of a lifecycle.
* `trace` is the two together.

Instants are milliseconds, and a comparison of two ISO texts is one of the instants they name.
-/

namespace Jkannel.Diagnostics

open Engine

/-! ## What the engine has -/

inductive EventSource where
  | sendSms | sentSms
  deriving DecidableEq

/-- A row of either engine table, as the adapter hands it on. -/
structure EngineEvent where
  source : EventSource
  row : SqlboxRow
  deliveryStatus : DeliveryStatus

/-- A row without a time is at the epoch. -/
def EngineEvent.timestamp (e : EngineEvent) : Int := e.row.time.getD 0 * 1000

def EngineEvent.direction (e : EngineEvent) : String :=
  e.row.momt.getD (if e.source = .sendSms then "MT" else "unknown")

/-- `sql_id::text = $1 OR foreign_id = $1`. -/
def readBy (id : String) (row : SqlboxRow) : Bool :=
  toString row.sqlId = id || row.foreignId = some id

/-- The order of the events: by the time, then by the key. -/
def compareEvents (a b : EngineEvent) : Ordering :=
  (compare a.timestamp b.timestamp).then (compare a.row.sqlId b.row.sqlId)

/-- A row without a bind is not yet routed, and belongs to nobody else. -/
def visible (allowedSmscIds : List String) (e : EngineEvent) : Bool :=
  (Text.truthy e.row.smscId).all allowedSmscIds.contains

def spoolEvent (row : SqlboxRow) : EngineEvent := ⟨.sendSms, row, .queued⟩

def sentEvent (sent : List SqlboxRow) (row : SqlboxRow) : EngineEvent :=
  ⟨.sentSms, row, (classify false sent row).deliveryStatus⟩

/-- `KamexSqlboxRepository.trace`. -/
def engineTrace (sent spool : List SqlboxRow) (id : String)
    (allowedSmscIds : Option (List String)) : List EngineEvent :=
  let sentRows := (sent.filter (readBy id)).insertionSort (compareRows · · ≠ .gt)
  let queued := (spool.filter (readBy id)).insertionSort (compareRows · · ≠ .gt)
  let events := queued.map spoolEvent ++ sentRows.map (sentEvent sent)
  let events := match allowedSmscIds with
    | none => events
    | some ids =>
      let owned := events.any fun e => (Text.truthy e.row.smscId).any ids.contains
      if owned then events.filter (visible ids) else []
  events.insertionSort (compareEvents · · ≠ .gt)

/-! ## The stages -/

inductive StageKind where
  | routed | spooled | submitted | receipt | retry
  deriving DecidableEq

inductive StageStatus where
  | ok | warning | failed | pending
  deriving DecidableEq

/-- A value shown verbatim. -/
inductive Fact where
  | text (value : String)
  | number (value : Int)
  | null
  deriving DecidableEq

def Fact.ofOption (value : Option String) : Fact := value.elim .null .text

/-- One stage, as it is shown. -/
structure TraceStage where
  kind : StageKind
  label : String
  status : StageStatus
  at_ : Option Int
  /-- Milliseconds since the previous stage. -/
  latencyMs : Option Int
  detail : String
  facts : List (String × Fact)

/-- The stages of a message, in order. -/
structure AssembledTrace where
  stages : List TraceStage
  totalMs : Option Int
  /-- The first stage that failed or warns. -/
  firstProblem : Option (StageKind × String × String)
  inFlight : Bool

/-- What a trace reads of a decision. -/
structure RouteDecisionInput where
  routeName : Option String
  strategy : Option String
  smscId : Option String
  requestedSmscId : Option String
  fallbackUsed : Bool
  outcome : Option String
  reason : Option String
  candidatesConsidered : Option Int
  contentRuleName : Option String
  createdAt : Option Int

/-- What a trace reads of an attempt. -/
structure RetryAttemptInput where
  attemptNo : Nat
  smscId : Option String
  outcome : Option String
  createdAt : Option Int

/-- The stage of the routing decision. -/
def routedStage (decision : RouteDecisionInput) : TraceStage :=
  let rejected := decision.outcome = some "rejected"
  { kind := .routed
    label := if rejected then "Refused before routing" else "Route selected"
    status := if rejected then .failed else if decision.fallbackUsed then .warning else .ok
    at_ := decision.createdAt
    latencyMs := none
    detail :=
      if rejected then
        decision.reason.getD "The message was refused and never reached the engine."
      else if decision.fallbackUsed then
        Text.trim ("The primary target was not usable, so the fallback carried this message. " ++
          decision.reason.getD "")
      else
        decision.reason.getD ("Matched route " ++ decision.routeName.getD "unnamed" ++ ".")
    facts := [
      ("route", .ofOption decision.routeName),
      ("strategy", .ofOption decision.strategy),
      ("chosenBind", .ofOption decision.smscId),
      ("requestedBind", .ofOption decision.requestedSmscId),
      ("candidatesConsidered", decision.candidatesConsidered.elim .null .number),
      ("contentRule", .ofOption decision.contentRuleName)] }

/-- The stage of the spool row. -/
def spooledStage (spool : EngineEvent) : TraceStage where
  kind := .spooled
  label := "Written to the engine spool"
  status := .ok
  at_ := some spool.timestamp
  latencyMs := none
  detail := "JKANNEL wrote the message to send_sms; SQLBox had not yet consumed it."
  facts := [("bind", .ofOption spool.row.smscId)]

/-- The stage of the sent row. -/
def submittedStage (sent : EngineEvent) : TraceStage where
  kind := .submitted
  label := "Handed to the carrier"
  status := .ok
  at_ := some sent.timestamp
  latencyMs := none
  detail := "The engine accepted the message and submitted it on the bind below."
  facts := [("bind", .ofOption sent.row.smscId)]

/-- The stage of one attempt. -/
def retryStage (attempt : RetryAttemptInput) : TraceStage where
  kind := .retry
  label := "Retry attempt " ++ toString attempt.attemptNo
  status := if attempt.outcome = some "delivered" then .ok else .warning
  at_ := attempt.createdAt
  latencyMs := none
  detail := "The message was re-sent after a negative delivery receipt."
  facts := [("bind", .ofOption attempt.smscId), ("outcome", .ofOption attempt.outcome)]

/-- The stage of the last of some receipts. -/
def receiptStage (receipt : EngineEvent) (receipts : Nat) : TraceStage :=
  let status := receipt.deliveryStatus.text
  { kind := .receipt
    label := "Delivery receipt"
    status :=
      if status = "failed" ∨ status = "rejected" then .failed
      else if status = "delivered" then .ok
      else .warning
    at_ := some receipt.timestamp
    latencyMs := none
    detail := "The carrier reported " ++ status ++ "."
    facts := [("status", .text status), ("receipts", .number receipts)] }

/-- The stage of a message without a receipt. -/
def pendingStage : TraceStage where
  kind := .receipt
  label := "Delivery receipt"
  status := .pending
  at_ := none
  latencyMs := none
  detail := "No delivery receipt has arrived yet. That is not a failure: receipts follow " ++
    "submission, and some carriers never send one."
  facts := [("status", .text "pending"), ("receipts", .number 0)]

/-- The last stage: of the last receipt, or of none for a message that was sent. -/
def receiptStages (events : List EngineEvent) : List TraceStage :=
  let receipts := events.filter (·.direction = "DLR")
  match receipts.getLast? with
  | some receipt => [receiptStage receipt receipts.length]
  | none =>
    if events.any fun e => e.source = .sentSms ∧ e.direction ≠ "DLR" then [pendingStage] else []

/-- Stages without an instant come last. -/
def stageKey (stage : TraceStage) : Int := stage.at_.getD MAX_SAFE_INTEGER

def compareStages (a b : TraceStage) : Ordering := compare (stageKey a) (stageKey b)

/-- The latency of each stage, from the last one before it that has an instant. -/
def withLatency : Option Int → List TraceStage → List TraceStage
  | _, [] => []
  | previous, stage :: stages =>
    { stage with
      latencyMs := previous.bind fun p => stage.at_.map fun c => c - p } ::
      withLatency (stage.at_.or previous) stages

/-- `Math.max(...timestamps) - Math.min(...timestamps)` of more than one. -/
def spanMs (timestamps : List Int) : Option Int :=
  if 1 < timestamps.length then
    timestamps.max?.bind fun hi => timestamps.min?.map fun lo => hi - lo
  else none

/-- The stages, source by source. -/
def unsortedStages (decision : Option RouteDecisionInput) (events : List EngineEvent)
    (retries : List RetryAttemptInput) : List TraceStage :=
  (decision.map routedStage).toList ++
  ((events.find? (·.source = .sendSms)).map spooledStage).toList ++
  ((events.find? fun e => e.source = .sentSms ∧ e.direction ≠ "DLR").map submittedStage).toList ++
  retries.map retryStage ++
  receiptStages events

/-- The stages by time, with the latencies. -/
def assembleTrace (decision : Option RouteDecisionInput) (events : List EngineEvent)
    (retries : List RetryAttemptInput) : AssembledTrace :=
  let stages := withLatency none
    ((unsortedStages decision events retries).insertionSort (compareStages · · ≠ .gt))
  { stages := stages
    totalMs := spanMs (stages.filterMap (·.at_))
    firstProblem := (stages.find? fun s => s.status = .failed ∨ s.status = .warning).map
      fun s => (s.kind, s.label, s.detail)
    inFlight := stages.any (·.status = .pending) }

/-! ## The service -/

/-- A row of `message_route_decisions`. -/
structure DecisionRow where
  /-- The key of the spool row, once the submission succeeded. -/
  messageRef : Option String
  /-- The correlation id the caller gave. -/
  foreignId : Option String
  createdAt : Int
  decision : RouteDecisionInput

/-- A row of `message_delivery_retry_attempts`, with its chain's message. -/
structure AttemptRow where
  originMessageRef : String
  attempt : RetryAttemptInput

/-- What a tenant's trace is made from. -/
structure Stores where
  sent : EngineTable
  spool : EngineTable
  /-- The tenant's rows. -/
  decisions : List DecisionRow
  attempts : List AttemptRow
  /-- The engine ids of the tenant's SMSCs. -/
  scope : List String
  /-- `smsc_engine_id_format`. -/
  formatted : "" ∉ scope

/-- `message_ref = $1 OR foreign_id = $1`. -/
def DecisionRow.readBy (id : String) (d : DecisionRow) : Bool :=
  d.messageRef = some id || d.foreignId = some id

def compareDecisions (a b : DecisionRow) : Ordering := compare a.createdAt b.createdAt

def compareAttempts (a b : AttemptRow) : Ordering :=
  compare a.attempt.attemptNo b.attempt.attemptNo

/-- The oldest decision that a predicate holds of. -/
def oldest (decisions : List DecisionRow) (p : DecisionRow → Bool) : Option DecisionRow :=
  ((decisions.filter p).insertionSort (compareDecisions · · ≠ .gt)).head?

/-- The attempts of a chain, in the order of their numbers. -/
def attemptsOf (attempts : List AttemptRow) (origin : String) : List AttemptRow :=
  (attempts.filter (·.originMessageRef = origin)).insertionSort (compareAttempts · · ≠ .gt)

/-- What the console is sent. -/
structure MessageTraceResult where
  id : String
  lifecycle : AssembledTrace
  events : List EngineEvent

/-- `MessageTraceService.trace`; the engine's part is empty when it cannot be read. -/
def trace (stores : Stores) (available : Bool) (id : String) : MessageTraceResult :=
  let events := if available then
    engineTrace stores.sent.rows stores.spool.rows id (some stores.scope) else []
  { id := id
    lifecycle := assembleTrace ((oldest stores.decisions (·.readBy id)).map DecisionRow.decision)
      events ((attemptsOf stores.attempts id).map AttemptRow.attempt)
    events := events }

end Jkannel.Diagnostics
