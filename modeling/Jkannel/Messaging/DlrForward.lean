import Jkannel.Engine.Sqlbox
import Jkannel.Lib.Transition
import Jkannel.Platform.Workers

/-!
# Forwarding delivery receipts

A caller may ask for a URL to be called when the delivery receipt of a message comes in.  The engine
writes the receipt, with the URL, to its log; a sweep of each tenant's claims what it finds there,
one attempt row for each receipt, and enqueues one job for each attempt, which makes the call.

* `isAllowed`, `substituteMask` and `redact` are what is done to a URL.
* `candidates` is what a sweep reads, and `claimReceipts` what it writes.
* `step` is the machine: the engine's log, any number of tenants' sweeps, and the workers of the
  queue, each transaction of theirs a step of its own and the call between two of them.

Some things are kept for the sake of what is promised, and nothing reads them: the receipts that
sweeps have been over (`due`), those that have been answered with a 2xx (`succeeded`), and those
called again afterwards (`repeated`).
-/

namespace Jkannel.Messaging.Dlr

open Function (update)
open Engine (SqlboxRow)
open Platform (JobRow RetryTuning Grip updateJob)
open Transition (Ack)

def DLR_FORWARD_JOB_TYPE : String := "dlr.forward.dispatch"

def DLR_FORWARD_MAX_ATTEMPTS : Nat := 12

/-- A receipt nobody collected within a week is not going to be collected. -/
def SWEEP_LOOKBACK_SECONDS : Int := 7 * 24 * 60 * 60

/-! ## URLs -/

/-- What `new URL` makes of an absolute URL. -/
structure Url where
  protocol : String
  hostname : String

/-- What the service runs in. -/
structure Setting where
  text : TextEngine
  /-- `new URL`, `none` when it throws. -/
  parseUrl : String → Option Url
  /-- The tenant that a bind belongs to. -/
  tenantOf : String → Option Nat
  tuning : RetryTuning

/-- The hosts a receipt may be forwarded to, from the environment. -/
def allowedHosts (env : Setting) (DLR_FORWARD_ALLOWED_HOSTS : String) : List String :=
  ((Text.split ',' DLR_FORWARD_ALLOWED_HOSTS).map fun host =>
    env.text.toLowerCase (Text.trim host)).filter (· ≠ "")

/-- Whether a URL is one that will be called, and why not. -/
def isAllowed (env : Setting) (hosts rawUrl : String) : Except String String :=
  match env.parseUrl rawUrl with
  | none => throw "not a valid absolute URL"
  | some url =>
    if url.protocol ≠ "https:" then throw ("refusing " ++ url.protocol ++ " — https only")
    else
      let host := env.text.toLowerCase url.hostname
      let allowed := allowedHosts env hosts
      if allowed.isEmpty then throw "DLR_FORWARD_ALLOWED_HOSTS is empty"
      else if host ∈ allowed then return host
      else throw ("host " ++ host ++ " is not in DLR_FORWARD_ALLOWED_HOSTS")

/-- `replace(/%d/g, …)`. -/
def replaceMask (mask : List Char) : List Char → List Char
  | '%' :: 'd' :: rest => mask ++ replaceMask mask rest
  | c :: rest => c :: replaceMask mask rest
  | [] => []

/-- The URL with `%d` replaced by the receipt type, and nothing else touched. -/
def substituteMask (rawUrl : String) (dlrMask : Int) : String :=
  String.ofList (replaceMask (toString dlrMask).toList rawUrl.toList)

/-- Whether a character is the name of the parameter that carries the token. -/
def isToken (c : Char) : Bool := c = 't' || c = 'T'

/-- Mask the token in a piece of a URL between two ampersands, behind a question mark. -/
def maskQuery : List Char → List Char
  | '?' :: t :: '=' :: rest =>
    if isToken t then ['?', t, '=', '*', '*', '*'] else '?' :: maskQuery (t :: '=' :: rest)
  | c :: rest => c :: maskQuery rest
  | [] => []

/-- And at its beginning, when it stands behind an ampersand. -/
def maskPiece : List Char → List Char
  | t :: '=' :: rest => if isToken t then [t, '=', '*', '*', '*'] else maskQuery (t :: '=' :: rest)
  | piece => maskQuery piece

/-- `replace(/([?&]t=)[^&]*/gi, '$1***')`: the token is a credential, and the string reaches
logs. -/
def redact (rawUrl : String) : String :=
  match Text.splitChars '&' rawUrl.toList with
  | [] => ""
  | first :: pieces => String.ofList
      (['&'].intercalate (maskQuery first :: pieces.map maskPiece))

/-- Host only, for the ledger. -/
def hostOf (env : Setting) (rawUrl : String) : Option String :=
  (env.parseUrl rawUrl).map fun url => env.text.toLowerCase url.hostname

example : redact "https://a.example/r?id=7&t=s3cret&x=%d" = "https://a.example/r?id=7&t=***&x=%d" := by
  decide +kernel

/-! ## The ledger -/

/-- A row of the engine's log, with the URL it carries. -/
structure LogRow where
  row : SqlboxRow
  dlrUrl : Option String

inductive AttemptStatus where
  | pending | delivered | failed | deadLetter | refused
  deriving DecidableEq

/-- The statuses that `complete` leaves, with the time of completion. -/
def AttemptStatus.terminal : AttemptStatus → Bool
  | .delivered | .deadLetter | .refused => true
  | _ => false

/-- A row of `dlr_forward_attempts`; its id is its position. -/
structure AttemptRow where
  tenant : Nat
  /-- The row of the engine's log this is for. -/
  engineSqlId : Nat
  dlrMask : Int
  /-- Host only: the URL carries a token. -/
  urlHost : Option String
  status : AttemptStatus
  attempts : Nat
  lastStatusCode : Option Nat
  lastError : Option String
  completedAt : Option Int
  deriving DecidableEq

/-- What a sweep found a URL on. -/
structure Candidate where
  sqlId : Nat
  dlrUrl : String
  dlrMask : Int

/-- The URL on a row of the log, if there is one that is not empty. -/
def urlOn (log : List LogRow) (sqlId : Nat) : Option String :=
  Text.truthy ((log.find? fun r => r.row.sqlId = sqlId).bind LogRow.dlrUrl)

/-- The receipts a sweep reads: the newest 200 of a week, of every bind on the engine. -/
def receipts (env : Setting) (log : List LogRow) (now : Int) : List Engine.ClassifiedRow :=
  match Engine.list env.text (log.map LogRow.row) {
      direction := some "DLR"
      fromEpoch := some (now - SWEEP_LOOKBACK_SECONDS)
      limit := some 200 } with
  | .ok page => page.items
  | .error _ => []

/-- Those of them with a URL. -/
def candidates (env : Setting) (log : List LogRow) (now : Int) : List Candidate :=
  (receipts env log now).filterMap fun item =>
    (urlOn log item.row.sqlId).map fun url => ⟨item.row.sqlId, url, item.row.dlrMask.getD 0⟩

/-- Whether a tenant has an attempt row for a receipt. -/
def owns (attempts : List AttemptRow) (tenant sqlId : Nat) : Bool :=
  attempts.any fun a => a.tenant = tenant && a.engineSqlId = sqlId

/-- The row of a new attempt. -/
def newAttempt (env : Setting) (tenant : Nat) (c : Candidate) : AttemptRow where
  tenant := tenant
  engineSqlId := c.sqlId
  dlrMask := c.dlrMask
  urlHost := hostOf env c.dlrUrl
  status := .pending
  attempts := 0
  lastStatusCode := none
  lastError := none
  completedAt := none

/-- `INSERT … ON CONFLICT (tenant_id, engine_sql_id) DO NOTHING RETURNING id`, for each candidate:
the table afterwards, and the ids that were inserted. -/
def claimReceipts (env : Setting) (tenant : Nat) :
    List Candidate → List AttemptRow → List AttemptRow × List Nat
  | [], attempts => (attempts, [])
  | c :: rest, attempts =>
    if owns attempts tenant c.sqlId then claimReceipts env tenant rest attempts
    else
      let (table, ids) := claimReceipts env tenant rest (attempts ++ [newAttempt env tenant c])
      (table, attempts.length :: ids)

/-- The URL as the engine has it, read afresh. -/
def urlFor (env : Setting) (log : List LogRow) (engineSqlId : Nat) : Option String :=
  match Engine.list env.text (log.map LogRow.row) {
      rowIds := some [engineSqlId]
      direction := some "DLR"
      limit := some 1 } with
  | .ok page => (page.items.head?).bind fun item => urlOn log item.row.sqlId
  | .error _ => none

/-- The UPDATE of `record`. -/
def recordRow (attempt : Nat) (statusCode : Option Nat) (error : String) (row : AttemptRow) :
    AttemptRow :=
  { row with
    attempts := attempt
    lastStatusCode := statusCode
    lastError := some (Text.clip 500 error)
    status := .failed }

/-- The UPDATE of `complete`. -/
def completeRow (status : AttemptStatus) (attempt : Nat) (statusCode : Option Nat)
    (error : Option String) (now : Int) (row : AttemptRow) : AttemptRow :=
  { row with
    status
    attempts := attempt
    lastStatusCode := statusCode
    lastError := error.map (Text.clip 500)
    completedAt := some now }

/-! ## The machine -/

/-- How far a sweep has got. -/
inductive Sweep where
  /-- It has read the log; `window` are the receipts with a URL that were there to be found. -/
  | listed (tenant : Nat) (found : List Candidate) (window : List LogRow)
  /-- Its claim is committed, and these attempts are still without a job. -/
  | enqueuing (tenant : Nat) (ids : List Nat)
  /-- It is over, or dead. -/
  | ended

/-- How far a worker has got with a dispatch. -/
inductive Hand where
  | claimed
  /-- It has read the attempt, which was not delivered. -/
  | found (record : AttemptRow)
  /-- It is about to write a refusal or a loss, and to give up. -/
  | closing (status : AttemptStatus) (error message : String)
  /-- The call is out. -/
  | calling (record : AttemptRow) (target host : String)
  | answered (record : AttemptRow) (target host : String) (status : Nat)
  /-- It is in the `catch`, about to record what went wrong. -/
  | recording (message : String)
  /-- The handler returned. -/
  | returned (result : String)
  /-- The handler threw, or the completion did. -/
  | threw (message : String) (permanent : Bool)
  /-- It is done with the job, or dead. -/
  | ended

/-- One claim of a dispatch job. -/
structure Execution where
  id : Nat
  /-- The row as the claim returned it. -/
  job : JobRow
  hand : Hand

/-- What an execution's hand is to its job: it runs it until the handler is over. -/
def Hand.grip : Hand → Option Grip
  | .returned _ | .threw _ _ => some .late
  | .ended => none
  | _ => some .running

/-- The job an execution is on. -/
def Execution.grip (x : Execution) : Option (Nat × Grip) := x.hand.grip.map fun g => (x.id, g)

/-- The engine's log and the forwards. -/
structure State where
  /-- Every row the engine has ever written to its log. -/
  written : List LogRow
  /-- Those that retention has deleted. -/
  purged : List Nat
  attempts : List AttemptRow
  /-- The dispatch jobs. -/
  job : Nat → Option JobRow
  /-- The next job's id. -/
  next : Nat
  /-- The attempt that a job's input names, if its tenant has it. -/
  subject : Nat → Option Nat
  /-- The job behind an attempt's idempotency key. -/
  keyed : Nat → Option Nat
  sweep : Nat → Option Sweep
  execution : Nat → Option Execution
  due : List (Nat × Nat)
  succeeded : List Nat
  repeated : List Nat

def init : State where
  written := []
  purged := []
  attempts := []
  job := fun _ => none
  next := 0
  subject := fun _ => none
  keyed := fun _ => none
  sweep := fun _ => none
  execution := fun _ => none
  due := []
  succeeded := []
  repeated := []

/-- The engine's log. -/
def State.log (s : State) : List LogRow := s.written.filter fun r => r.row.sqlId ∉ s.purged

/-- A receipt with a URL that was received within the look-back window. -/
def inWindow (now : Int) (r : LogRow) : Bool :=
  r.row.momt = some "DLR" && r.row.time.any (now - SWEEP_LOOKBACK_SECONDS ≤ ·) &&
    (Text.truthy r.dlrUrl).isSome

/-- One step of a sweep or a job. -/
inductive Action where
  /-- The engine writes a row to its log. -/
  | receive (row : LogRow)
  /-- Retention deletes one. -/
  | purge (sqlId : Nat)
  /-- A sweep reads the log. -/
  | list (p tenant : Nat) (now : Int)
  /-- Its one transaction. -/
  | claimReceipts (p : Nat) (ack : Ack)
  /-- `jobs.create`, for the next of the attempts it claimed. -/
  | enqueue (p : Nat) (now : Int) (ack : Ack)
  /-- The sweep ends, whether it is done or not. -/
  | leave (p : Nat)
  /-- `POST /jobs`, for an attempt. -/
  | create (subject : Option Nat) (now : Int)
  /-- `claimNext`. -/
  | claimJob (w id : Nat) (workerId : String) (now : Int)
  /-- `dispatch` reads the attempt; the database may fail it. -/
  | read (w : Nat) (ack : Ack)
  /-- It asks the engine for the URL, looks at it, and makes the call if it may. -/
  | look (w : Nat) (hosts : String) (ack : Ack)
  /-- The transaction of a refusal or a loss. -/
  | close (w : Nat) (now : Int) (ack : Ack)
  /-- The call is answered, or fails. -/
  | answer (w : Nat) (response : Except String Nat)
  /-- The transaction behind an answer. -/
  | write (w : Nat) (now : Int) (ack : Ack)
  /-- The transaction of the `catch`. -/
  | record (w : Nat) (ack : Ack)
  /-- A heartbeat or a progress report lands. -/
  | progress (w : Nat) (percent now : Int)
  /-- `completeJob`. -/
  | complete (w : Nat) (now : Int) (ack : Ack)
  /-- `failAttempt`. -/
  | fail (w : Nat) (now : Int) (ack : Ack)
  /-- The worker dies. -/
  | dies (w : Nat)
  /-- An operator cancels a job. -/
  | cancel (id : Nat) (reason : Option String) (now : Int)
  /-- `reapStuck`, on one job. -/
  | reap (id : Nat) (staleAfterMs now : Int)

def State.setHand (s : State) (w : Nat) (x : Execution) (hand : Hand) : State :=
  { s with execution := update s.execution w (some { x with hand := hand }) }

def State.setSweep (s : State) (p : Nat) (sweep : Sweep) : State :=
  { s with sweep := update s.sweep p (some sweep) }

/-- A new dispatch job. -/
def State.createOn (s : State) (subject : Option Nat) (now : Int) : State :=
  { s with
    job := update s.job s.next
      (Platform.insert s.next DLR_FORWARD_JOB_TYPE DLR_FORWARD_MAX_ATTEMPTS none now)
    next := s.next + 1
    subject := update s.subject s.next subject }

/-- `jobs.create` under an attempt's idempotency key, which makes one job and no other. -/
def State.createKeyed (s : State) (id : Nat) (now : Int) : State :=
  match s.keyed id with
  | some _ => s
  | none =>
    { s.createOn (some id) now with keyed := update s.keyed id (some s.next) }

/-- A transaction on one attempt row. -/
def State.onAttempt (s : State) (id : Option Nat) (f : AttemptRow → AttemptRow) : State :=
  match id with
  | none => s
  | some id => { s with attempts := s.attempts.modify id f }

/-- Whether a status is one of success. -/
def is2xx (status : Nat) : Bool := 200 ≤ status && status < 300

/-- The answers that are worth another try. -/
def retryable (status : Nat) : Bool := status = 408 || status = 429 || 500 ≤ status

/-- What `dispatch` makes of the attempt it reads. -/
def afterRead (attempts : List AttemptRow) (subject : Option Nat) : Hand :=
  match subject.bind fun id => attempts[id]? with
  | none => .threw ("No DLR forward attempt " ++ toString (subject.getD 0)) true
  | some record =>
    if record.status = .delivered then
      .returned "\x7b\"skipped\":true,\"reason\":\"already delivered\"\x7d"
    else .found record

/-- What it makes of the URL. -/
def afterLook (env : Setting) (log : List LogRow) (hosts : String) (record : AttemptRow) : Hand :=
  match urlFor env log record.engineSqlId with
  | none => .closing .deadLetter "the engine row no longer carries a dlr_url"
      "The engine row no longer carries a dlr_url"
  | some rawUrl =>
    match isAllowed env hosts rawUrl with
    | .error reason => .closing .refused reason ("Refused: " ++ reason)
    | .ok host => .calling record (substituteMask rawUrl record.dlrMask) host

/-- What it makes of an answer that is no success, once that is recorded: an error that is worth
another attempt goes through the `catch`. -/
def afterFailure (target : String) (status : Nat) : Hand :=
  if retryable status then .recording ("HTTP " ++ toString status)
  else .threw (redact target ++ " answered HTTP " ++ toString status) true

/-- And once the transaction behind an answer is over: whatever it throws is caught, and recorded as
a failure. -/
def afterWrite (target host : String) (status : Nat) : Ack → Hand
  | .ok =>
    if is2xx status then .returned ("\x7b\"forwarded\":true,\"status\":" ++ toString status ++
      ",\"host\":" ++ Text.jsonString host ++ "\x7d")
    else afterFailure target status
  | .lost error | .refused error => .recording error

/-- What one action does. -/
@[grind =] def step (env : Setting) (s : State) : Action → Option State
  | .receive row =>
    -- the key is a serial of the engine's: positive, a safe integer, and never given out twice
    if 0 < row.row.sqlId ∧ row.row.sqlId ≤ MAX_SAFE_INTEGER ∧
        ∀ r ∈ s.written, r.row.sqlId ≠ row.row.sqlId then
      some { s with written := s.written ++ [row] }
    else none
  | .purge sqlId => some { s with purged := sqlId :: s.purged }
  | .list p tenant now =>
    match s.sweep p with
    | none => some (s.setSweep p
        (.listed tenant (candidates env s.log now) (s.log.filter (inWindow now))))
    | some _ => none
  | .claimReceipts p ack =>
    match s.sweep p with
    | some (.listed tenant found window) =>
      let claimed := claimReceipts env tenant found s.attempts
      match ack with
      | .ok => some { s.setSweep p (.enqueuing tenant claimed.2) with
          attempts := claimed.1
          due := (window.filter fun r => r.row.smscId.bind env.tenantOf = some tenant).map
            (fun r => (tenant, r.row.sqlId)) ++ s.due }
      | .lost _ => some { s.setSweep p .ended with attempts := claimed.1 }
      | .refused _ => some (s.setSweep p .ended)
    | _ => none
  | .enqueue p now ack =>
    match s.sweep p with
    | some (.enqueuing tenant (id :: ids)) =>
      let s' := if ack.committed then s.createKeyed id now else s
      some (s'.setSweep p (if ack = .ok then .enqueuing tenant ids else .ended))
    | _ => none
  | .leave p => (s.sweep p).map fun _ => s.setSweep p .ended
  | .create subject now => some (s.createOn (subject.filter (· < s.attempts.length)) now)
  | .claimJob w id workerId now =>
    match s.execution w, (s.job id).bind (Platform.claimOn now workerId) with
    | none, some row => some { s with
        job := update s.job id (some row)
        execution := update s.execution w (some ⟨id, row, .claimed⟩) }
    | _, _ => none
  | .read w ack =>
    match s.execution w with
    | some ⟨id, job, .claimed⟩ => some (s.setHand w ⟨id, job, .claimed⟩ (match ack with
          | .ok => afterRead s.attempts (s.subject id)
          | .lost error | .refused error => .threw error false))
    | _ => none
  | .look w hosts ack =>
    match s.execution w with
    | some ⟨id, job, .found record⟩ =>
      match ack with
      | .ok =>
        let hand := afterLook env s.log hosts record
        let s' := s.setHand w ⟨id, job, .found record⟩ hand
        some (match hand with
          | .calling _ _ _ => { s' with
              repeated := if record.engineSqlId ∈ s.succeeded then
                record.engineSqlId :: s.repeated else s.repeated }
          | _ => s')
      | .lost error | .refused error =>
        some (s.setHand w ⟨id, job, .found record⟩ (.threw error false))
    | _ => none
  | .close w now ack =>
    match s.execution w with
    | some ⟨id, job, .closing status error message⟩ =>
      let s' := if ack.committed then
        s.onAttempt (s.subject id) (completeRow status job.attempts none (some error) now) else s
      some (s'.setHand w ⟨id, job, .closing status error message⟩ (match ack with
          | .ok => .threw message true
          | .lost error | .refused error => .threw error false))
    | _ => none
  | .answer w response =>
    match s.execution w with
    | some ⟨id, job, .calling record target host⟩ =>
      match response with
      | .error message =>
        some (s.setHand w ⟨id, job, .calling record target host⟩ (.recording message))
      | .ok status =>
        some { s.setHand w ⟨id, job, .calling record target host⟩
            (.answered record target host status) with
          succeeded := if is2xx status then record.engineSqlId :: s.succeeded else s.succeeded }
    | _ => none
  | .write w now ack =>
    match s.execution w with
    | some ⟨id, job, .answered record target host status⟩ =>
      let f : AttemptRow → AttemptRow :=
        if is2xx status then completeRow .delivered job.attempts (some status) none now
        else recordRow job.attempts (some status) ("HTTP " ++ toString status)
      let s' := if ack.committed then s.onAttempt (s.subject id) f else s
      some (s'.setHand w ⟨id, job, .answered record target host status⟩
        (afterWrite target host status ack))
    | _ => none
  | .record w ack =>
    match s.execution w with
    | some ⟨id, job, .recording message⟩ =>
      let s' := if ack.committed then
        s.onAttempt (s.subject id) (recordRow job.attempts none message) else s
      some (s'.setHand w ⟨id, job, .recording message⟩ (match ack with
          | .ok => .threw message false
          | .lost error | .refused error => .threw error false))
    | _ => none
  | .progress w percent now => (s.execution w).map fun x =>
    { s with job := updateJob s.job x.id (Platform.reportProgress now percent) }
  | .complete w now ack =>
    match s.execution w with
    | some ⟨id, job, .returned result⟩ =>
      let jobs := if ack.committed then updateJob s.job id (Platform.completeJob now result)
        else s.job
      some ({ s with job := jobs }.setHand w ⟨id, job, .returned result⟩ (match ack with
          | .ok => .ended
          | .lost error | .refused error => .threw error false))
    | _ => none
  | .fail w now ack =>
    match s.execution w with
    | some ⟨id, job, .threw message permanent⟩ =>
      let jobs := if ack.committed then
        updateJob s.job id (Platform.failAttempt env.tuning now job message permanent) else s.job
      some ({ s with job := jobs }.setHand w ⟨id, job, .threw message permanent⟩ .ended)
    | _ => none
  | .dies w => (s.execution w).map fun x => s.setHand w x .ended
  | .cancel id reason now =>
    some { s with job := updateJob s.job id (Platform.cancelOn now reason) }
  | .reap id staleAfterMs now =>
    some { s with job := updateJob s.job id (Platform.reapStuck staleAfterMs now) }

/-- Forwarding as a transition system. -/
def forwarding (env : Setting) : Transition.System State Action := ⟨step env⟩

/-! ## What is promised -/

/-- A job that can still run is for the attempt. -/
def LiveJob (s : State) (n i : Nat) : Prop :=
  s.subject n = some i ∧ ∃ row, s.job n = some row ∧ row.live = true

/-- A sweep has committed its claim of the attempt, and is about to enqueue its job. -/
def Enqueuing (s : State) (i : Nat) : Prop :=
  ∃ p tenant ids, s.sweep p = some (.enqueuing tenant ids) ∧ i ∈ ids

/-- **Receipts are forwarded once, by the right tenant, and none is stranded.** -/
structure Forwarded (env : Setting) (s : State) : Prop where
  /-- An attempt is of the tenant whose bind carried the receipt. -/
  right : ∀ a ∈ s.attempts, ∃ r ∈ s.written, r.row.sqlId = a.engineSqlId ∧
    r.row.smscId.bind env.tenantOf = some a.tenant
  /-- No receipt has two, over all tenants. -/
  once : ∀ (i j : Nat) (a b : AttemptRow), s.attempts[i]? = some a → s.attempts[j]? = some b →
    a.engineSqlId = b.engineSqlId → i = j
  /-- A receipt with a URL, in the window when a sweep of its tenant read the log, has one once that
  sweep has committed. -/
  owned : ∀ tenant sqlId, (tenant, sqlId) ∈ s.due → owns s.attempts tenant sqlId = true
  /-- An attempt that is not terminal has a job that is queued or running, or is about to get one. -/
  live : ∀ (i : Nat) (a : AttemptRow), s.attempts[i]? = some a → a.status.terminal = false →
    (∃ n, LiveJob s n i) ∨ Enqueuing s i
  /-- No call follows an answer of 2xx. -/
  quiet : s.repeated = []

/-! ## The condition -/

/-- The attempt behind a job, if there is one, is terminal. -/
def Settled (s : State) (n : Nat) : Prop :=
  ∀ (i : Nat) (a : AttemptRow), s.subject n = some i → s.attempts[i]? = some a →
    a.status.terminal = true

/-- No worker is on a job. -/
def Free (s : State) (n : Nat) : Prop :=
  ∀ w x, s.execution w = some x → x.id = n → x.hand = .ended

/-- A receipt is among the newest 200 of the window. -/
def Newest (now : Int) (log : List LogRow) (r : LogRow) : Prop :=
  (log.filter fun other => other.row.momt = some "DLR" &&
    other.row.time.any (now - SWEEP_LOOKBACK_SECONDS ≤ ·) &&
      r.row.sqlId ≤ other.row.sqlId).length ≤ 200

/-- A success that has not been recorded. -/
def Hand.won : Hand → Bool
  | .answered _ _ _ status => is2xx status
  | _ => false

/-- **The condition.**  A sweep finds no receipt of another tenant's binds, and of its own none it
does not have yet behind the newest 200; once its claim is committed it gets to enqueue a job for
each attempt.  A success is recorded by the transaction behind it, and the worker does not die in
between.  An operator only makes a job for an attempt that has none that can run, or has been
delivered.  A job is only reaped or cancelled when no worker is on it, and only ends, be it
cancelled or out of attempts or failed for good, when its attempt is terminal. -/
def Orderly (env : Setting) (s : State) : Action → Prop
  | .list _ tenant now =>
    (∀ c ∈ candidates env s.log now, ∀ r ∈ s.log, r.row.sqlId = c.sqlId →
      r.row.smscId.bind env.tenantOf = some tenant) ∧
    ∀ r ∈ s.log, inWindow now r = true → r.row.smscId.bind env.tenantOf = some tenant →
      owns s.attempts tenant r.row.sqlId = true ∨ Newest now s.log r
  | .claimReceipts p ack => ∀ tenant found window, s.sweep p = some (.listed tenant found window) →
      ack.committed = true → ack = .ok ∨ (claimReceipts env tenant found s.attempts).2 = []
  | .enqueue p _ ack => ∀ tenant id ids, s.sweep p = some (.enqueuing tenant (id :: ids)) →
      ack.committed = true ∧ (ack = .ok ∨ ids = [])
  | .leave p => ∀ tenant ids, s.sweep p = some (.enqueuing tenant ids) → ids = []
  | .create subject _ => ∀ (i : Nat) (a : AttemptRow), subject = some i → s.attempts[i]? = some a →
      a.status = .delivered ∨ ((∀ n, ¬ LiveJob s n i) ∧ ¬ Enqueuing s i)
  | .write w _ ack => ∀ x, s.execution w = some x → x.hand.won = true → ack = .ok
  | .dies w => ∀ x, s.execution w = some x → x.hand.won = false
  | .fail w _ ack => ∀ x message permanent, s.execution w = some x →
      x.hand = .threw message permanent → ack.committed = true →
        Platform.exhausted x.job permanent = true → Settled s x.id
  | .cancel id _ _ => Free s id ∧ Settled s id
  | .reap id _ _ => Free s id ∧
      ∀ row, s.job id = some row → row.attempts < row.maxAttempts ∨ Settled s id
  | _ => True

end Jkannel.Messaging.Dlr
