import Jkannel.Engine.Sqlbox
import Jkannel.Lib.Transition

/-!
# Inbound messages

Messages from subscribers reach the platform through the engine's log, which a *sweep* polls: it
reads the newest page of inbound rows of the tenant's binds, ingests those above a stored
watermark, the oldest first and each in a transaction of its own, and then moves the watermark.

* `prepareIngest` validates and canonicalises one message; what it refuses it refuses by throwing.
* `ingestInClient` is the deduplicating INSERT; the matching and fan-out of the same transaction are
  left out, since no sweep reads them.
* `sweep` is one run over the engine's log, with its two error exits: a transaction that fails stops
  it and records why, and a message that is refused ends it on the spot.
* `step` is the machine: the log grows, and sweeps run.
-/

namespace Jkannel.Messaging.Mo

open Engine
open Transition (Ack)
open Text (trim jsLength truthy clip)

/-! ## One message -/

/-- A message as it comes in. -/
structure IngestInput where
  sender : String
  receiver : String
  text : String
  smscId : Option String
  externalRef : Option String := none

/-- How a message came in. -/
inductive Source where
  | sqlbox | http

/-- A message that passed its checks, which is the `mo_messages` row it becomes. -/
structure PreparedInbound where
  source : Source
  /-- What makes ingest idempotent: no two rows share it. -/
  dedupeKey : Option String
  engineMessageId : Option String
  externalRef : Option String
  smscId : Option String
  sender : String
  receiver : String
  senderDigits : Option String
  receiverDigits : Option String
  body : String

/-- The digits, when there are any. -/
def digitsOrNull (value : String) : Option String :=
  if Text.digits value = "" then none else some (Text.digits value)

/-- The key of a message the engine numbered. -/
def sqlboxKey (engineMessageId : String) : String := "sqlbox:" ++ engineMessageId

/-- Validate and canonicalise an inbound message; a refusal is a 400 with its text. -/
def prepareIngest (input : IngestInput) (source : Source) (engineMessageId : Option String) :
    Except String PreparedInbound :=
  let sender := trim input.sender
  let receiver := trim input.receiver
  let body := input.text
  if sender = "" then .error "sender is required"
  else if receiver = "" then .error "receiver is required"
  else if 64 < jsLength sender ∨ 64 < jsLength receiver then
    .error "sender and receiver must be at most 64 characters"
  else if 8000 < jsLength body then .error "text must be at most 8000 characters"
  else
    let externalRef := (truthy input.externalRef).map fun ref => clip 190 (trim ref)
    .ok {
      source := source
      dedupeKey := match truthy engineMessageId with
        | some id => some (sqlboxKey id)
        | none => (truthy externalRef).map ("http:" ++ ·)
      engineMessageId := truthy engineMessageId
      externalRef := externalRef
      smscId := (truthy input.smscId).map (clip 64)
      sender := sender
      receiver := receiver
      senderDigits := digitsOrNull sender
      receiverDigits := digitsOrNull receiver
      body := body }

/-- `INSERT … ON CONFLICT (tenant_id, dedupe_key) DO NOTHING`. -/
def ingestInClient (messages : List PreparedInbound) (prepared : PreparedInbound) :
    List PreparedInbound :=
  if prepared.dedupeKey.isSome && messages.any (·.dedupeKey = prepared.dedupeKey) then messages
  else messages ++ [prepared]

/-! ## A sweep -/

/-- What the sweep makes of an engine row. -/
def inputOf (row : SqlboxRow) : IngestInput where
  sender := row.sender.getD ""
  receiver := row.receiver.getD ""
  text := row.msgdata.getD ""
  smscId := row.smscId

/-- The engine's key, as the adapter hands it out. -/
def engineId (row : SqlboxRow) : String := toString row.sqlId

/-- A swept row as it is ingested. -/
def prepareRow (row : SqlboxRow) : Except String PreparedInbound :=
  prepareIngest (inputOf row) .sqlbox (some (engineId row))

/-- What a sweep runs into. -/
structure Conditions where
  /-- The page size asked for. -/
  limit : Option Int := none
  /-- The engine's database answers the probe. -/
  available : Bool := true
  /-- How the transaction that ingests a row ends. -/
  ingest : Nat → Ack := fun _ => .ok
  /-- The process dies before it gets to a row. -/
  dies : Nat → Bool := fun _ => false
  /-- How the transaction that records the sweep ends, which nobody waits for. -/
  record : Ack := .ok

/-- `Math.min(Math.max(Number(limit ?? 200) || 200, 1), 500)`. -/
def sweepLimit (limit : Option Int) : Nat :=
  let asked := limit.getD 200
  (min (max (if asked = 0 then 200 else asked) 1) 500).toNat

/-- How a sweep's loop ends. -/
inductive LoopEnd where
  /-- Every row was ingested, or had been. -/
  | done
  /-- A row's transaction failed. -/
  | stopped (error : String)
  /-- A row was refused, or the process died: the sweep ends with nothing recorded. -/
  | aborted

/-- Where the loop has got to. -/
structure Progress where
  messages : List PreparedInbound
  /-- The highest key ingested so far. -/
  highest : Nat
  ingested : Nat

/-- The loop of a sweep over the fresh rows, the oldest first. -/
def sweepRows (env : Conditions) : List SqlboxRow → Progress → Progress × LoopEnd
  | [], p => (p, .done)
  | row :: rows, p =>
    if env.dies row.sqlId then (p, .aborted)
    else match prepareRow row with
      -- thrown outside the `try`
      | .error _ => (p, .aborted)
      | .ok prepared =>
        let messages := ingestInClient p.messages prepared
        match env.ingest row.sqlId with
        | .ok => sweepRows env rows {
            messages := messages
            highest := max p.highest row.sqlId
            ingested := p.ingested + (messages.length - p.messages.length) }
        | .lost error => ({ p with messages := messages },
            .stopped ("row " ++ engineId row ++ ": " ++ error))
        | .refused error => (p, .stopped ("row " ++ engineId row ++ ": " ++ error))

/-- The engine's log, and the platform's side of it. -/
structure State where
  /-- `sent_sms`. -/
  sent : EngineTable
  /-- `mo_messages`. -/
  messages : List PreparedInbound
  /-- `mo_ingest_state.watermark_sql_id`. -/
  watermark : Nat
  lastError : Option String
  ingestedTotal : Nat

/-- `recordSweep`: the watermark never goes down, and a failure to record is ignored. -/
def recordSweep (s : State) (ack : Ack) (watermark : Option Nat) (error : Option String)
    (ingested : Nat) : State :=
  if ack.committed then { s with
    watermark := max s.watermark (watermark.getD 0)
    lastError := error
    ingestedTotal := s.ingestedTotal + ingested }
  else s

/-- What the sweep asks the engine for. -/
def sweepOptions (binds : List String) (limit : Nat) : SqlboxListOptions :=
  { direction := some "MO", limit := some limit, allowedSmscIds := some binds }

/-- `BigInt` order, ascending. -/
def bySqlIdAsc (a b : SqlboxRow) : Bool := a.sqlId ≤ b.sqlId

/-- The rows of the page above the watermark, the oldest first. -/
def freshRows (watermark : Nat) (items : List ClassifiedRow) : List SqlboxRow :=
  ((items.map ClassifiedRow.row).filter fun r => decide (watermark < r.sqlId)).insertionSort
    (bySqlIdAsc · ·)

/-- One sweep of the engine's log for a tenant that owns `binds`. -/
def sweep (text : TextEngine) (binds : List String) (env : Conditions) (s : State) : State :=
  if !env.available then recordSweep s env.record none (some "engine unavailable") 0
  else if binds.isEmpty then recordSweep s env.record none (some "tenant has no SMSC definitions") 0
  else match list text s.sent.rows (sweepOptions binds (sweepLimit env.limit)) with
    | .error _ => s
    | .ok page =>
      let (p, ending) := sweepRows env (freshRows s.watermark page.items)
        ⟨s.messages, s.watermark, 0⟩
      let s' := { s with messages := p.messages }
      match ending with
      | .done => recordSweep s' env.record (some p.highest) none p.ingested
      | .stopped error => recordSweep s' env.record (some p.highest) (some error) 0
      | .aborted => s'

/-! ## The machine -/

/-- A new row of the log, numbered above every row there is. -/
def grow (t : EngineTable) (row : SqlboxRow) : Option EngineTable :=
  if h : (∀ r ∈ t.rows, r.sqlId < row.sqlId) ∧ 0 < row.sqlId ∧ row.sqlId ≤ MAX_SAFE_INTEGER then
    some {
      rows := t.rows ++ [row]
      distinct := by
        rw [List.map_append, List.nodup_append]
        refine ⟨t.distinct, by simp, ?_⟩
        intro a ha b hb heq
        obtain ⟨r, hr, rfl⟩ := List.mem_map.mp ha
        have hb' : b = row.sqlId := by simpa using hb
        have := h.1 r hr
        omega
      serial := by
        intro r hr
        rcases List.mem_append.mp hr with hr | hr
        · exact t.serial r hr
        · rw [List.mem_singleton.mp hr]
          exact h.2 }
  else none

/-- How a message comes in. -/
inductive Action where
  /-- The engine logs a row. -/
  | grow (row : SqlboxRow)
  /-- A message is pushed over HTTP. -/
  | push (input : IngestInput)
  /-- A sweep runs. -/
  | sweep (env : Conditions)

/-- What one action does. -/
def step (text : TextEngine) (binds : List String) (s : State) : Action → Option State
  | .grow row => (grow s.sent row).map fun t => { s with sent := t }
  | .push input => match prepareIngest input .http none with
    | .error _ => none
    | .ok prepared => some { s with messages := ingestInClient s.messages prepared }
  | .sweep env => some (sweep text binds env s)

/-- Ingest as a transition system. -/
def inbound (text : TextEngine) (binds : List String) : Transition.System State Action :=
  ⟨step text binds⟩

/-- An empty log and nothing ingested. -/
def init : State := ⟨⟨[], List.nodup_nil, Engine.serial_nil⟩, [], 0, none, 0⟩

end Jkannel.Messaging.Mo
