import Jkannel.Engine.Submission
import Jkannel.Messaging.Blocklist
import Jkannel.Messaging.ContentFilter
import Jkannel.Messaging.Entitlements
import Jkannel.Messaging.Scheduling

/-!
# The send path

Every message out goes through `send`: a console send, an API call, a campaign, a replay, an
automatic retry and the release of a hold differ in the request only.  One transaction of the
tenant's database surrounds everything, and somewhere in it one row is written into the engine's
database, which is another.

* `admitMessage` is what comes before the engine: rate limit, duplicate control, blocklist, content
  filter, the choice of the bind, what the routing rule does to the message, the entitlements, and
  the decision row.
* `finish` is what comes after it: the decision's reference to the spooled row, the audit row, the
  stamp on the dedupe key, and the caller's own `onSubmitted`.
* `send` runs the two around the submission and cleans up: a refused send releases its dedupe key
  and leaves a row saying why.

Any statement can fail (`Faults`), and the insert into the spool can end in any of the three ways an
`Ack` knows.  A statement that fails aborts the tenant's transaction, also where the code catches
the error.  The commit itself does not fail.
-/

namespace Jkannel.Messaging.Send

open Jkannel.Routing
open Jkannel.Engine
open Transition (Ack)
open Transaction (Client Script transact)

/-! ## Requests, decisions and tables -/

/-- Who asks. -/
structure Actor where
  tenantId : String
  userId : String

inductive SendChannel where
  | console | api | bulk | replay | system

def SendChannel.text : SendChannel → String
  | .console => "console"
  | .api => "api"
  | .bulk => "bulk"
  | .replay => "replay"
  | .system => "system"

inductive DecisionOutcome where
  | routed | explicit | rerouted | rejected | dropped
  deriving DecidableEq

/-- A decision as it is recorded. -/
structure DecisionRecord where
  customerId : Option String
  messageRef : Option Nat
  foreignId : Option String
  channel : SendChannel
  sender : Option String
  destination : String
  destinationRaw : String
  routeId : Option String
  routeName : Option String
  strategy : Option SelectionStrategy
  smscId : Option String
  requestedSmscId : Option String
  fallbackUsed : Bool
  outcome : DecisionOutcome
  reason : String
  availableSmscIds : List String
  candidatesConsidered : Nat
  trace : List String
  contentRuleId : Option String
  contentRuleName : Option String
  /-- What the routing rule rewrote. -/
  appliedOverrides : Option OverrideSet
  /-- The rule that dropped the message. -/
  droppedByRule : Option String

/-- The decision without a reference to a spooled row. -/
def DecisionRecord.unreferenced (record : DecisionRecord) : DecisionRecord :=
  { record with messageRef := none }

/-- A row of `message_route_decisions`. -/
structure DecisionRow where
  id : Nat
  record : DecisionRecord
  createdBy : String

/-- The tenant's database, as far as a send reads or writes it. -/
structure TenantDb where
  routing : RoutingTables
  accounts : Accounts
  blocklist : List BlocklistRow
  contentRules : List ContentRuleRow
  /-- `tenants.mt_dedupe_window_seconds`; none when the tenant has no row. -/
  dedupeWindowSeconds : Option Int
  dedupeKeys : List DedupeKeyRow
  decisions : List DecisionRow

/-- What a caller does inside the transaction, right before its commit. -/
structure OnSubmitted where
  /-- Whether it issues a statement, which an aborted transaction refuses. -/
  issuesStatement : Bool
  /-- From the ids of the spooled row and the decision. -/
  run : Nat → Nat → TenantDb → Except SendError TenantDb

/-- A message as it is asked for. -/
structure SendRequest where
  sender : Option String
  receiver : String
  text : Option String
  /-- The bind the caller pins, or none to have one chosen. -/
  smscId : Option String
  dlrMask : Option Int
  dlrUrl : Option String
  foreignId : Option String
  customerId : Option String
  channel : SendChannel
  reference : Option String
  operator : Option String
  /-- Let a live bind be chosen when the pinned one is not healthy. -/
  rerouteIfUnavailable : Bool
  cost : Option Rat
  priority : Option Int
  schedule : Option MessageSchedule
  onSubmitted : Option OnSubmitted

/-- What a send returns. -/
structure SendResult where
  sqlId : Nat
  status : String
  source : String
  smscId : String
  destination : String
  routeId : Option String
  routeName : Option String
  strategy : Option SelectionStrategy
  fallbackUsed : Bool
  outcome : DecisionOutcome
  reason : String
  decisionId : Nat
  customerId : Option String
  charged : Rat
  scheduledAtMs : Option Int
  deferredMinutes : Option Int
  validityMinutes : Option Int

/-! ## Around a send -/

/-- What the rate limiter says. -/
structure RateLimitResult where
  allowed : Bool
  retryAfterSeconds : Int
  /-- The counter could not be reached, and the request is let through. -/
  degraded : Bool

/-- The settings, the services outside of both databases, and the clock. -/
structure SendEnv where
  text : TextEngine
  regex : RegexEngine
  sha256 : String → String
  /-- `DEFAULT_COUNTRY_CODE`. -/
  countryCode : Option String
  /-- `MESSAGE_DEFAULT_COST`. -/
  messageDefaultCost : Option Rat
  /-- `CONTENT_FILTER_CACHE_TTL_MS`. -/
  cacheTtlMs : Int
  /-- The service was constructed with duplicate control. -/
  dedupe : Bool
  /-- What the rate limiter answers for a key and a limit. -/
  consumeRate : String → Int → RateLimitResult
  nowMs : Int
  localTime : LocalTime
  today : UtcDate

/-- The points a send can fail at in the tenant's database. -/
inductive SendStep where
  | rateLimit | dedupeWindow | dedupeClaim | blocklist | contentRules | bind | entitlements
  | decision | messageRef | audit | dedupeStamp | release | rejection | settle
  deriving DecidableEq

/-- The steps that fail, each with its error. -/
abbrev Faults := SendStep → Option String

/-- What outlives the transaction: the record of how far the send got, and what the service keeps
in memory. -/
structure Progress where
  forensic : DecisionRecord
  /-- The verdict of the content filter, once there is one. -/
  verdict : Option ContentFilterVerdict
  dedupeSubject : Option DedupeSubject
  dedupeWindow : Int
  dedupeClaimed : Bool
  /-- The counter the rotating strategies turn by. -/
  rotation : Nat
  ruleCache : Option CompiledRuleSet

/-- Where a send is: its transaction, and what outlives it. -/
structure Stage where
  client : Client TenantDb
  progress : Progress

/-- How a send fails, and how far it came. -/
structure Failure where
  error : SendError
  progress : Progress

/-- Throw an exception. -/
def Stage.refuse {α : Type} (st : Stage) (status : Nat) (message : String) : Except Failure α :=
  .error ⟨.http status message, st.progress⟩

/-- Throw what a service threw. -/
def Stage.lift {α : Type} (st : Stage) : Except SendError α → Except Failure α
  | .ok a => .ok a
  | .error e => .error ⟨e, st.progress⟩

/-- Issue the statements of a step. -/
def Stage.statement (st : Stage) (faults : Faults) (step : SendStep) : Except Failure Unit :=
  if st.client.aborted then
    .error ⟨.other ("current transaction is aborted, commands ignored until end of transaction " ++
      "block"), st.progress⟩
  else match faults step with
    | some message => .error ⟨.other message, st.progress⟩
    | none => .ok ()

/-- Write to the tenant's database. -/
def Stage.write (st : Stage) (f : TenantDb → TenantDb) : Stage :=
  { st with client := { st.client with store := f st.client.store } }

def Stage.note (st : Stage) (f : Progress → Progress) : Stage :=
  { st with progress := f st.progress }

/-! ## Before a route is chosen -/

variable (env : SendEnv) (faults : Faults) (actor : Actor) (req : SendRequest)

/-- The limiter's key of a customer. -/
def keyFor (tenantId customerId : String) : String := "customer:" ++ tenantId ++ ":" ++ customerId

/-- The customer's rate per minute. -/
def limitRate (st : Stage) : Except Failure Unit :=
  match Text.truthy req.customerId with
  | none => .ok ()
  | some customerId => do
    st.statement faults .rateLimit
    let customer := st.client.store.accounts.customers.find? fun c => c.id = customerId
    let limit := (customer.map CustomerRow.rateLimitPerMin).getD 0
    if limit ≤ 0 then return
    let result := env.consumeRate (keyFor actor.tenantId customerId) limit
    if result.degraded || result.allowed then return
    st.refuse 429 ("Customer rate limit exceeded: " ++ toString limit ++
      " message(s) per minute (customers.rate_limit_per_min). Retry in " ++
      toString result.retryAfterSeconds ++ "s.")

/-- What the request is a duplicate of. -/
def dedupeSubject (digits : String) : DedupeSubject :=
  ⟨actor.tenantId, req.sender.getD "", digits, req.text.getD "", req.foreignId⟩

/-- The tenant's window.  An error is caught and read as no window, but the transaction is aborted
by it all the same. -/
def windowForInClient (st : Stage) : Int × Stage :=
  if st.client.aborted || (faults .dedupeWindow).isSome then
    (0, { st with client := { st.client with aborted := true } })
  else
    (normalizeWindowSeconds (st.client.store.dedupeWindowSeconds.getD DEFAULT_DEDUPE_WINDOW_SECONDS),
      st)

/-- Claim the key of the request in a window. -/
def claimWindow (digits : String) (window : Int) (st : Stage) : Except Failure Stage := do
  let subject := dedupeSubject actor req digits
  let st := st.note fun p => { p with dedupeSubject := some subject, dedupeWindow := window }
  st.statement faults .dedupeClaim
  let keys ← st.lift (claimInClient env.sha256 st.client.store.dedupeKeys subject window env.nowMs)
  return (st.write fun db => { db with dedupeKeys := keys }).note
    fun p => { p with dedupeClaimed := true }

/-- Duplicate control. -/
def claimDuplicate (digits : String) (st : Stage) : Except Failure Stage :=
  if env.dedupe then
    if 0 < (windowForInClient faults st).1 then
      claimWindow env faults actor req digits (windowForInClient faults st).1
        (windowForInClient faults st).2
    else .ok (windowForInClient faults st).2
  else .ok st

/-- Blacklist, whitelist and do-not-disturb. -/
def assertAllowedInClient (digits : String) (st : Stage) : Except Failure Unit := do
  st.statement faults .blocklist
  let verdict := evaluateInClient st.client.store.blocklist digits req.customerId env.nowMs
  if verdict.allowed then return
  st.refuse 403 (blocklistRefusal verdict)

/-- The rules in force: the cached ones as long as they are fresh. -/
def rulesInForce (contentRules : List ContentRuleRow) (cached : Option CompiledRuleSet) :
    CompiledRuleSet :=
  (freshRules cached env.cacheTtlMs env.nowMs).getD
    (compileRuleSet env.text env.regex contentRules env.nowMs)

/-- Load the rules in force; only a load from the table issues a statement. -/
def loadInClient (st : Stage) : Except Failure (CompiledRuleSet × Stage) := do
  let set := rulesInForce env st.client.store.contentRules st.progress.ruleCache
  if (freshRules st.progress.ruleCache env.cacheTtlMs env.nowMs).isNone then
    st.statement faults .contentRules
  return (set, st.note fun p => { p with ruleCache := some set })

/-- What the content filter is shown: the message as the caller sent it. -/
def filterContext (digits : String) : ContentFilterContext where
  sender := req.sender.getD ""
  recipient := digits
  body := req.text.getD ""
  smscId := none
  customerId := req.customerId

/-- The record of a verdict: the rule that decided, if one did. -/
def contentDecision (verdict : ContentFilterVerdict) (record : DecisionRecord) : DecisionRecord :=
  match verdict.decidedBy with
  | some decided =>
    { record with
      contentRuleId := some decided.ruleId
      contentRuleName := some decided.ruleName }
  | none => record

/-- Filter the content on a bind, or on no bind yet. -/
def filterContent (set : CompiledRuleSet) (digits : String) (smscId : Option String) (st : Stage) :
    Except Failure Stage :=
  let verdict := evaluateContent env.text env.regex set.rules
    { filterContext req digits with smscId := smscId }
  let st := st.note fun p =>
    { p with verdict := some verdict, forensic := contentDecision verdict p.forensic }
  if verdict.allowed then .ok st else st.refuse 403 ("Refused by " ++ verdict.reason)

/-- The filter before a route is chosen, when no rule is for one carrier. -/
def filterBeforeRouting (set : CompiledRuleSet) (digits : String) (st : Stage) :
    Except Failure Stage :=
  if set.hasSmscScopedRules then .ok st else filterContent env req set digits none st

/-- The deferred half of content filtering: the carrier is known now. -/
def filterAfterRouting (set : CompiledRuleSet) (digits smscId : String) (st : Stage) :
    Except Failure Stage :=
  if set.hasSmscScopedRules then filterContent env req set digits (some smscId) st else .ok st

/-! ## Which bind -/

/-- What the choice of a bind adds to the decision. -/
structure BindRecord where
  smscId : Option String
  requestedSmscId : Option String
  routeId : Option String
  routeName : Option String
  strategy : Option SelectionStrategy
  fallbackUsed : Bool
  outcome : DecisionOutcome
  reason : String
  availableSmscIds : List String
  candidatesConsidered : Nat
  trace : List String

/-- The bind of a send, and why. -/
structure ChosenBind where
  smscId : String
  cost : Option Rat
  record : BindRecord
  /-- What the winning rule does; none when the caller named the bind and no rule was consulted. -/
  effect : Option RouteRuleEffect

/-- The bind the caller pins, trimmed, a blank one being none. -/
def SendRequest.requestedSmscId (req : SendRequest) : Option String :=
  Text.truthy (req.smscId.map Text.trim)

/-- The engine's names of the tenant's binds. -/
def tenantSmscScope (tables : RoutingTables) : List String :=
  tables.smscDefinitions.map SmscDefinition.engineId

/-- Ask the routing engine. -/
def resolveRoute (tables : RoutingTables) (digits : String) (rotation : Nat) : SendRouteDecision :=
  resolveInClient env.text tables
    { msisdn := digits
      sender := req.sender
      operator := req.operator
      customerId := req.customerId
      rotation := rotation
      now := env.localTime }

/-- The sentences of a reason, those that are there. -/
def joinReasons (parts : List String) : String := "; ".intercalate (parts.filter (· ≠ ""))

/-- The record of a routing decision. -/
def fromDecision (decision : SendRouteDecision) (outcome : DecisionOutcome)
    (requested : Option String) (extra : String) : BindRecord where
  smscId := decision.result.smscId
  requestedSmscId := requested
  routeId := decision.result.routeId
  routeName := decision.result.routeName
  strategy := decision.result.strategy
  fallbackUsed := decision.result.fallbackUsed
  outcome := outcome
  reason := joinReasons [extra, decision.result.reason,
    if decision.healthAssumed then "bind health unobserved, every enabled bind assumed available"
    else ""]
  availableSmscIds := decision.availableSmscIds
  candidatesConsidered := decision.candidatesConsidered
  trace := decision.result.trace

/-- The bind the caller named. -/
def pinnedBind (requested : String) : ChosenBind where
  smscId := requested
  cost := none
  record :=
    { smscId := some requested
      requestedSmscId := some requested
      routeId := none
      routeName := none
      strategy := none
      fallbackUsed := false
      outcome := .explicit
      reason := "explicit smscId supplied by the caller (" ++ req.channel.text ++ ")"
      availableSmscIds := []
      candidatesConsidered := 0
      trace := ["caller pinned bind " ++ requested] }
  effect := none

/-- Whether a pinned bind is to be replaced by a live one. -/
def wantsReroute (tables : RoutingTables) (requested : String) : Bool :=
  req.rerouteIfUnavailable && !(availability tables).available.contains requested

/-- Which bind: the one the caller pinned, rerouted when it asked for that, or the routing
engine's choice. -/
def chooseBind (tables : RoutingTables) (digits : String) (rotation : Nat) :
    Except SendError ChosenBind :=
  let decision := resolveRoute env req tables digits rotation
  match req.requestedSmscId with
  | some requested =>
    if !(tenantSmscScope tables).contains requested then
      .error (.http 400 "smscId must reference one of your tenant’s SMSCs")
    else if wantsReroute req tables requested then
      match decision.result.smscId with
      | some smscId =>
        .ok { smscId := smscId
              cost := decision.cost
              record := fromDecision decision .rerouted (some requested)
                ("pinned bind " ++ requested ++ " is not bound")
              effect := decision.result.effect }
      | none => .ok (pinnedBind req requested)
    else .ok (pinnedBind req requested)
  | none =>
    match decision.result.smscId with
    | none => .error (.http 400 ("No route is available for " ++ digits ++ ": " ++
        decision.result.reason ++ ". Deploy a matching route or supply an explicit smscId."))
    | some smscId =>
      .ok { smscId := smscId
            cost := decision.cost
            record := fromDecision decision .routed none ""
            effect := decision.result.effect }

/-- Whether the routing engine is asked. -/
def consultsRouting (tables : RoutingTables) : Bool :=
  match req.requestedSmscId with
  | some requested =>
    (tenantSmscScope tables).contains requested && wantsReroute req tables requested
  | none => true

/-- The counter after one more message. -/
def nextRotation (rotation : Nat) : Nat := (rotation + 1) % 1000000

/-- The decision with the choice of the bind in it. -/
def BindRecord.merge (record : BindRecord) (decision : DecisionRecord) : DecisionRecord :=
  { decision with
    smscId := record.smscId
    requestedSmscId := record.requestedSmscId
    routeId := record.routeId
    routeName := record.routeName
    strategy := record.strategy
    fallbackUsed := record.fallbackUsed
    outcome := record.outcome
    reason := record.reason
    availableSmscIds := record.availableSmscIds
    candidatesConsidered := record.candidatesConsidered
    trace := record.trace }

/-- Choose the bind, in the transaction. -/
def chooseBindInClient (digits : String) (st : Stage) : Except Failure (ChosenBind × Stage) := do
  st.statement faults .bind
  let tables := st.client.store.routing
  let rotation := nextRotation st.progress.rotation
  let st := if consultsRouting req tables then st.note fun p => { p with rotation := rotation }
    else st
  let chosen ← st.lift (chooseBind env req tables digits rotation)
  return (chosen, st.note fun p => { p with forensic := chosen.record.merge p.forensic })

/-! ## What the rule does -/

/-- The message as the caller sent it, under its canonical destination. -/
def originalMessage (digits : String) : OutboundMessage :=
  ⟨some (req.sender.getD ""), digits, req.text.getD ""⟩

/-- Apply the rule: the message it leaves, or the refusal of one that drops. -/
def applyEffect (chosen : ChosenBind) (digits : String) (st : Stage) :
    Except Failure (OutboundMessage × Stage) :=
  match applyRouteRule (originalMessage req digits) (chosen.effect.getD .none)
      (chosen.record.routeName.getD "a routing rule") with
  | .drop _ summary =>
    (st.note fun p => { p with forensic :=
      { p.forensic with
        outcome := .dropped
        reason := summary
        droppedByRule := chosen.record.routeName } }).refuse 403 summary
  | .send message overrides summary =>
    .ok (message, match summary with
      | some summary => st.note fun p => { p with forensic :=
          { p.forensic with
            appliedOverrides := some overrides
            reason := joinReasons [p.forensic.reason, summary]
            trace := p.forensic.trace ++ [summary] } }
      | none => st)

/-! ## Entitlements and the decision -/

/-- What the customer is asked. -/
def entitlementCheck (chosen : ChosenBind) (message : OutboundMessage) : EntitlementCheck where
  customerId := req.customerId
  sender := message.sender
  smscId := some chosen.smscId
  routeId := chosen.record.routeId
  count := 1
  cost := req.cost.or chosen.cost
  reference := req.reference.or req.foreignId

/-- Check the customer and charge it. -/
def consumeEntitlements (chosen : ChosenBind) (message : OutboundMessage) (st : Stage) :
    Except Failure (EntitlementOutcome × Stage) := do
  if (Text.truthy req.customerId).isSome then st.statement faults .entitlements
  let (outcome, accounts) ← st.lift (consumeInClient env.messageDefaultCost
    st.client.store.routing st.client.store.accounts env.today (entitlementCheck req chosen message))
  return (outcome, st.write fun db => { db with accounts := accounts })

/-- Nothing was rewritten. -/
def OverrideSet.isEmpty (overrides : OverrideSet) : Bool :=
  overrides.sender.isNone && overrides.recipient.isNone && overrides.text.isNone

/-- The outcomes that the table's CHECK admits; the one of a drop has never been added to them. -/
def CHECKED_OUTCOMES : List DecisionOutcome := [.routed, .explicit, .rerouted, .rejected]

/-- The tenant's database with one more decision, unless the CHECK refuses it. -/
def insertDecision (actor : Actor) (record : DecisionRecord) (db : TenantDb) :
    Except SendError TenantDb :=
  if record.outcome ∈ CHECKED_OUTCOMES then
    .ok { db with decisions := db.decisions ++ [⟨db.decisions.length,
      { record with
        appliedOverrides := record.appliedOverrides.filter fun o => !OverrideSet.isEmpty o },
      actor.userId⟩] }
  else .error (.other ("new row for relation \"message_route_decisions\" violates check " ++
    "constraint \"message_route_decisions_outcome_check\""))

/-- A message that is about to be handed to the engine. -/
structure Admitted where
  stage : Stage
  chosen : ChosenBind
  message : OutboundMessage
  outcome : EntitlementOutcome
  decisionId : Nat

/-- Everything before the engine. -/
def admitMessage (digits : String) (st : Stage) : Except Failure Admitted := do
  limitRate env faults actor req st
  let st ← claimDuplicate env faults actor req digits st
  assertAllowedInClient env faults req digits st
  let (set, st) ← loadInClient env faults st
  let st ← filterBeforeRouting env req set digits st
  let (chosen, st) ← chooseBindInClient env faults req digits st
  let (message, st) ← applyEffect req chosen digits st
  let st ← filterAfterRouting env req set digits chosen.smscId st
  let (outcome, st) ← consumeEntitlements env faults req chosen message st
  st.statement faults .decision
  let db ← st.lift (insertDecision actor st.progress.forensic.unreferenced st.client.store)
  return { stage := st.write fun _ => db
           chosen := chosen
           message := message
           outcome := outcome
           decisionId := st.client.store.decisions.length }

/-! ## The engine, and after it -/

/-- `send_sms.deferred` at this instant. -/
def deferredMinutes : Option Int :=
  (req.schedule.bind MessageSchedule.scheduledAtMs).map fun t => deferredMinutesFor t env.nowMs

def validityMinutes : Option Int := req.schedule.bind MessageSchedule.validityMinutes

/-- The receiver as it is written: the number with its plus, unless a rule rewrote it. -/
def wireReceiver (digits : String) (e164 : Option String) (message : OutboundMessage) : String :=
  if message.recipient = digits then e164.getD message.recipient else message.recipient

/-- What is handed to the engine. -/
def submission (digits : String) (e164 : Option String) (chosen : ChosenBind)
    (message : OutboundMessage) : SqlboxSubmission where
  sender := message.sender.getD ""
  receiver := wireReceiver digits e164 message
  text := message.text
  smscId := some chosen.smscId
  dlrMask := req.dlrMask
  dlrUrl := req.dlrUrl
  foreignId := req.foreignId
  deferredMinutes := deferredMinutes env req
  validityMinutes := validityMinutes req
  priority := req.priority

/-- Hand the message to the engine. -/
def submitAdmitted (ack : Ack) (digits : String) (e164 : Option String) (a : Admitted)
    (spool : Spool) : Except Failure SqlboxQueued × Spool :=
  match submit ack (env.nowMs / 1000) (submission env req digits e164 a.chosen a.message) spool with
  | (.ok queued, spool) => (.ok queued, spool)
  | (.error (.badRequest message), spool) => (.error ⟨.http 400 message, a.stage.progress⟩, spool)
  | (.error (.statement message), spool) => (.error ⟨.other message, a.stage.progress⟩, spool)

/-- The decision points at the spooled row. -/
def setMessageRef (decisionId sqlId : Nat) (db : TenantDb) : TenantDb :=
  { db with decisions := db.decisions.map fun row =>
      if row.id = decisionId then
        { row with record := { row.record with messageRef := some sqlId } }
      else row }

/-- The audit row of a send. -/
def insertAudit (sqlId : Nat) (db : TenantDb) : TenantDb :=
  { db with accounts := { db.accounts with
      auditLog := db.accounts.auditLog ++ [⟨"message.submitted", "message", toString sqlId⟩] } }

/-- Stamp the dedupe key.  An error is caught, but the transaction is aborted by it all the same. -/
def stamp (sqlId : Nat) (st : Stage) : Stage :=
  match st.progress.dedupeSubject with
  | some subject =>
    if env.dedupe && decide (0 < st.progress.dedupeWindow) then
      if st.client.aborted || (faults .dedupeStamp).isSome then
        { st with client := { st.client with aborted := true } }
      else st.write fun db =>
        { db with dedupeKeys := stampInClient env.sha256 db.dedupeKeys subject (toString sqlId) }
    else st
  | none => st

/-- The caller's part. -/
def runOnSubmitted (sqlId decisionId : Nat) (st : Stage) : Except Failure Stage :=
  match req.onSubmitted with
  | none => .ok st
  | some callback =>
    if callback.issuesStatement && st.client.aborted then
      .error ⟨.other ("current transaction is aborted, commands ignored until end of " ++
        "transaction block"), st.progress⟩
    else do
      let db ← st.lift (callback.run sqlId decisionId st.client.store)
      return st.write fun _ => db

/-- What the caller is told. -/
def sendResult (a : Admitted) (queued : SqlboxQueued) : SendResult :=
  let record := a.stage.progress.forensic
  { sqlId := queued.sqlId
    status := queued.status
    source := queued.source
    smscId := a.chosen.smscId
    destination := a.message.recipient
    routeId := record.routeId
    routeName := record.routeName
    strategy := record.strategy
    fallbackUsed := record.fallbackUsed
    outcome := record.outcome
    reason := record.reason
    decisionId := a.decisionId
    customerId := a.outcome.customerId
    charged := a.outcome.charged
    scheduledAtMs := req.schedule.bind MessageSchedule.scheduledAtMs
    deferredMinutes := deferredMinutes env req
    validityMinutes := validityMinutes req }

/-- Everything after the engine. -/
def finish (a : Admitted) (queued : SqlboxQueued) (st : Stage) :
    Except Failure (SendResult × Stage) := do
  st.statement faults .messageRef
  let st := st.write (setMessageRef a.decisionId queued.sqlId)
  st.statement faults .audit
  let st := stamp env faults queued.sqlId (st.write (insertAudit queued.sqlId))
  let st ← runOnSubmitted req queued.sqlId a.decisionId st
  return (sendResult env req a queued, st)

/-! ## The whole send -/

/-- Both databases, and what the service keeps in memory. -/
structure Sys where
  db : TenantDb
  spool : Spool
  rotation : Nat
  ruleCache : Option CompiledRuleSet

/-- The record of a send nothing has been decided about. -/
def baseRecord (digits : String) : DecisionRecord where
  customerId := req.customerId
  messageRef := none
  foreignId := req.foreignId
  channel := req.channel
  sender := Text.truthy (some (req.sender.getD ""))
  destination := digits
  destinationRaw := req.receiver
  routeId := none
  routeName := none
  strategy := none
  smscId := none
  requestedSmscId := req.requestedSmscId
  fallbackUsed := false
  outcome := .rejected
  reason := ""
  availableSmscIds := []
  candidatesConsidered := 0
  trace := []
  contentRuleId := none
  contentRuleName := none
  appliedOverrides := none
  droppedByRule := none

/-- What is known before the first check. -/
def initialProgress (sys : Sys) (digits : String) : Progress where
  forensic := baseRecord req digits
  verdict := none
  dedupeSubject := none
  dedupeWindow := 0
  dedupeClaimed := false
  rotation := sys.rotation
  ruleCache := sys.ruleCache

/-- The body of the transaction, around the insert into the spool. -/
def script (ack : Ack) (progress : Progress) (digits : String) (e164 : Option String) :
    Script TenantDb Spool Failure (SendResult × Progress) Admitted SqlboxQueued where
  before client := do
    let a ← admitMessage env faults actor req digits ⟨client, progress⟩
    return (a, a.stage.client)
  effect a spool := submitAdmitted env req ack digits e164 a spool
  after a queued client := do
    let (result, st) ← finish env faults req a queued ⟨client, a.stage.progress⟩
    return ((result, st.progress), st.client)

/-- Give the dedupe key of a failed send back, in a transaction of its own whose errors are
ignored.  The key of a duplicate belongs to the earlier submission and stays. -/
def releaseKey (failure : Failure) (db : TenantDb) : TenantDb :=
  match failure.progress.dedupeSubject with
  | some subject =>
    if failure.progress.dedupeClaimed && !failure.error.isConflict && (faults .release).isNone then
      { db with dedupeKeys := releaseInClient env.sha256 db.dedupeKeys subject }
    else db
  | none => db

/-- The record of a refusal. -/
def rejectionRecord (failure : Failure) : DecisionRecord :=
  let forensic := failure.progress.forensic
  { forensic with
    outcome := if forensic.outcome = .dropped then .dropped else .rejected
    messageRef := none
    reason := (if forensic.reason = "" then "refused: " else forensic.reason ++ "; refused: ") ++
      failure.error.message }

/-- Record a refused send in a transaction of its own, whose errors are ignored. -/
def recordRejection (failure : Failure) (db : TenantDb) : TenantDb :=
  if (faults .rejection).isNone then
    (insertDecision actor (rejectionRecord failure) db).toOption.getD db
  else db

/-- The bookkeeping of the content filter, whose errors are ignored. -/
def settleFilter (progress : Progress) (sys : Sys) : Sys :=
  match progress.verdict with
  | some verdict =>
    if (faults .settle).isNone then
      { sys with
        db := { sys.db with contentRules := settle sys.db.contentRules verdict env.nowMs }
        ruleCache := if verdict.overBudgetRuleIds = [] then sys.ruleCache else none }
    else sys
  | none => sys

/-- Submit one message.  `ack` is how the insert into the spool ends, should it come to it. -/
def send (ack : Ack) (sys : Sys) : Except SendError SendResult × Sys :=
  let normalized := normalizeMsisdn env.countryCode req.receiver
  match normalized.digits with
  | none => (.error (.http 400 (describeMsisdnProblem normalized)), sys)
  | some digits =>
    let out := transact (script env faults actor req ack (initialProgress req sys digits) digits
      normalized.e164).body sys.db sys.spool
    match out.1 with
    | .ok (result, progress) =>
      (.ok result, settleFilter env faults progress
        ⟨out.2.1, out.2.2, progress.rotation, progress.ruleCache⟩)
    | .error failure =>
      (.error failure.error, settleFilter env faults failure.progress
        ⟨recordRejection faults actor failure (releaseKey env faults failure out.2.1), out.2.2,
          failure.progress.rotation, failure.progress.ruleCache⟩)

/-! ## A plain deployment -/

/-- A deployment with nothing configured and no duplicate control, at one in the morning of a
Thursday. -/
def SendEnv.plain : SendEnv where
  text := .ascii
  regex := .never
  sha256 := id
  countryCode := none
  messageDefaultCost := none
  cacheTtlMs := 15000
  dedupe := false
  consumeRate _ _ := ⟨true, 0, false⟩
  nowMs := 3600000
  localTime := ⟨4, 1, 0⟩
  today := ⟨1970, 1, 1⟩

/-- A tenant whose only bind has the engine's name `mtn`. -/
def TenantDb.oneBind (enabled : Bool) (suspendedAt : Option Int) : TenantDb where
  routing := ⟨[⟨"smsc-1", "mtn", enabled, suspendedAt⟩], [], [], []⟩
  accounts := ⟨[], [], [], [], [], []⟩
  blocklist := []
  contentRules := []
  dedupeWindowSeconds := some 0
  dedupeKeys := []
  decisions := []

/-- A request of the console for `text` to `receiver`. -/
def SendRequest.console (receiver text : String) (smscId : Option String) : SendRequest where
  sender := some "INFO"
  receiver := receiver
  text := some text
  smscId := smscId
  dlrMask := none
  dlrUrl := none
  foreignId := none
  customerId := none
  channel := .console
  reference := none
  operator := none
  rerouteIfUnavailable := false
  cost := none
  priority := none
  schedule := none
  onSubmitted := none

/-- An empty spool beside a tenant's database. -/
def Sys.fresh (db : TenantDb) : Sys := ⟨db, ⟨[], 1, by simp⟩, 0, none⟩

end Jkannel.Messaging.Send
