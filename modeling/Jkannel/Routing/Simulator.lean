import Jkannel.Routing.Archive
import Jkannel.Routing.SelectionSpec

/-!
# The route simulator

An operator asks where a message would go, and is answered by the selector that sends messages, over
another reading of the same tables.

* `routeSimulationData`, `evaluate` and `simulate` are that reading: seven columns of a route, all of
  them taken for static routes that prefer their primary, and the binds that the console believes in.
* `Agrees` is the promise: the answer is what `resolveInClient` decides for a message of no
  customer, and there is none just when that finds no bind.
* `readAs` and `applies` are how narrowly each side takes a row of the table to apply, and
  `ComesFirst` which row controls by a reading.
* `Answers` and `Carries` are what the tables hold for either side: a row that comes first, and a
  bind of it that is in service.  `Predicted` compares the two.
* `simulation_predicts` says when the promise is kept.  `simulation_misleads` is a route out of its
  hours, which the simulator still answers with.
-/

namespace Jkannel.Routing.Simulator

open Option (map_eq_some_iff some.inj some_ne_none)
open List
open Jkannel.Routing.Archive (SmscRecord LifecycleState)
open Text (truthy trim)
open TextEngine (ascii)

/-! ## The tables -/

/-- What the simulator and the send path read, with the keys of its tables. -/
structure SimulationTables where
  smscDefinitions : List SmscRecord
  bindStates : List SmscBindState
  routingRules : List RouteRow
  customerRoutes : List CustomerRouteRow
  ids : (smscDefinitions.map fun d => d.id).Nodup
  engineIds : (smscDefinitions.map fun d => d.engineId).Nodup
  rules : (routingRules.map fun row => row.route.id).Nodup
  ruleIds : ∀ row ∈ routingRules, row.route.id ≠ ""

/-- The tables as the send path reads them. -/
def SimulationTables.routing (tables : SimulationTables) : RoutingTables where
  smscDefinitions := tables.smscDefinitions.map SmscRecord.toSmscDefinition
  bindStates := tables.bindStates
  routingRules := tables.routingRules
  customerRoutes := tables.customerRoutes

/-! ## The simulator -/

/-- A route, as the simulator has it. -/
structure RouteRule where
  id : String
  priority : Int
  enabled : Bool
  destinationPrefix : Option String
  sender : Option String
  targetSmscId : String
  fallbackSmscId : Option String

/-- What the simulator is given. -/
structure RouteContext where
  messageId : String
  destination : String
  sender : Option String
  now : LocalTime
  healthySmscIds : List String

/-- What it decided. -/
structure RouteDecision where
  messageId : String
  ruleId : String
  smscId : String
  reason : String

/-- The seven columns of a route. -/
def ruleOf (route : CandidateRoute) : RouteRule where
  id := route.id
  priority := route.priority
  enabled := route.enabled
  destinationPrefix := route.destinationPrefix
  sender := route.sender
  targetSmscId := route.targetSmscId
  fallbackSmscId := route.fallbackSmscId

/-- What it reads of the tables. -/
structure SimulationData where
  routes : List RouteRule
  undeployed : List (RouteRule × DeploymentState)
  /-- The ids of the binds that are taken to be healthy. -/
  smscs : List String

def UNHEALTHY_STATES : List LifecycleState := [.disabled, .archived, .degraded]

/-- `ORDER BY priority, id`. -/
def orderByPriority (env : TextEngine) (rows : List RouteRow) : List RouteRow :=
  rows.insertionSort fun a b =>
    (compare a.route.priority b.route.priority).then (env.collate a.route.id b.route.id) ≠ .gt

/-- The routes the simulator evaluates, the ones it warns about, and the binds. -/
def routeSimulationData (env : TextEngine) (tables : SimulationTables) : SimulationData where
  routes := (orderByPriority env (tables.routingRules.filter fun row =>
    row.deploymentState = .deployed)).map fun row => ruleOf row.route
  undeployed := (orderByPriority env (tables.routingRules.filter fun row =>
    row.deploymentState ≠ .deployed)).map fun row => (ruleOf row.route, row.deploymentState)
  smscs := (tables.smscDefinitions.filter fun d =>
    d.enabled && !UNHEALTHY_STATES.contains d.lifecycleState).map fun d => d.id

/-- A rule as the selector is given it. -/
def toCandidate (rule : RouteRule) : CandidateRoute where
  id := rule.id
  -- the legacy shape carries no name
  name := rule.id
  priority := rule.priority
  enabled := rule.enabled
  routeType := .static
  strategy := .priority
  matchPrefix := none
  countryCode := none
  operator := none
  destinationPrefix := rule.destinationPrefix
  sender := rule.sender
  cost := none
  targetSmscId := rule.targetSmscId
  fallbackSmscId := rule.fallbackSmscId
  targets := []
  window := none
  action := .route
  overrideSender := none
  overrideRecipient := none
  overrideText := none
  dropReason := none

def simulationContext (context : RouteContext) : SelectionContext where
  msisdn := context.destination
  sender := context.sender
  operator := none
  now := context.now
  availableSmscIds := some context.healthySmscIds
  rotation := 0

/-- `RoutingService.evaluate`. -/
def evaluate (env : TextEngine) (context : RouteContext) (rules : List RouteRule) :
    Except String RouteDecision :=
  let result := selectRoute env (rules.map toCandidate) (simulationContext context)
  match truthy result.smscId, truthy result.routeId with
  | some smscId, some ruleId =>
    .ok {
      messageId := context.messageId
      ruleId
      smscId
      reason :=
        if result.fallbackUsed then "primary unavailable; fallback selected" else result.reason }
  | _, _ => .error "No eligible route"

/-- The body of the request, and the instant it is answered at. -/
structure SimulateRequest where
  destination : String
  sender : Option String
  messageId : Option String
  now : LocalTime

/-- A route that would match if it were deployed. -/
structure NotInForce where
  id : String
  priority : Int
  destinationPrefix : Option String
  targetSmscId : String
  deploymentState : DeploymentState

/-- What the console is sent. -/
structure SimulateAnswer where
  decision : RouteDecision
  notInForce : List NotInForce
  notInForceNote : Option String

/-- A text that the request must hold. -/
def text (value name : String) : Except String String :=
  if trim value = "" then .error (name ++ " is required") else .ok (trim value)

/-- A destination without its plus. -/
def withoutPlus (destination : String) : List Char :=
  match destination.toList with
  | '+' :: rest => rest
  | cs => cs

/-- `/^\+?[0-9]{3,20}$/`. -/
def isE164Like (destination : String) : Bool :=
  let digits := withoutPlus destination
  3 ≤ digits.length && digits.length ≤ 20 && digits.all fun c => '0' ≤ c && c ≤ '9'

/-- The hint about a route that is not deployed: its prefix and its sender, compared as they are. -/
def wouldMatch (destination : String) (sender : Option String) (rule : RouteRule) : Bool :=
  (rule.destinationPrefix.getD "").toList.isPrefixOf (withoutPlus destination) &&
    ((truthy rule.sender).isNone || rule.sender = sender)

/-- The decision, with the routes that are not in force and would match. -/
def simulateAnswer (data : SimulationData) (destination : String) (sender : Option String)
    (decision : RouteDecision) : SimulateAnswer :=
  let blocked := data.undeployed.filter fun row => wouldMatch destination sender row.1
  { decision
    notInForce := blocked.map fun row =>
      ⟨row.1.id, row.1.priority, row.1.destinationPrefix, row.1.targetSmscId, row.2⟩
    notInForceNote :=
      if blocked = [] then none
      else some (toString blocked.length ++ " route(s) match this destination but are not " ++
        "deployed, so the send path ignores them. Deploy a route to make it take effect.") }

/-- `POST /routes/simulate`; `messageId` is the id that is made up for a request without one. -/
def simulate (env : TextEngine) (tables : SimulationTables) (messageId : String)
    (request : SimulateRequest) : Except String SimulateAnswer := do
  let destination ← text request.destination "destination"
  if !isE164Like destination then .error "destination must be an E.164-like address"
  let data := routeSimulationData env tables
  let messageId ← text (request.messageId.getD messageId) "messageId"
  let decision ← evaluate env ⟨messageId, destination, request.sender, request.now, data.smscs⟩
    data.routes
  return simulateAnswer data destination request.sender decision

/-! ## The promise -/

/-- The same message, of no customer, on the send path. -/
def sendContext (request : SimulateRequest) : SendRouteContext where
  msisdn := request.destination
  sender := request.sender
  operator := none
  customerId := none
  rotation := 0
  now := request.now

/-- The simulator answers with a route and a bind. -/
def Reports (env : TextEngine) (tables : SimulationTables) (messageId : String)
    (request : SimulateRequest) (ruleId smscId : String) : Prop :=
  ∃ answer, simulate env tables messageId request = .ok answer ∧
    answer.decision.ruleId = ruleId ∧ answer.decision.smscId = smscId

/-- **What is promised**: the simulator reports what the send path decides, and fails when that
finds no bind. -/
structure Agrees (env : TextEngine) (tables : SimulationTables) (messageId : String)
    (request : SimulateRequest) : Prop where
  reports : ∀ ruleId smscId, Reports env tables messageId request ruleId smscId ↔
    ∃ d ∈ tables.smscDefinitions, d.id = smscId ∧
      (resolveInClient env tables.routing (sendContext request)).result.routeId = some ruleId ∧
      (resolveInClient env tables.routing (sendContext request)).result.smscId = some d.engineId
  fails : (∃ message, simulate env tables messageId request = .error message) ↔
    (resolveInClient env tables.routing (sendContext request)).result.smscId = none

/-! ## When it is kept -/

/-- The simulator takes the request. -/
def Accepted (messageId : String) (request : SimulateRequest) : Prop :=
  isE164Like (trim request.destination) ∧
    trim (request.messageId.getD messageId) ≠ ""

/-- What the simulator tells the selector of a message. -/
def simulated (env : TextEngine) (tables : SimulationTables) (request : SimulateRequest) :
    SelectionContext :=
  simulationContext ⟨"", trim request.destination, request.sender, request.now,
    (routeSimulationData env tables).smscs⟩

/-- What the send path tells it. -/
def sent (tables : SimulationTables) (request : SimulateRequest) : SelectionContext :=
  selectionContext tables.routing (sendContext request)

/-! ### Which route controls -/

/-- The order in which routes control: the narrowest first, then by priority, then by name. -/
def compareReadings (env : TextEngine) (name : RouteRow → String) (a b : RouteRow × Nat) :
    Ordering :=
  (compare b.2 a.2).then <|
    (compare a.1.route.priority b.1.route.priority).then (env.localeCompare (name a.1) (name b.1))

/-- The rows that apply by a reading, each with how narrowly. -/
def readings (reading : RouteRow → Option Nat) (rows : List RouteRow) : List (RouteRow × Nat) :=
  rows.filterMap fun row => (reading row).map fun k => (row, k)

/-- The row controls by a reading: none that applies goes before it. -/
def ComesFirst (env : TextEngine) (name : RouteRow → String) (reading : RouteRow → Option Nat)
    (rows : List RouteRow) (row : RouteRow) : Prop :=
  ∃ k, Ranking.Leads (compareReadings env name) (readings reading rows) (row, k)

/-- How narrowly a route applies, as the simulator reads it: by its destination prefix and its sender
alone. -/
def readAs (env : TextEngine) (tables : SimulationTables) (request : SimulateRequest)
    (row : RouteRow) : Option Nat :=
  if row.route.enabled then
    matchSpecificity env (toCandidate (ruleOf row.route)) (simulated env tables request)
  else none

/-- The name that the engine has for a bind, if the bind is enabled and not suspended. -/
def liveName (tables : SimulationTables) (id : String) : Option String :=
  truthy (byId (availability tables.routing).rows id)

/-- How narrowly it does apply: while its target is live, in its hours, and as its type says. -/
def applies (env : TextEngine) (tables : SimulationTables) (request : SimulateRequest)
    (row : RouteRow) : Option Nat :=
  if (liveName tables row.route.targetSmscId).isSome && row.route.enabled &&
      isWithinWindow row.route.window request.now then
    matchSpecificity env row.route (sent tables request)
  else none

/-- The rows that the simulator looks at, as it orders them. -/
def simulatedRows (env : TextEngine) (tables : SimulationTables) : List RouteRow :=
  orderByPriority env (tables.routingRules.filter fun row => row.deploymentState = .deployed)

/-- The rows that the send path looks at, as it orders them. -/
def sentRows (env : TextEngine) (tables : SimulationTables) : List RouteRow :=
  (tables.routingRules.filter fun row =>
    row.route.enabled && decide (row.deploymentState = .deployed)).insertionSort fun a b =>
      (compare a.route.priority b.route.priority).then (env.collate a.route.name b.route.name) ≠ .gt

/-! ### Which bind it has -/

/-- A bind that the simulator takes to be healthy: enabled, and by its lifecycle. -/
def isHealthy (tables : SimulationTables) (id : String) : Bool :=
  id ≠ "" && tables.smscDefinitions.any fun d =>
    d.id = id && (d.enabled && !UNHEALTHY_STATES.contains d.lifecycleState)

/-- A route as the send path reads it: targets belong to the weighted ones. -/
def loaded (row : RouteRow) : CandidateRoute :=
  { row.route with targets := if row.route.routeType = .weighted then row.route.targets else [] }

/-- A route as the send path has it: its live binds, by the engine's names. -/
def sentRoute (tables : SimulationTables) (row : RouteRow) : CandidateRoute :=
  { row.route with
    targetSmscId := (liveName tables row.route.targetSmscId).getD ""
    fallbackSmscId := (truthy row.route.fallbackSmscId).bind
      (byId (availability tables.routing).rows)
    targets := (loaded row).targets.filterMap fun target =>
      (liveName tables target.smscId).map fun engineId => { target with smscId := engineId } }

/-- The binds of a route that are up. -/
def upBinds (tables : SimulationTables) (request : SimulateRequest) (row : RouteRow) :
    List SmscCandidate :=
  reachable (routeCandidates (sentRoute tables row)) (sent tables request)

/-- The bind that a row comes to on the send path: the first of its own that is up, or under
least-cost the cheapest that is up of all the rows that apply. -/
def ComesTo (env : TextEngine) (tables : SimulationTables) (request : SimulateRequest)
    (row : RouteRow) (engineId : String) : Prop :=
  if row.route.strategy = .leastCost then
    ∃ c, c.smscId = engineId ∧ Ranking.Leads (compareCost env)
      (((readings (applies env tables request) (sentRows env tables)).insertionSort
        (compareReadings env (fun row => row.route.name) · · ≠ .gt)).flatMap
          fun r => upBinds tables request r.1) c
  else (upBinds tables request row).head?.map SmscCandidate.smscId = some engineId

/-- **What the tables hold for the simulator**: it takes the request, the row comes first by prefix
and sender, and of the row's target and fallback the bind is the first that is healthy. -/
structure Answers (env : TextEngine) (tables : SimulationTables) (messageId : String)
    (request : SimulateRequest) (row : RouteRow) (id : String) : Prop where
  accepted : Accepted messageId request
  first : ComesFirst env (fun row => row.route.id) (readAs env tables request)
    (simulatedRows env tables) row
  bind : (row.route.targetSmscId :: (truthy row.route.fallbackSmscId).toList).find?
    (isHealthy tables) = some id

/-- **What they hold for the send path**: there is something to dial, the row comes first of those
that apply, and its strategy comes to the bind. -/
structure Carries (env : TextEngine) (tables : SimulationTables) (request : SimulateRequest)
    (row : RouteRow) (engineId : String) : Prop where
  dialled : digitsOnly (some request.destination) ≠ ""
  first : ComesFirst env (fun row => row.route.name) (applies env tables request)
    (sentRows env tables) row
  bind : ComesTo env tables request row engineId

/-- **The condition** on the tables and the request: a row and a bind that answer also carry, and
where none answer none carry. -/
structure Predicted (env : TextEngine) (tables : SimulationTables) (messageId : String)
    (request : SimulateRequest) : Prop where
  answered : ∀ row id, Answers env tables messageId request row id →
    ∃ d ∈ tables.smscDefinitions, d.id = id ∧ Carries env tables request row d.engineId
  unanswered : (¬ ∃ row id, Answers env tables messageId request row id) →
    ¬ ∃ row engineId, Carries env tables request row engineId

/-! ## Rows and candidates

A candidate is a row with its binds renamed, which neither the matching nor the order looks at. -/

section Readings

variable {env : TextEngine} {routes : List CandidateRoute} {ctx : SelectionContext}
variable {name : RouteRow → String} {reading : RouteRow → Option Nat} {rows : List RouteRow}

instance [Std.TransCmp env.localeCompare] : Std.TransCmp (compareReadings env name) :=
  Ranking.transCmp_on (compareMatches env) fun a : RouteRow × Nat =>
    ({ a.1.route with name := name a.1 }, a.2)

/-- The routes that match are the rows that apply, in one order. -/
theorem matchedRoutes_readings (candidate : RouteRow → CandidateRoute) (name : RouteRow → String)
    (hpriority : ∀ row, (candidate row).priority = row.route.priority)
    (hname : ∀ row, (candidate row).name = name row)
    (happlies : applicable env routes ctx =
      (readings reading rows).map fun r => (candidate r.1, r.2)) :
    matchedRoutes env routes ctx =
      ((readings reading rows).insertionSort (compareReadings env name · · ≠ .gt)).map
        fun r => (candidate r.1, r.2) := by
  rw [matchedRoutes, happlies]
  refine (map_insertionSort _ _ _ _ fun a _ b _ => ?_).symm
  rw [compareMatches, hpriority, hpriority, hname, hname, compareReadings]

/-- The route that controls is the row that comes first. -/
theorem controlling_readings [Std.TransCmp env.localeCompare]
    (candidate : RouteRow → CandidateRoute) (p : CandidateRoute → Prop)
    (hmatched : matchedRoutes env routes ctx =
      ((readings reading rows).insertionSort (compareReadings env name · · ≠ .gt)).map
        fun r => (candidate r.1, r.2)) :
    (∃ controlling ∈ (matchedRoutes env routes ctx).head?, p controlling.1) ↔
      ∃ row, ComesFirst env name reading rows row ∧ p (candidate row) := by
  rw [hmatched, head?_map]
  constructor
  · rintro ⟨controlling, hhead, hp⟩
    obtain ⟨⟨row, k⟩, hfirst, rfl⟩ := map_eq_some_iff.mp hhead
    exact ⟨row, ⟨k, Ranking.head?_insertionSort_iff.mp hfirst⟩, hp⟩
  · rintro ⟨row, ⟨k, hleads⟩, hp⟩
    exact ⟨_, map_eq_some_iff.mpr ⟨_, Ranking.head?_insertionSort_iff.mpr hleads, rfl⟩, hp⟩

/-- A row that comes first is one of the rows. -/
theorem ComesFirst.mem {row : RouteRow} (h : ComesFirst env name reading rows row) : row ∈ rows := by
  obtain ⟨k, hleads⟩ := h
  obtain ⟨row', hrow, hk⟩ := mem_filterMap.mp hleads.mem
  obtain ⟨_, -, heq⟩ := map_eq_some_iff.mp hk
  cases heq
  exact hrow

end Readings

theorem mem_trim {c : Char} {s : String} (h : c ∈ (trim s).toList) : c ∈ s.toList := by
  rw [trim, String.toList_ofList, Text.trimChars, mem_reverse] at h
  have hdrop := (dropWhile_sublist _).mem h
  exact (dropWhile_sublist _).mem (mem_reverse.mp hdrop)

theorem mem_withoutPlus {c : Char} {s : String} (h : c ∈ withoutPlus s) : c ∈ s.toList := by
  unfold withoutPlus at h
  split at h
  · next hs => exact hs ▸ mem_cons_of_mem _ h
  · exact h

variable {candidates : List SmscCandidate}

theorem pickAt_zero (h : ∀ c ∈ candidates, 0 < c.weight) :
    pickAt candidates 0 = candidates.head? := by
  match candidates with
  | [] => rfl
  | [c] => rfl
  | c :: d :: rest =>
    have hc := h c mem_cons_self
    rw [pickAt, if_pos (by omega), head?_cons]
    exact cons_ne_nil _ _

/-- The turn of a counter that is at zero is the first one's. -/
theorem weightedPick_zero (h : ∀ c ∈ candidates, 0 < c.weight) :
    weightedPick candidates 0 = candidates.head? := by
  rw [weightedPick]
  split
  · rfl
  · rw [Int.zero_emod, pickAt_zero h]

section Sides

variable {env : TextEngine} {tables : SimulationTables} {messageId : String}
variable {request : SimulateRequest} {route : CandidateRoute} {ctx : SelectionContext}

/-- What the simulator takes has digits, before and after it is trimmed. -/
theorem Accepted.digits (h : Accepted messageId request) :
    digitsOnly (some (trim request.destination)) ≠ "" ∧
      digitsOnly (some request.destination) ≠ "" := by
  obtain ⟨hlike, -⟩ := h
  rw [isE164Like, Bool.and_eq_true, Bool.and_eq_true, all_eq_true] at hlike
  obtain ⟨⟨hlength, -⟩, hall⟩ := hlike
  have hlength := of_decide_eq_true hlength
  obtain ⟨c, hc⟩ := exists_mem_of_length_pos (Nat.lt_of_lt_of_le (by decide) hlength)
  have hdigit : '0' ≤ c ∧ c ≤ '9' := by simpa using hall c hc
  exact ⟨digitsOnly_ne (mem_withoutPlus hc) hdigit,
    digitsOnly_ne (mem_trim (mem_withoutPlus hc)) hdigit⟩

section

variable (h : route.routeType = .weighted → route.targets = [])
include h

/-- The binds of a route without weighted targets. -/
theorem routeCandidates_plain :
    (routeCandidates route).map SmscCandidate.smscId =
      route.targetSmscId :: (truthy route.fallbackSmscId).toList := by
  rw [routeCandidates, if_neg (fun hw => hw.2 (h hw.1)), map_cons, map_map]
  exact congrArg _ (map_id _)

/-- The first of them that is up. -/
theorem head_reachable_plain :
    (reachable (routeCandidates route) ctx).head?.map SmscCandidate.smscId =
      (route.targetSmscId :: (truthy route.fallbackSmscId).toList).find? fun id =>
        isAvailable id ctx := by
  rw [← routeCandidates_plain h, find?_map, reachable, head?_filter]
  rfl

end

/-- **What a selection is led to**: the controlling route, and its strategy's choice. -/
theorem selectRoute_leads {routes : List CandidateRoute} {routeId smscId : String} :
    ((selectRoute env routes ctx).routeId = some routeId ∧
      (selectRoute env routes ctx).smscId = some smscId) ↔
    digitsOnly (some ctx.msisdn) ≠ "" ∧
      ∃ controlling ∈ (matchedRoutes env routes ctx).head?, controlling.1.id = routeId ∧
        (chooseSmsc env (matchedRoutes env routes ctx) controlling.1 ctx).1.map
          SmscCandidate.smscId = some smscId := by
  by_cases hdigits : digitsOnly (some ctx.msisdn) = ""
  · rw [selectRoute, if_pos hdigits, noMatch_smscId]
    exact ⟨fun h => absurd h.2 (some_ne_none _).symm, fun h => absurd hdigits h.1⟩
  · cases hmatched : matchedRoutes env routes ctx with
    | nil =>
      have hnone : (selectRoute env routes ctx).smscId = none := by
        rw [selectRoute, if_neg hdigits, hmatched]
        rfl
      rw [hnone]
      refine ⟨fun h => absurd h.2 (some_ne_none _).symm, fun h => ?_⟩
      obtain ⟨-, controlling, hm, -⟩ := h
      cases hm
    | cons m rest =>
      obtain ⟨controlling, specificity⟩ := m
      obtain ⟨trace, heq⟩ := selectRoute_of_matched hdigits hmatched
      rw [heq]
      constructor
      · rintro ⟨hid, hsmsc⟩
        exact ⟨hdigits, _, rfl, some.inj hid, hsmsc⟩
      · rintro ⟨-, m, hm, hid, hsmsc⟩
        cases hm
        exact ⟨congrArg some hid, hsmsc⟩

variable {ruleId smscId : String} {row row' : RouteRow} {engineId : String}

theorem evaluate_ok {context : RouteContext} {rules : List RouteRule} :
    (∃ decision, evaluate env context rules = .ok decision ∧ decision.ruleId = ruleId ∧
      decision.smscId = smscId) ↔
    truthy (selectRoute env (rules.map toCandidate) (simulationContext context)).smscId =
        some smscId ∧
      truthy (selectRoute env (rules.map toCandidate) (simulationContext context)).routeId =
        some ruleId := by
  unfold evaluate
  dsimp only
  split
  · next hsmsc hroute =>
    rw [hsmsc, hroute]
    constructor
    · rintro ⟨_, hok, rfl, rfl⟩
      cases hok
      exact ⟨rfl, rfl⟩
    · rintro ⟨hs, hr⟩
      exact ⟨_, rfl, some.inj hr, some.inj hs⟩
  · next hnot =>
    exact ⟨fun ⟨_, hok, _⟩ => (by cases hok), fun ⟨hs, hr⟩ => absurd hr (hnot _ _ hs)⟩

/-- The simulator answers just when it takes the request and the evaluation has a decision. -/
theorem simulate_ok : Reports env tables messageId request ruleId smscId ↔
    Accepted messageId request ∧ ∃ decision,
      evaluate env ⟨trim (request.messageId.getD messageId), trim request.destination,
        request.sender, request.now, (routeSimulationData env tables).smscs⟩
        (routeSimulationData env tables).routes = .ok decision ∧
      decision.ruleId = ruleId ∧ decision.smscId = smscId := by
  unfold Reports simulate Accepted
  by_cases hdestination : trim request.destination = ""
  · rw [text, if_pos hdestination, hdestination]
    exact ⟨fun ⟨_, hok, _⟩ => (by cases hok), fun h => absurd h.1.1 (by decide +kernel)⟩
  · by_cases hlike : isE164Like (trim request.destination)
    · by_cases hid : trim (request.messageId.getD messageId) = ""
      · simp only [text, if_neg hdestination, hlike, if_pos hid, bind, Except.bind, Bool.not_true,
          Bool.false_eq_true, if_false]
        exact ⟨fun ⟨_, hok, _⟩ => (by cases hok), fun h => absurd hid h.1.2⟩
      · simp only [text, if_neg hdestination, hlike, if_neg hid, bind, Except.bind, Bool.not_true,
          Bool.false_eq_true, if_false, pure, Except.pure]
        cases evaluate env _ (routeSimulationData env tables).routes with
        | error message =>
          exact ⟨fun ⟨_, hok, _⟩ => (by cases hok), fun ⟨_, _, hok, _⟩ => (by cases hok)⟩
        | ok decision =>
          constructor
          · rintro ⟨_, hok, hrule, hsmsc⟩
            cases hok
            exact ⟨⟨trivial, hid⟩, decision, rfl, hrule, hsmsc⟩
          · rintro ⟨-, _, hok, hrule, hsmsc⟩
            cases hok
            exact ⟨_, rfl, hrule, hsmsc⟩
    · simp only [text, if_neg hdestination, hlike, bind, Except.bind, Bool.not_false, if_true]
      exact ⟨fun ⟨_, hok, _⟩ => (by cases hok), fun h => absurd h.1.1 Bool.false_ne_true⟩

theorem simulatedRoutes : (routeSimulationData env tables).routes.map toCandidate =
    (simulatedRows env tables).map fun row => toCandidate (ruleOf row.route) := by
  rw [routeSimulationData, map_map]
  rfl

/-- The routes that match for the simulator. -/
theorem simulatedMatches : matchedRoutes env
    ((routeSimulationData env tables).routes.map toCandidate) (simulated env tables request) =
      ((readings (readAs env tables request) (simulatedRows env tables)).insertionSort
        (compareReadings env (fun row => row.route.id) · · ≠ .gt)).map
          fun r => (toCandidate (ruleOf r.1.route), r.2) := by
  refine matchedRoutes_readings (fun row => toCandidate (ruleOf row.route))
    (fun row => row.route.id) (fun _ => rfl) (fun _ => rfl) ?_
  rw [simulatedRoutes, applicable, readings, filterMap_map, map_filterMap]
  refine filterMap_congr fun row _ => ?_
  have hwindow : isWithinWindow (toCandidate (ruleOf row.route)).window
      (simulated env tables request).now = true := rfl
  have henabled : (toCandidate (ruleOf row.route)).enabled = row.route.enabled := rfl
  rw [Function.comp_apply, hwindow, henabled, readAs]
  cases row.route.enabled with
  | false => rfl
  | true => rw [if_pos rfl, Option.map_map]; rfl

/-- The simulator's binds are the ones that are healthy. -/
theorem isAvailable_simulated (id : String) :
    isAvailable id (simulated env tables request) = isHealthy tables id := by
  rw [isAvailable, isHealthy]
  split
  · next hblank =>
    rw [hblank]
    rfl
  · next hid =>
    have havailable : (simulated env tables request).availableSmscIds =
        some ((tables.smscDefinitions.filter fun d =>
          d.enabled && !UNHEALTHY_STATES.contains d.lifecycleState).map fun d => d.id) := rfl
    rw [havailable, decide_eq_true hid, Bool.true_and, Bool.eq_iff_iff, contains_iff_mem,
      mem_map, any_eq_true]
    refine exists_congr fun d => ?_
    rw [mem_filter, Bool.and_eq_true (decide _), decide_eq_true_eq, and_assoc, and_comm (b := d.id = id)]

/-- **The simulator's answer** is what the tables hold for it. -/
theorem reports_iff [Std.TransCmp env.localeCompare] :
    Reports env tables messageId request ruleId smscId ↔
      ∃ row, row.route.id = ruleId ∧ Answers env tables messageId request row smscId := by
  have hcontext : ∀ id, simulationContext ⟨id, trim request.destination, request.sender,
      request.now, (routeSimulationData env tables).smscs⟩ = simulated env tables request :=
    fun _ => rfl
  have hchoice (matched : List (CandidateRoute × Nat)) (row : RouteRow) :
      (chooseSmsc env matched (toCandidate (ruleOf row.route))
        (simulated env tables request)).1.map SmscCandidate.smscId =
        (row.route.targetSmscId :: (truthy row.route.fallbackSmscId).toList).find?
          (isHealthy tables) := by
    rw [chooseSmsc_preferring env _ _ (.inl rfl), head_reachable_plain fun _ => rfl]
    simp only [isAvailable_simulated]
    rfl
  have hselects : ((selectRoute env ((routeSimulationData env tables).routes.map toCandidate)
      (simulated env tables request)).routeId = some ruleId ∧
      (selectRoute env ((routeSimulationData env tables).routes.map toCandidate)
        (simulated env tables request)).smscId = some smscId) ↔
      digitsOnly (some (trim request.destination)) ≠ "" ∧ ∃ row,
        ComesFirst env (fun row => row.route.id) (readAs env tables request)
          (simulatedRows env tables) row ∧ row.route.id = ruleId ∧
        (row.route.targetSmscId :: (truthy row.route.fallbackSmscId).toList).find?
          (isHealthy tables) = some smscId := by
    rw [selectRoute_leads]
    refine and_congr Iff.rfl ((controlling_readings (fun row => toCandidate (ruleOf row.route))
      (fun controlling =>
      controlling.id = ruleId ∧ (chooseSmsc env (matchedRoutes env
        ((routeSimulationData env tables).routes.map toCandidate) (simulated env tables request))
          controlling (simulated env tables request)).1.map SmscCandidate.smscId = some smscId)
      simulatedMatches).trans (exists_congr fun row => ?_))
    rw [hchoice]
    rfl
  rw [simulate_ok, evaluate_ok, hcontext, Text.truthy_eq_some_iff, Text.truthy_eq_some_iff]
  constructor
  · rintro ⟨haccepted, ⟨hsmsc, -⟩, hroute, -⟩
    obtain ⟨-, row, hfirst, hid, hbind⟩ := hselects.mp ⟨hroute, hsmsc⟩
    exact ⟨row, hid, haccepted, hfirst, hbind⟩
  · rintro ⟨row, rfl, haccepted, hfirst, hbind⟩
    obtain ⟨hroute, hsmsc⟩ := hselects.mpr ⟨haccepted.digits.1, row, hfirst, rfl, hbind⟩
    have hhealthy := find?_some hbind
    rw [isHealthy, Bool.and_eq_true, decide_eq_true_eq] at hhealthy
    have hrow := mem_of_mem_filter ((mem_insertionSort _).mp hfirst.mem)
    exact ⟨haccepted, ⟨hsmsc, hhealthy.1⟩, hroute, tables.ruleIds row hrow⟩

/-! ## The send path -/

/-- A route as the send path gives it to the selector. -/
theorem toEngineIds_row (row : RouteRow) :
    toEngineIds (availability tables.routing).rows (loaded row) =
      if (liveName tables row.route.targetSmscId).isSome then some (sentRoute tables row)
      else none := by
  have hrows : truthy (byId (availability tables.routing).rows (loaded row).targetSmscId) =
      liveName tables row.route.targetSmscId := rfl
  rw [toEngineIds, hrows, sentRoute]
  cases liveName tables row.route.targetSmscId with
  | none => rfl
  | some primary => rfl

theorem candidatesFor_rows : candidatesFor env tables.routing none =
    (sentRows env tables).filterMap fun row =>
      if (liveName tables row.route.targetSmscId).isSome then some (sentRoute tables row)
      else none := by
  have hsorted : candidateRoutesInClient env tables.routing =
      (sentRows env tables).map loaded :=
    (map_insertionSort _ _ loaded _ fun _ _ _ _ => Iff.rfl).symm
  have hscoped (all : List CandidateRoute) : scopedRoutes tables.routing none all = all := rfl
  rw [candidatesFor, hscoped, hsorted, filterMap_map]
  exact filterMap_congr fun row _ => toEngineIds_row row

/-- The routes that match on the send path. -/
theorem sentMatches :
    matchedRoutes env (candidatesFor env tables.routing none) (sent tables request) =
      ((readings (applies env tables request) (sentRows env tables)).insertionSort
        (compareReadings env (fun row => row.route.name) · · ≠ .gt)).map
          fun r => (sentRoute tables r.1, r.2) := by
  refine matchedRoutes_readings (sentRoute tables) (fun row => row.route.name) (fun _ => rfl)
    (fun _ => rfl) ?_
  rw [candidatesFor_rows, applicable, readings, filterMap_filterMap, map_filterMap]
  refine filterMap_congr fun row _ => ?_
  have henabled : (sentRoute tables row).enabled = row.route.enabled := rfl
  have hwindow : isWithinWindow (sentRoute tables row).window (sent tables request).now =
      isWithinWindow row.route.window request.now := rfl
  have hspecificity : matchSpecificity env (sentRoute tables row) (sent tables request) =
      matchSpecificity env row.route (sent tables request) := rfl
  rw [applies]
  cases (liveName tables row.route.targetSmscId).isSome with
  | false => rfl
  | true =>
    rw [if_pos rfl, Option.bind_some, henabled, hwindow, hspecificity, Bool.true_and]
    cases row.route.enabled with
    | false => rfl
    | true =>
      cases isWithinWindow row.route.window request.now with
      | false => rfl
      | true => rw [if_neg (by decide), if_pos (by decide), Option.map_map]; rfl

/-- At rotation zero every strategy that keeps to the route takes the first of its binds that is
up. -/
theorem chooseSmsc_first (matched : List (CandidateRoute × Nat))
    (hstrategy : route.strategy ≠ .leastCost) (hrotation : ctx.rotation = 0) :
    (chooseSmsc env matched route ctx).1 = (reachable (routeCandidates route) ctx).head? := by
  cases h : route.strategy with
  | leastCost => exact absurd h hstrategy
  | roundRobin =>
    simp only [chooseSmsc, h, withReason, inTurn, hrotation, Int.zero_emod, Int.toNat_zero]
    exact (head?_eq_getElem? ..).symm
  | loadBalance =>
    simp only [chooseSmsc, h, withReason, hrotation]
    exact weightedPick_zero fun c hc => routeCandidates_weight (mem_of_mem_filter hc)
  | priority => exact chooseSmsc_preferring env matched ctx (.inl h)
  | timeBased => exact chooseSmsc_preferring env matched ctx (.inr h)

/-- A strategy's choice is what the row comes to. -/
theorem comesTo_iff [Std.TransCmp env.localeCompare] {row : RouteRow} :
    ComesTo env tables request row engineId ↔
      (chooseSmsc env (matchedRoutes env (candidatesFor env tables.routing none)
        (sent tables request)) (sentRoute tables row) (sent tables request)).1.map
          SmscCandidate.smscId = some engineId := by
  have hsame : (sentRoute tables row).strategy = row.route.strategy := rfl
  rw [ComesTo]
  split
  · next hcost =>
    have hup (matched : List (RouteRow × Nat)) :
        matched.flatMap (fun r => upBinds tables request r.1) =
          reachable ((matched.map fun r => (sentRoute tables r.1, r.2)).flatMap
            fun m => routeCandidates m.1) (sent tables request) := by
      rw [reachable, flatMap_map, filter_flatMap]
      rfl
    simp only [chooseSmsc, hsame, hcost, withReason, cheapest, sentMatches, ← hup,
      map_eq_some_iff, Ranking.head?_insertionSort_iff, and_comm]
  · next hcost => rw [chooseSmsc_first _ (hsame ▸ hcost) rfl, upBinds]

/-- **The send path's decision** is what the tables hold for it. -/
theorem resolves_iff [Std.TransCmp env.localeCompare] :
    ((resolveInClient env tables.routing (sendContext request)).result.routeId = some ruleId ∧
      (resolveInClient env tables.routing (sendContext request)).result.smscId = some engineId) ↔
    ∃ row, row.route.id = ruleId ∧ Carries env tables request row engineId := by
  have hrouteId : (resolveInClient env tables.routing (sendContext request)).result.routeId =
      (selection env tables.routing (sendContext request)).routeId := by rw [resolveInClient]
  have hcontrolling := controlling_readings (sentRoute tables) (fun controlling =>
    controlling.id = ruleId ∧ (chooseSmsc env (matchedRoutes env
      (candidatesFor env tables.routing none) (sent tables request))
        controlling (sent tables request)).1.map SmscCandidate.smscId = some engineId)
    (@sentMatches env tables request)
  rw [hrouteId, resolveInClient_smscId, selection, selectRoute_leads]
  constructor
  · rintro ⟨hdialled, hcontrols⟩
    obtain ⟨row, hfirst, hid, hchoice⟩ := hcontrolling.mp hcontrols
    exact ⟨row, hid, hdialled, hfirst, comesTo_iff.mpr hchoice⟩
  · rintro ⟨row, hid, hdialled, hfirst, hbind⟩
    exact ⟨hdialled, hcontrolling.mpr ⟨row, hfirst, hid, comesTo_iff.mp hbind⟩⟩

theorem resolveInClient_routeId {env : TextEngine} {tables : RoutingTables} {ctx : SendRouteContext}
    (h : (resolveInClient env tables ctx).result.smscId = some engineId) :
    ∃ routeId, (resolveInClient env tables ctx).result.routeId = some routeId := by
  rw [resolveInClient_smscId, selection] at h
  obtain ⟨hdigits, controlling, specificity, rest, hmatched⟩ := matched_of_selectRoute h
  obtain ⟨trace, heq⟩ := selectRoute_of_matched hdigits hmatched
  rw [resolveInClient]
  rw [selection, heq]
  exact ⟨controlling.id, rfl⟩

/-- The tables hold one answer at most. -/
theorem Answers.unique [Std.TransCmp env.localeCompare] {id id' : String}
    (h : Answers env tables messageId request row id)
    (h' : Answers env tables messageId request row' id') : row.route.id = row'.route.id ∧ id = id' := by
  obtain ⟨answer, hok, hrule, rfl⟩ := reports_iff.mpr ⟨row, rfl, h⟩
  obtain ⟨answer', hok', hrule', rfl⟩ := reports_iff.mpr ⟨row', rfl, h'⟩
  obtain rfl := Except.ok.inj (hok.symm.trans hok')
  exact ⟨hrule.symm.trans hrule', rfl⟩

/-- And one decision. -/
theorem Carries.unique [Std.TransCmp env.localeCompare] {e e' : String}
    (h : Carries env tables request row e) (h' : Carries env tables request row' e') :
    row.route.id = row'.route.id ∧ e = e' := by
  obtain ⟨hroute, hsmsc⟩ := resolves_iff.mpr ⟨row, rfl, h⟩
  obtain ⟨hroute', hsmsc'⟩ := resolves_iff.mpr ⟨row', rfl, h'⟩
  exact ⟨some.inj (hroute.symm.trans hroute'), some.inj (hsmsc.symm.trans hsmsc')⟩

/-- One id, one row. -/
theorem row_eq {id engineId : String}
    (h : Answers env tables messageId request row id) (h' : Carries env tables request row' engineId)
    (hid : row'.route.id = row.route.id) : row' = row :=
  inj_on_of_nodup_map tables.rules
    (mem_of_mem_filter ((mem_insertionSort _).mp h'.first.mem))
    (mem_of_mem_filter ((mem_insertionSort _).mp h.first.mem)) hid

theorem simulate_error [Std.TransCmp env.localeCompare] :
    (∃ message, simulate env tables messageId request = .error message) ↔
      ¬ ∃ row id, Answers env tables messageId request row id := by
  constructor
  · rintro ⟨message, herror⟩ ⟨row, id, hanswers⟩
    obtain ⟨answer, hok, -⟩ := reports_iff.mpr ⟨row, rfl, hanswers⟩
    rw [herror] at hok
    cases hok
  · intro hnone
    cases hanswer : simulate env tables messageId request with
    | error message => exact ⟨message, rfl⟩
    | ok answer =>
      obtain ⟨row, -, hanswers⟩ := reports_iff.mp ⟨answer, hanswer, rfl, rfl⟩
      exact absurd ⟨row, _, hanswers⟩ hnone

/-- A bind that is chosen is chosen through a route. -/
theorem resolves_none [Std.TransCmp env.localeCompare] :
    (resolveInClient env tables.routing (sendContext request)).result.smscId = none ↔
      ¬ ∃ row engineId, Carries env tables request row engineId := by
  constructor
  · rintro hnone ⟨row, engineId, hcarries⟩
    rw [(resolves_iff.mpr ⟨row, rfl, hcarries⟩).2] at hnone
    cases hnone
  · intro hnone
    cases hsmsc : (resolveInClient env tables.routing (sendContext request)).result.smscId with
    | none => rfl
    | some engineId =>
      obtain ⟨routeId, hroute⟩ := resolveInClient_routeId hsmsc
      obtain ⟨row, -, hcarries⟩ := resolves_iff.mp ⟨hroute, hsmsc⟩
      exact absurd ⟨row, engineId, hcarries⟩ hnone

end Sides

/-- **The route simulator** tells what the send path decides just when the tables predict it: the row
that comes first by prefix and sender also comes first of the live ones by hours and type, and its
bind that is healthy by lifecycle is the one that is up and that its strategy takes. -/
theorem simulation_predicts (env : TextEngine) (tables : SimulationTables) (messageId : String)
    (request : SimulateRequest) [Std.TransCmp env.localeCompare] :
    Agrees env tables messageId request ↔ Predicted env tables messageId request := by
  constructor
  · rintro ⟨hreports, hfails⟩
    refine ⟨fun row id hanswers => ?_, ?_⟩
    · obtain ⟨d, hd, hid, hresolves⟩ := (hreports row.route.id id).mp
        (reports_iff.mpr ⟨row, rfl, hanswers⟩)
      obtain ⟨row', hsame, hcarries⟩ := resolves_iff.mp hresolves
      obtain rfl := row_eq hanswers hcarries hsame
      exact ⟨d, hd, hid, hcarries⟩
    · rw [← simulate_error, ← resolves_none]
      exact hfails.mp
  · rintro ⟨hanswered, hunanswered⟩
    by_cases hany : ∃ row id, Answers env tables messageId request row id
    · obtain ⟨row, id, hanswers⟩ := hany
      obtain ⟨d, hd, rfl, hcarries⟩ := hanswered row id hanswers
      refine ⟨fun ruleId smscId => ?_, ?_⟩
      · rw [reports_iff]
        constructor
        · rintro ⟨row', rfl, hanswers'⟩
          obtain ⟨hrule, rfl⟩ := hanswers.unique hanswers'
          exact ⟨d, hd, rfl, resolves_iff.mpr ⟨row, hrule, hcarries⟩⟩
        · rintro ⟨d', hd', rfl, hresolves⟩
          obtain ⟨row', rfl, hcarries'⟩ := resolves_iff.mp hresolves
          obtain ⟨hrule, hengine⟩ := hcarries.unique hcarries'
          obtain rfl := inj_on_of_nodup_map tables.engineIds hd hd' hengine
          exact ⟨row, hrule, hanswers⟩
      · rw [simulate_error, resolves_none]
        exact ⟨fun h => absurd ⟨row, _, hanswers⟩ h, fun h => absurd ⟨row, _, hcarries⟩ h⟩
    · have hnone := hunanswered hany
      refine ⟨fun ruleId smscId => ?_, ?_⟩
      · rw [reports_iff]
        constructor
        · rintro ⟨row, -, hanswers⟩
          exact absurd ⟨row, smscId, hanswers⟩ hany
        · rintro ⟨d, -, -, hresolves⟩
          obtain ⟨row, -, hcarries⟩ := resolves_iff.mp hresolves
          exact absurd ⟨row, _, hcarries⟩ hnone
      · rw [simulate_error, resolves_none]
        exact ⟨fun _ => hnone, fun _ => hany⟩

/-! ### A route out of its hours -/

/-- A route to `a` at night. -/
def nightly : RouteRow where
  route := ⟨"r", "r", 1, true, .static, .priority, none, none, none, some "256", none, none, "a",
    none, [], some ⟨"22:00", "06:00", []⟩, .route, none, none, none, none⟩
  deploymentState := .deployed

/-- And one to `b` for whatever no other is for. -/
def catchAll : RouteRow where
  route := ⟨"s", "s", 2, true, .static, .priority, none, none, none, none, none, none, "b", none, [],
    none, .route, none, none, none, none⟩
  deploymentState := .deployed

def twoBinds : SimulationTables where
  smscDefinitions := [⟨⟨"a", "smsc-a", true, none⟩, "a", 100, .active, none⟩,
    ⟨⟨"b", "smsc-b", true, none⟩, "b", 100, .active, none⟩]
  bindStates := [⟨"a", "bound"⟩]
  routingRules := [catchAll, nightly]
  customerRoutes := []
  ids := by decide
  engineIds := by decide
  rules := by decide
  ruleIds := by decide

def atNoon : SimulateRequest := ⟨"+256700000000", none, none, ⟨1, 12, 0⟩⟩

def atNight : SimulateRequest := ⟨"+256700000000", none, none, ⟨1, 23, 0⟩⟩

/-- At night the narrower route controls on both sides, and its bind is healthy and up. -/
theorem simulation_predicts_night : Agrees ascii twoBinds "m" atNight := by
  have hcarries : Carries ascii twoBinds atNight nightly "smsc-a" :=
    ⟨by decide +kernel, ⟨3, Ranking.head?_insertionSort_iff.mp (by decide +kernel)⟩, by
      rw [ComesTo, if_neg (by decide)]
      decide +kernel⟩
  have hfirst : Ranking.Leads (compareReadings ascii fun row => row.route.id)
      (readings (readAs ascii twoBinds atNight) (simulatedRows ascii twoBinds)) (nightly, 3) :=
    Ranking.head?_insertionSort_iff.mp (by decide +kernel)
  refine (simulation_predicts ascii twoBinds "m" atNight).mpr
    ⟨fun row id hanswers => ?_, fun hnone => ?_⟩
  · obtain ⟨k, hleads⟩ := hanswers.first
    cases hleads.unique hfirst
    have hid : some id = some "a" := hanswers.bind.symm.trans (by decide +kernel)
    cases hid
    exact ⟨_, mem_cons_self, rfl, hcarries⟩
  · exact absurd ⟨nightly, "a", ⟨by decide +kernel, by decide +kernel⟩, ⟨3, hfirst⟩,
      by decide +kernel⟩ hnone

/-- **A prediction that does not come true.**  At noon the simulator answers with a route of the
night, and a message is refused. -/
theorem simulation_misleads :
    Reports ascii twoBinds "m" atNoon "r" "a" ∧
      (resolveInClient ascii twoBinds.routing (sendContext atNoon)).result.smscId = none ∧
      ¬ Agrees ascii twoBinds "m" atNoon := by
  have hreports : Reports ascii twoBinds "m" atNoon "r" "a" :=
    ⟨_, rfl, by decide +kernel, by decide +kernel⟩
  have hnone : (resolveInClient ascii twoBinds.routing
      (sendContext atNoon)).result.smscId = none := by decide +kernel
  refine ⟨hreports, hnone, fun h => ?_⟩
  obtain ⟨d, -, -, -, hsmsc⟩ := (h.reports "r" "a").mp hreports
  rw [hnone] at hsmsc
  cases hsmsc

end Jkannel.Routing.Simulator
