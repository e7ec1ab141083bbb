import Jkannel.Routing.Selection

/-!
# Routing a message that is about to be sent

The selector knows nothing of the database.  For a live message it is given the routes that are
deployed and that the customer may use, with their binds named the way the engine names them, and
the binds that are up.

* `availability` reads the binds that may carry traffic at all, and which of those are up.  A bind
  that is disabled or suspended is no candidate: it is left out before anything is chosen.
* `resolveInClient` is the decision for one message.
* `Live` says that an engine identifier names a bind that is enabled and not suspended.  Whatever
  the resolution picks is live (`resolveInClient_live`).
-/

namespace Jkannel.Routing

/-- A bind as the tenant has defined it. -/
structure SmscDefinition where
  id : String
  /-- The engine's name for the bind. -/
  engineId : String
  enabled : Bool
  /-- Since when traffic is suspended, or none when it is not. -/
  trafficSuspendedAt : Option Int

/-- The last state the poller saw a bind in. -/
structure SmscBindState where
  smscId : String
  state : String

inductive DeploymentState where
  | draft | validated | deployed | rolledBack | disabled | archived
  deriving DecidableEq

/-- A row of `routing_rules`, with its targets. -/
structure RouteRow where
  route : CandidateRoute
  deploymentState : DeploymentState
  deriving DecidableEq

/-- A route or a bind a customer is entitled to. -/
structure CustomerRouteRow where
  customerId : String
  routeId : Option String
  smscId : Option String
  enabled : Bool

/-- The tables a routing decision reads. -/
structure RoutingTables where
  smscDefinitions : List SmscDefinition
  bindStates : List SmscBindState
  routingRules : List RouteRow
  customerRoutes : List CustomerRouteRow

/-- Everything the send path needs to have a bind chosen for it. -/
structure SendRouteContext where
  msisdn : String
  sender : Option String
  operator : Option String
  customerId : Option String
  rotation : Nat
  now : LocalTime

/-- What a send is told. -/
structure SendRouteDecision where
  result : SelectionResult
  /-- How many deployed routes the customer may use. -/
  candidatesConsidered : Nat
  /-- How many deployed routes the customer's bindings removed. -/
  excludedByEntitlement : Nat
  availableSmscIds : List String
  /-- Nothing is known of the binds' health, so every enabled one is taken to be up. -/
  healthAssumed : Bool
  cost : Option Rat

/-- A bind with its state, none when the poller has never seen it. -/
structure SmscRow where
  id : String
  engineId : String
  bindState : Option String

/-- The binds that may carry traffic, each joined to its state. -/
def smscRows (tables : RoutingTables) : List SmscRow :=
  (tables.smscDefinitions.filter fun d => d.enabled && d.trafficSuspendedAt.isNone).map fun d =>
    ⟨d.id, d.engineId, (tables.bindStates.find? fun s => s.smscId = d.id).map SmscBindState.state⟩

/-- The engine identifier of a bind that may carry traffic. -/
def byId (rows : List SmscRow) (id : String) : Option String :=
  (rows.find? fun row => row.id = id).map SmscRow.engineId

/-- Whether the poller has seen any of the binds. -/
def observed (rows : List SmscRow) : Bool := rows.any fun row => row.bindState.isSome

/-- The binds that are up; all of them as long as nothing has been observed. -/
def available (rows : List SmscRow) : List String :=
  if observed rows then
    (rows.filter fun row => row.bindState = some "bound").map SmscRow.engineId
  else rows.map SmscRow.engineId

/-- What `availability` reports. -/
structure Availability where
  rows : List SmscRow
  available : List String
  healthAssumed : Bool

def availability (tables : RoutingTables) : Availability :=
  let rows := smscRows tables
  ⟨rows, available rows, !observed rows⟩

/-- The routes as the selector is given them: enabled and deployed, in priority order.  Targets
belong to the weighted routes only. -/
def candidateRoutesInClient (env : TextEngine) (tables : RoutingTables) : List CandidateRoute :=
  ((tables.routingRules.filter fun r =>
      r.route.enabled && decide (r.deploymentState = .deployed)).map fun r =>
    { r.route with targets := if r.route.routeType = .weighted then r.route.targets else [] }).insertionSort
      fun a b => (compare a.priority b.priority).then (env.collate a.name b.name) ≠ .gt

/-- The bindings entitling a customer, or none when it is unconstrained. -/
def customerBindings (tables : RoutingTables) (customerId : String) :
    Option (List CustomerRouteRow) :=
  let rows := tables.customerRoutes.filter fun r => decide (r.customerId = customerId) && r.enabled
  if rows = [] then none else some rows

/-- Whether the bindings cover a route, by itself or by its bind. -/
def boundTo (bindings : List CustomerRouteRow) (route : CandidateRoute) : Bool :=
  bindings.any fun b =>
    decide (Text.truthy b.routeId = some route.id ∨ Text.truthy b.smscId = some route.targetSmscId)

/-- A route with its binds named the way the engine names them.  A bind that may not carry traffic
drops out, and a route that loses its primary with it. -/
def toEngineIds (rows : List SmscRow) (route : CandidateRoute) : Option CandidateRoute :=
  (Text.truthy (byId rows route.targetSmscId)).map fun primary =>
    { route with
      targetSmscId := primary
      fallbackSmscId := (Text.truthy route.fallbackSmscId).bind (byId rows)
      targets := route.targets.filterMap fun target =>
        (Text.truthy (byId rows target.smscId)).map fun engineId =>
          { target with smscId := engineId } }

/-- The routes a customer may use. -/
def scopedRoutes (tables : RoutingTables) (customerId : Option String)
    (all : List CandidateRoute) : List CandidateRoute :=
  match (Text.truthy customerId).bind (customerBindings tables) with
  | some bindings => all.filter (boundTo bindings)
  | none => all

/-- The candidates a message of a customer is routed over. -/
def candidatesFor (env : TextEngine) (tables : RoutingTables) (customerId : Option String) :
    List CandidateRoute :=
  (scopedRoutes tables customerId (candidateRoutesInClient env tables)).filterMap
    (toEngineIds (availability tables).rows)

/-- What the selector is told of a message. -/
def selectionContext (tables : RoutingTables) (ctx : SendRouteContext) : SelectionContext where
  msisdn := ctx.msisdn
  sender := ctx.sender
  operator := ctx.operator
  now := ctx.now
  availableSmscIds := some (availability tables).available
  rotation := ctx.rotation

/-- The selection for one message. -/
def selection (env : TextEngine) (tables : RoutingTables) (ctx : SendRouteContext) :
    SelectionResult :=
  selectRoute env (candidatesFor env tables ctx.customerId) (selectionContext tables ctx)

/-- Choose the bind for one message. -/
def resolveInClient (env : TextEngine) (tables : RoutingTables) (ctx : SendRouteContext) :
    SendRouteDecision :=
  let all := candidateRoutesInClient env tables
  let excludedByEntitlement := all.length - (scopedRoutes tables ctx.customerId all).length
  let candidates := candidatesFor env tables ctx.customerId
  let result := selection env tables ctx
  let reason :=
    if result.smscId = none ∧ 0 < excludedByEntitlement then
      result.reason ++ " — note that this customer's route bindings excluded " ++
        toString excludedByEntitlement ++ " of " ++ toString all.length ++
        " deployed route(s) before matching, so a route that matches may exist but not be " ++
        "permitted here"
    else result.reason
  { result := { result with reason := reason }
    candidatesConsidered := candidates.length
    excludedByEntitlement := excludedByEntitlement
    availableSmscIds := (availability tables).available
    healthAssumed := (availability tables).healthAssumed
    cost := (result.routeId.bind fun id => candidates.find? fun route => route.id = id).bind
      CandidateRoute.cost }

/-! ## Live binds -/

/-- An engine identifier names a definition that is enabled and whose traffic is not suspended. -/
def Live (tables : RoutingTables) (engineId : String) : Prop :=
  ∃ d ∈ tables.smscDefinitions, d.engineId = engineId ∧ d.enabled = true ∧
    d.trafficSuspendedAt = none

instance (tables : RoutingTables) (engineId : String) : Decidable (Live tables engineId) :=
  inferInstanceAs (Decidable (∃ d ∈ tables.smscDefinitions, _))

theorem available_subset (rows : List SmscRow) :
    ∀ engineId ∈ available rows, engineId ∈ rows.map SmscRow.engineId := by
  intro engineId h
  rw [available] at h
  split at h
  · obtain ⟨row, hrow, rfl⟩ := List.mem_map.mp h
    exact List.mem_map_of_mem (List.mem_of_mem_filter hrow)
  · exact h

/-- Every bind that counts as available is live, whatever the poller has or has not seen. -/
theorem availability_live {tables : RoutingTables} {engineId : String}
    (h : engineId ∈ (availability tables).available) : Live tables engineId := by
  have hrow := available_subset _ _ h
  rw [smscRows, List.map_map] at hrow
  obtain ⟨d, hd, rfl⟩ := List.mem_map.mp hrow
  obtain ⟨hmem, hlive⟩ := List.mem_filter.mp hd
  rw [Bool.and_eq_true, Option.isNone_iff_eq_none] at hlive
  exact ⟨d, hmem, rfl, hlive⟩

theorem resolveInClient_smscId (env : TextEngine) (tables : RoutingTables)
    (ctx : SendRouteContext) :
    (resolveInClient env tables ctx).result.smscId = (selection env tables ctx).smscId := by
  rw [resolveInClient]

variable {env : TextEngine} {tables : RoutingTables} {ctx : SendRouteContext}

/-- **Whatever the resolution picks is live**: every strategy picks among the available binds. -/
theorem resolveInClient_live {engineId : String}
    (h : (resolveInClient env tables ctx).result.smscId = some engineId) :
    Live tables engineId := by
  have havailable := selectRoute_available h
  rw [isAvailable] at havailable
  split at havailable
  · cases havailable
  · rw [selectionContext] at havailable
    exact availability_live (List.contains_iff_mem.mp havailable)

theorem scopedRoutes_subset {customerId : Option String} {all : List CandidateRoute}
    {route : CandidateRoute} (h : route ∈ scopedRoutes tables customerId all) : route ∈ all := by
  rw [scopedRoutes] at h
  split at h
  · exact List.mem_of_mem_filter h
  · exact h

end Jkannel.Routing
