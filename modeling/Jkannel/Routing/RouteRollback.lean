import Jkannel.Lib.Transition
import Jkannel.Routing.Suspension

/-!
# Routes that are deployed and rolled back

A route is a row with its weighted targets.  It is edited through two repositories, and it is in
force while its state is `deployed`.  Each deployment keeps the row it deployed; a rollback puts
seven columns of the last deployment but one back, and takes the route out of force.

* `ConsoleRepository` and `RoutingDepthRepository` are the writes of the two, and `step` is the
  machine of any number of them, on any number of routes.
* `routeRow?` is what a routing decision reads of a route, and `RoutesAlike` says that it takes
  every message as it did in another state.
* `rollback_out_of_force` is what a rollback promises: nothing is routed by the route before it is
  deployed again, and then it is what it was after the last deployment but one, unless what a
  rollback leaves alone has changed.
* `rollback_not_routed` is a route that carries nothing after a rollback, and did before.
-/

namespace Jkannel.Routing.RouteRollback

open List Option

/-! ## Rows -/

/-- A row of `routing_rules`. -/
structure RoutingRule where
  id : String
  name : String
  priority : Nat
  enabled : Bool
  destinationPrefix : Option String
  sender : Option String
  targetSmscId : String
  fallbackSmscId : Option String
  routeType : RouteType
  strategy : SelectionStrategy
  matchPrefix : Option String
  countryCode : Option String
  operator : Option String
  cost : Option Rat
  windowStart : Option String
  windowEnd : Option String
  /-- Weekdays, with commas between them. -/
  activeDays : Option String
  action : RouteAction
  overrideSender : Option String
  overrideRecipient : Option String
  overrideText : Option String
  dropReason : Option String
  deploymentState : DeploymentState
  deriving DecidableEq

/-- A row of `route_targets`. -/
structure TargetRow where
  id : String
  routeId : String
  target : RouteTarget
  createdAt : Nat

inductive Operation where
  | validate | deploy | rollback
  deriving DecidableEq

/-- A row of `route_deployments`. -/
structure RouteDeployment where
  routeId : String
  operation : Operation
  succeeded : Bool
  snapshot : RoutingRule
  createdAt : Nat

/-- The routes and their deployments. -/
structure State where
  rules : List RoutingRule
  targets : List TargetRow
  deployments : List RouteDeployment
  /-- The ids of the binds there are. -/
  smscs : List String
  /-- When the last transaction began. -/
  clock : Nat

def init : State := ⟨[], [], [], [], 0⟩

def State.rule? (s : State) (id : String) : Option RoutingRule := s.rules.find? fun r => r.id = id

/-- An UPDATE of one row. -/
def State.setRule (s : State) (rule : RoutingRule) : State :=
  { s with rules := s.rules.map fun r => if r.id = rule.id then rule else r }

def State.addDeployment (s : State) (deployment : RouteDeployment) : State :=
  { s with deployments := s.deployments ++ [deployment] }

/-- The constraints of the table: names are unique, and binds exist and differ. -/
def State.allows (s : State) (rule : RoutingRule) : Bool :=
  (s.rules.all fun other => other.id = rule.id || other.name ≠ rule.name) &&
    rule.fallbackSmscId ≠ some rule.targetSmscId && s.smscs.contains rule.targetSmscId &&
      rule.fallbackSmscId.all s.smscs.contains

/-! ## What routing reads -/

/-- `HH:MM` of a time of day that may have seconds. -/
def toHhmm (value : String) : String :=
  match value.toList with
  | a :: b :: ':' :: c :: d :: _ =>
    if [a, b, c, d].all Char.isDigit then String.ofList [a, b, ':', c, d] else value
  | _ => value

/-- The weekdays of the column, which holds what `join` has made of integers. -/
def parseActiveDays (value : Option String) : List Nat :=
  ((Text.truthy value).toList.flatMap (Text.split ',')).filterMap fun part =>
    (digitsValue (Text.trim part).toList).filter fun n => n ≤ 6

/-- A route as the selector is given it. -/
def candidate (route : RoutingRule) (targets : List RouteTarget) : CandidateRoute where
  id := route.id
  name := route.name
  priority := route.priority
  enabled := route.enabled
  routeType := route.routeType
  strategy := route.strategy
  matchPrefix := route.matchPrefix
  countryCode := route.countryCode
  operator := route.operator
  destinationPrefix := route.destinationPrefix
  sender := route.sender
  cost := route.cost
  targetSmscId := route.targetSmscId
  fallbackSmscId := route.fallbackSmscId
  targets := targets
  window := (Text.truthy route.windowStart).bind fun start =>
    (Text.truthy route.windowEnd).map fun stop =>
      ⟨toHhmm start, toHhmm stop, parseActiveDays route.activeDays⟩
  action := route.action
  overrideSender := route.overrideSender
  overrideRecipient := route.overrideRecipient
  overrideText := route.overrideText
  dropReason := route.dropReason

/-- `ORDER BY created_at,id`. -/
def targetLe (a b : TargetRow) : Bool :=
  a.createdAt < b.createdAt || (a.createdAt == b.createdAt && decide (a.id ≤ b.id))

def State.loadTargets (s : State) (routeId : String) : List RouteTarget :=
  ((s.targets.filter fun t => t.routeId = routeId).insertionSort
    fun a b => targetLe a b = true).map TargetRow.target

/-- The row with its targets. -/
def State.routeRow (s : State) (rule : RoutingRule) : RouteRow :=
  ⟨candidate rule (s.loadTargets rule.id), rule.deploymentState⟩

/-- What a routing decision reads of a route. -/
def State.routeRow? (s : State) (id : String) : Option RouteRow := (s.rule? id).map s.routeRow

/-- The tables of a routing decision, with the routes of a state. -/
def State.within (s : State) (tables : RoutingTables) : RoutingTables :=
  { tables with routingRules := s.rules.map s.routeRow }

/-- A route takes the place of the one that has its id. -/
def withRoute (tables : RoutingTables) (row : RouteRow) : RoutingTables :=
  { tables with routingRules := tables.routingRules.map fun r =>
      if r.route.id = row.route.id then row else r }

/-- Among whatever other routes, binds and customers, a message is routed over the route of the one
state as over that of the other. -/
def RoutesAlike (id : String) (s t : State) : Prop :=
  ∃ row row', s.routeRow? id = some row ∧ t.routeRow? id = some row' ∧
    ∀ (env : TextEngine) (tables : RoutingTables) (ctx : SendRouteContext),
      resolveInClient env (withRoute tables row) ctx =
        resolveInClient env (withRoute tables row') ctx

/-- No message is routed by the route. -/
def OutOfForce (id : String) (s : State) : Prop :=
  ∀ (env : TextEngine) (tables : RoutingTables) (ctx : SendRouteContext),
    (resolveInClient env (s.within tables) ctx).result.routeId ≠ some id

/-! ## Writes -/

/-- A target as the API takes it. -/
structure TargetInput where
  smscId : String
  weight : Option Nat
  cost : Option Rat
  enabled : Option Bool
  deriving DecidableEq

/-- What the console's repository takes of a route. -/
structure RoutePatch where
  name : Option String
  priority : Option Nat
  enabled : Option Bool
  destinationPrefix : Option String
  sender : Option String
  targetSmscId : Option String
  fallbackSmscId : Option String
  deriving DecidableEq

/-- What the advanced one takes besides. -/
structure RouteInput extends RoutePatch where
  routeType : Option RouteType
  strategy : Option SelectionStrategy
  matchPrefix : Option String
  countryCode : Option String
  operator : Option String
  cost : Option Rat
  windowStart : Option String
  windowEnd : Option String
  activeDays : Option (List Nat)
  targets : Option (List TargetInput)
  deriving DecidableEq

/-- `value.activeDays && value.activeDays.length ? value.activeDays.join(',') : null`. -/
def daysColumn (days : Option (List Nat)) : Option String :=
  (days.filter fun days => !days.isEmpty).map fun days => ",".intercalate (days.map toString)

/-- The other route that a route must not share its priority and its scope with. -/
def State.duplicate (s : State) (route : RoutingRule) : Option RoutingRule :=
  s.rules.find? fun r => r.id ≠ route.id && r.enabled && r.priority == route.priority &&
    r.destinationPrefix.getD "" == route.destinationPrefix.getD "" &&
      r.sender.getD "" == route.sender.getD ""

/-- `/^\+?[0-9]{1,20}$/`. -/
def isE164Like (text : String) : Bool :=
  let digits := match text.toList with
    | '+' :: digits => digits
    | digits => digits
  digits.all Char.isDigit && decide (1 ≤ digits.length ∧ digits.length ≤ 20)

namespace ConsoleRepository

/-- The row that `createRoute` inserts: the other columns have their defaults. -/
def newRoute (id name : String) (priority : Nat) (targetSmscId : String) (value : RoutePatch) :
    RoutingRule where
  id
  name
  priority
  enabled := value.enabled.getD true
  destinationPrefix := value.destinationPrefix
  sender := value.sender
  targetSmscId
  fallbackSmscId := value.fallbackSmscId
  routeType := .static
  strategy := .priority
  matchPrefix := none
  countryCode := none
  operator := none
  cost := none
  windowStart := none
  windowEnd := none
  activeDays := none
  action := .route
  overrideSender := none
  overrideRecipient := none
  overrideText := none
  dropReason := none
  deploymentState := .draft

def createRoute (s : State) (id name : String) (priority : Nat) (targetSmscId : String)
    (value : RoutePatch) : Option State :=
  let row := newRoute id name priority targetSmscId value
  if (s.rules.any fun r => r.priority = priority && r.enabled) ∨ (s.rule? id).isSome ∨
      !s.allows row then none
  else some { s with rules := s.rules ++ [row] }

/-- The row that `updateRoute` leaves. -/
def updatedRoute (value : RoutePatch) (old : RoutingRule) : RoutingRule :=
  { old with
    name := value.name.getD old.name
    priority := value.priority.getD old.priority
    enabled := value.enabled.getD old.enabled
    destinationPrefix := value.destinationPrefix.or old.destinationPrefix
    sender := value.sender.or old.sender
    targetSmscId := value.targetSmscId.getD old.targetSmscId
    fallbackSmscId := value.fallbackSmscId.or old.fallbackSmscId }

def updateRoute (s : State) (id : String) (value : RoutePatch) : Option State :=
  (s.rule? id).bind fun old =>
    let row := updatedRoute value old
    if s.allows row then some (s.setRule row) else none

/-- What `validateRoute` finds wrong.  That the binds exist is for the foreign keys to see to. -/
def validationErrors (s : State) (route : RoutingRule) : List String :=
  (if (Text.truthy route.destinationPrefix).any fun p => !isE164Like p then
      ["destinationPrefix must be an E.164-like prefix"] else []) ++
    (if (Text.truthy route.fallbackSmscId) = some route.targetSmscId then
      ["fallbackSmscId must differ from targetSmscId"] else []) ++
    ((s.duplicate route).map fun r => "priority conflicts with route " ++ r.name).toList ++
    (if s.smscs.contains route.targetSmscId then []
      else ["targetSmscId does not reference an existing SMSC"]) ++
    (if (Text.truthy route.fallbackSmscId).all s.smscs.contains then []
      else ["fallbackSmscId does not reference an existing SMSC"])

/-- A draft is validated. -/
def validateRoute (s : State) (now : Nat) (id : String) : Option State :=
  (s.rule? id).map fun route =>
    let errors := validationErrors s route
    let recorded := s.addDeployment ⟨id, .validate, errors.isEmpty, route, now⟩
    if errors.isEmpty ∧ route.deploymentState ≠ .deployed then
      recorded.setRule { route with deploymentState := .validated }
    else recorded

/-- A route is put in force. -/
def deployRoute (s : State) (now : Nat) (id : String) : Option State :=
  (s.rule? id).bind fun route =>
    if (s.duplicate route).isSome then none
    else
      let updated := { route with deploymentState := .deployed }
      some ((s.setRule updated).addDeployment ⟨id, .deploy, true, updated, now⟩)

/-- The deployments of a route that succeeded. -/
def deploys (s : State) (id : String) : List RouteDeployment :=
  s.deployments.filter fun d => d.routeId = id && d.operation = .deploy && d.succeeded

/-- `ORDER BY created_at DESC OFFSET 1 LIMIT 1`. -/
def previousSnapshot (s : State) (id : String) : Option RoutingRule :=
  (((deploys s id).insertionSort fun a b => b.createdAt ≤ a.createdAt)[1]?).map
    RouteDeployment.snapshot

/-- The row that `rollbackRoute` leaves. -/
def rolledBackRoute (previous : Option RoutingRule) (route : RoutingRule) : RoutingRule :=
  match previous with
  | some previous =>
    { route with
      name := previous.name
      priority := previous.priority
      enabled := previous.enabled
      destinationPrefix := previous.destinationPrefix
      sender := previous.sender
      targetSmscId := previous.targetSmscId
      fallbackSmscId := previous.fallbackSmscId
      deploymentState := .rolledBack }
  | none => { route with deploymentState := .rolledBack }

/-- A route is set back. -/
def rollbackRoute (s : State) (now : Nat) (id : String) : Option State :=
  (s.rule? id).bind fun route =>
    let updated := rolledBackRoute (previousSnapshot s id) route
    if s.allows updated then
      some ((s.setRule updated).addDeployment ⟨id, .rollback, true, updated, now⟩)
    else none

end ConsoleRepository

namespace RoutingDepthRepository

/-- The rows that `replaceTargets` inserts, with the ids that the database gives them. -/
def newTargets (routeId : String) (targets : List TargetInput) (ids : List String) (now : Nat) :
    List TargetRow :=
  (targets.zip ids).map fun p =>
    ⟨p.2, routeId, ⟨p.1.smscId, p.1.weight.getD 1, p.1.cost, p.1.enabled.getD true⟩, now⟩

/-- The targets of a route are replaced: each is a row, over a bind that exists and that no other
one is over. -/
def replaceTargets (s : State) (now : Nat) (routeId : String) (targets : List TargetInput)
    (ids : List String) : Option State :=
  let kept := s.targets.filter fun t => t.routeId ≠ routeId
  if ids.length = targets.length ∧ (kept.map TargetRow.id ++ ids).Nodup ∧
      (targets.map TargetInput.smscId).Nodup ∧ ∀ t ∈ targets, t.smscId ∈ s.smscs then
    some { s with targets := kept ++ newTargets routeId targets ids now }
  else none

/-- The row that `createRoute` inserts. -/
def newRoute (id name : String) (priority : Nat) (targetSmscId : String) (value : RouteInput) :
    RoutingRule :=
  { ConsoleRepository.newRoute id name priority targetSmscId value.toRoutePatch with
    routeType := value.routeType.getD .static
    strategy := value.strategy.getD .priority
    matchPrefix := value.matchPrefix
    countryCode := value.countryCode
    operator := value.operator
    cost := value.cost
    windowStart := value.windowStart
    windowEnd := value.windowEnd
    activeDays := daysColumn value.activeDays }

def createRoute (s : State) (now : Nat) (id name : String) (priority : Nat) (targetSmscId : String)
    (value : RouteInput) (ids : List String) : Option State :=
  let row := newRoute id name priority targetSmscId value
  if ((s.rules.any fun r => r.priority = priority && r.enabled) ∧ value.enabled.getD true) ∨
      (s.rule? id).isSome ∨ !s.allows row then none
  else
    let inserted := { s with rules := s.rules ++ [row] }
    match value.targets.filter fun targets => !targets.isEmpty with
    | some targets => replaceTargets inserted now id targets ids
    | none => some inserted

/-- The row that `updateRoute` leaves. -/
def updatedRoute (value : RouteInput) (old : RoutingRule) : RoutingRule :=
  { ConsoleRepository.updatedRoute value.toRoutePatch old with
    routeType := value.routeType.getD old.routeType
    strategy := value.strategy.getD old.strategy
    matchPrefix := value.matchPrefix.or old.matchPrefix
    countryCode := value.countryCode.or old.countryCode
    operator := value.operator.or old.operator
    cost := value.cost.or old.cost
    windowStart := value.windowStart.or old.windowStart
    windowEnd := value.windowEnd.or old.windowEnd
    activeDays := (daysColumn value.activeDays).or old.activeDays }

def updateRoute (s : State) (now : Nat) (id : String) (value : RouteInput) (ids : List String) :
    Option State :=
  (s.rule? id).bind fun old =>
    let row := updatedRoute value old
    if s.allows row then
      match value.targets with
      | some targets => replaceTargets (s.setRule row) now id targets ids
      | none => some (s.setRule row)
    else none

def archiveRoute (s : State) (id : String) : Option State :=
  (s.rule? id).map fun old => s.setRule { old with enabled := false }

end RoutingDepthRepository

/-! ## The machine -/

/-- What a transaction is asked for. -/
inductive Request where
  /-- A bind is defined. -/
  | defineSmsc (id : String)
  /-- The ids are those that the database will give. -/
  | create (id name : String) (priority : Nat) (targetSmscId : String) (value : RoutePatch)
  | createAdvanced (id name : String) (priority : Nat) (targetSmscId : String) (value : RouteInput)
    (ids : List String)
  | update (id : String) (value : RoutePatch)
  | updateAdvanced (id : String) (value : RouteInput) (ids : List String)
  | archive (id : String)
  | validate (id : String)
  | deploy (id : String)
  | rollback (id : String)
  deriving DecidableEq

/-- The request is neither about the deployments of a route nor recorded among them. -/
def Request.isEdit : Request → Bool
  | .validate _ | .deploy _ | .rollback _ => false
  | _ => true

/-- A transaction, and when it begins. -/
structure Action where
  now : Nat
  request : Request

/-- What a transaction that is committed leaves. -/
@[grind =] def serve (s : State) (now : Nat) : Request → Option State
  | .defineSmsc id => some { s with smscs := id :: s.smscs }
  | .create id name priority targetSmscId value =>
    ConsoleRepository.createRoute s id name priority targetSmscId value
  | .createAdvanced id name priority targetSmscId value ids =>
    RoutingDepthRepository.createRoute s now id name priority targetSmscId value ids
  | .update id value => ConsoleRepository.updateRoute s id value
  | .updateAdvanced id value ids => RoutingDepthRepository.updateRoute s now id value ids
  | .archive id => RoutingDepthRepository.archiveRoute s id
  | .validate id => ConsoleRepository.validateRoute s now id
  | .deploy id => ConsoleRepository.deployRoute s now id
  | .rollback id => ConsoleRepository.rollbackRoute s now id

/-- A transaction begins after every earlier one. -/
def step (s : State) (a : Action) : Option State :=
  if s.clock < a.now then (serve s a.now a.request).map fun t => { t with clock := a.now } else none

/-- The machine. -/
def routing : Transition.System State Action := ⟨step⟩

/-! ## Rows by their ids -/

section Rows

variable {s t : State} {id : String} {rule row : RoutingRule}

theorem rule?_mem (h : s.rule? id = some rule) : rule ∈ s.rules := mem_of_find?_eq_some h

theorem rule?_id (h : s.rule? id = some rule) : rule.id = id := by
  have hfound := find?_some h
  rwa [decide_eq_true_eq] at hfound

theorem mem_setRule (h : rule ∈ (s.setRule row).rules) :
    rule = row ∨ (rule ∈ s.rules ∧ rule.id ≠ row.id) := by
  obtain ⟨old, hold, heq⟩ := mem_map.mp h
  by_cases hid : old.id = row.id
  · rw [if_pos hid] at heq
    exact .inl heq.symm
  · rw [if_neg hid] at heq
    subst heq
    exact .inr ⟨hold, hid⟩

/-- The row that is written. -/
theorem rule?_setRule (h : s.rule? id = some rule) (hrow : row.id = id) :
    (s.setRule row).rule? id = some row := by
  have hfind : ∀ rules : List RoutingRule, (rules.find? fun r => r.id = id) = some rule →
      ((rules.map fun r => if r.id = row.id then row else r).find? fun r => r.id = id) =
        some row := by
    intro rules
    induction rules with
    | nil => exact fun h => by cases h
    | cons r rules ih =>
      intro h
      rw [map_cons]
      by_cases hr : r.id = id
      · rw [if_pos (hr.trans hrow.symm), find?_cons_of_pos (by rw [decide_eq_true_eq]; exact hrow)]
      · rw [find?_cons_of_neg (by rw [decide_eq_true_eq]; exact hr)] at h
        rw [if_neg fun heq => hr (heq.trans hrow),
          find?_cons_of_neg (by rw [decide_eq_true_eq]; exact hr)]
        exact ih h
  exact hfind s.rules h

end Rows

/-! ## What a transaction does -/

/-- The transactions there are: what each writes to the routes and to their deployments. -/
inductive Moves (s : State) (now : Nat) : Request → State → Prop where
  /-- A row is added, or one is edited, and nothing is said of the deployments. -/
  | defined {r : Request} {t : State} (hrules : t.rules = s.rules)
    (hdeployments : t.deployments = s.deployments) (hedit : r.isEdit = true) : Moves s now r t
  | created {r : Request} {t : State} (row : RoutingRule) (hnew : s.rule? row.id = none)
    (hdraft : row.deploymentState = .draft) (hrules : t.rules = s.rules ++ [row])
    (hdeployments : t.deployments = s.deployments) (hedit : r.isEdit = true) : Moves s now r t
  | edited {r : Request} {t : State} {id : String} {old : RoutingRule} (row : RoutingRule)
    (hold : s.rule? id = some old) (hid : row.id = id)
    (hstate : row.deploymentState = old.deploymentState)
    (hrules : t.rules = (s.setRule row).rules) (hdeployments : t.deployments = s.deployments)
    (hedit : r.isEdit = true) : Moves s now r t
  | validated {t : State} {id : String} {route : RoutingRule} (ok : Bool)
    (hroute : s.rule? id = some route)
    (hrules : t.rules = s.rules ∨
      t.rules = (s.setRule { route with deploymentState := .validated }).rules)
    (hdeployments : t.deployments = s.deployments ++ [⟨id, .validate, ok, route, now⟩]) :
    Moves s now (.validate id) t
  | deployed {id : String} {route : RoutingRule} (hroute : s.rule? id = some route) :
    Moves s now (.deploy id) ((s.setRule { route with deploymentState := .deployed }).addDeployment
      ⟨id, .deploy, true, { route with deploymentState := .deployed }, now⟩)
  | rolledBack {id : String} {route : RoutingRule} (hroute : s.rule? id = some route) :
    Moves s now (.rollback id)
      ((s.setRule (ConsoleRepository.rolledBackRoute
        (ConsoleRepository.previousSnapshot s id) route)).addDeployment ⟨id, .rollback, true,
          ConsoleRepository.rolledBackRoute (ConsoleRepository.previousSnapshot s id) route, now⟩)

section Moves

variable {s t : State} {now : Nat}

theorem replaceTargets_eq {routeId : String} {targets : List TargetInput} {ids : List String}
    (h : RoutingDepthRepository.replaceTargets s now routeId targets ids = some t) :
    t.rules = s.rules ∧ t.deployments = s.deployments := by
  rw [RoutingDepthRepository.replaceTargets] at h
  split at h
  · cases h
    exact ⟨rfl, rfl⟩
  · cases h

theorem rule?_eq_none_of_not {id : String} (h : ¬ (s.rule? id).isSome = true) :
    s.rule? id = none := by
  rwa [Bool.not_eq_true, isSome_eq_false_iff, isNone_iff_eq_none] at h

/-- **What a transaction does.** -/
theorem moves_of_serve {r : Request} (h : serve s now r = some t) : Moves s now r t := by
  cases r with
  | defineSmsc id =>
    cases h
    exact .defined rfl rfl rfl
  | create id name priority targetSmscId value =>
    rw [serve, ConsoleRepository.createRoute] at h
    split at h
    · cases h
    · next hnot =>
      cases h
      rw [not_or, not_or] at hnot
      exact .created (ConsoleRepository.newRoute id name priority targetSmscId value)
        (rule?_eq_none_of_not hnot.2.1) rfl rfl rfl rfl
  | createAdvanced id name priority targetSmscId value ids =>
    rw [serve, RoutingDepthRepository.createRoute] at h
    split at h
    · cases h
    · next hnot =>
      rw [not_or, not_or] at hnot
      have hnew := rule?_eq_none_of_not hnot.2.1
      cases htargets : value.targets.filter fun targets => !targets.isEmpty with
      | none =>
        rw [htargets] at h
        cases h
        exact .created (RoutingDepthRepository.newRoute id name priority targetSmscId value)
          hnew rfl rfl rfl rfl
      | some targets =>
        rw [htargets] at h
        obtain ⟨hrules, hdeployments⟩ := replaceTargets_eq h
        exact .created (RoutingDepthRepository.newRoute id name priority targetSmscId value)
          hnew rfl hrules hdeployments rfl
  | update id value =>
    obtain ⟨old, hold, h⟩ := bind_eq_some_iff.mp h
    dsimp only at h
    split at h
    · cases h
      have hid := rule?_id hold
      exact .edited (ConsoleRepository.updatedRoute value old) hold hid rfl rfl rfl rfl
    · cases h
  | updateAdvanced id value ids =>
    obtain ⟨old, hold, h⟩ := bind_eq_some_iff.mp h
    dsimp only at h
    have hid := rule?_id hold
    split at h
    · cases htargets : value.targets with
      | none =>
        rw [htargets] at h
        cases h
        exact .edited (RoutingDepthRepository.updatedRoute value old) hold hid rfl rfl rfl rfl
      | some targets =>
        rw [htargets] at h
        obtain ⟨hrules, hdeployments⟩ := replaceTargets_eq h
        exact .edited (RoutingDepthRepository.updatedRoute value old) hold hid rfl hrules
          hdeployments rfl
    · cases h
  | archive id =>
    obtain ⟨old, hold, rfl⟩ := map_eq_some_iff.mp h
    have hid := rule?_id hold
    exact .edited { old with enabled := false } hold hid rfl rfl rfl rfl
  | validate id =>
    obtain ⟨route, hroute, heq⟩ := map_eq_some_iff.mp h
    dsimp only at heq
    split at heq
    · subst heq
      exact .validated _ hroute (.inr rfl) rfl
    · subst heq
      exact .validated _ hroute (.inl rfl) rfl
  | deploy id =>
    obtain ⟨route, hroute, h⟩ := bind_eq_some_iff.mp h
    split at h
    · cases h
    · cases h
      exact .deployed hroute
  | rollback id =>
    obtain ⟨route, hroute, h⟩ := bind_eq_some_iff.mp h
    dsimp only at h
    split at h
    · cases h
      exact .rolledBack hroute
    · cases h

end Moves

/-! ## Out of force -/

/-- The route is not deployed. -/
def Undeployed (id : String) (s : State) : Prop :=
  ∀ r ∈ s.rules, r.id = id → r.deploymentState ≠ .deployed

section OutOfForce

variable {s t : State} {id : String} {now : Nat}

theorem toEngineIds_id {rows : List SmscRow} {route candidate : CandidateRoute}
    (h : toEngineIds rows route = some candidate) : candidate.id = route.id := by
  obtain ⟨primary, -, rfl⟩ := map_eq_some_iff.mp h
  rfl

/-- What routes a message is a row that is enabled and deployed. -/
theorem resolveInClient_routeId {env : TextEngine} {tables : RoutingTables} {ctx : SendRouteContext}
    (h : (resolveInClient env tables ctx).result.routeId = some id) :
    ∃ row ∈ tables.routingRules, row.route.id = id ∧ row.deploymentState = .deployed := by
  obtain ⟨candidate, hcandidate, rfl⟩ := selectRoute_routeId h
  obtain ⟨route, hroute, hengine⟩ := mem_filterMap.mp hcandidate
  have hmem := scopedRoutes_subset hroute
  rw [candidateRoutesInClient, mem_insertionSort] at hmem
  obtain ⟨row, hrow, rfl⟩ := mem_map.mp hmem
  obtain ⟨hmem, hlive⟩ := mem_filter.mp hrow
  rw [Bool.and_eq_true, decide_eq_true_eq] at hlive
  exact ⟨row, hmem, (toEngineIds_id hengine).symm, hlive.2⟩

theorem outOfForce_of_undeployed (h : Undeployed id s) : OutOfForce id s := by
  intro env tables ctx hrouted
  obtain ⟨row, hrow, hid, hdeployed⟩ := resolveInClient_routeId hrouted
  obtain ⟨rule, hrule, rfl⟩ := mem_map.mp hrow
  exact h rule hrule hid hdeployed

@[simp] theorem rolledBackRoute_id (previous : Option RoutingRule) (route : RoutingRule) :
    (ConsoleRepository.rolledBackRoute previous route).id = route.id := by
  cases previous <;> rfl

@[simp] theorem rolledBackRoute_state (previous : Option RoutingRule) (route : RoutingRule) :
    (ConsoleRepository.rolledBackRoute previous route).deploymentState = .rolledBack := by
  cases previous <;> rfl

/-- A row that is written leaves the route out of force, unless it deploys it. -/
theorem undeployed_setRule {row : RoutingRule} (h : Undeployed id s)
    (hrow : row.id = id → row.deploymentState ≠ .deployed)
    (hrules : t.rules = (s.setRule row).rules) : Undeployed id t := by
  intro r hr hid
  rw [hrules] at hr
  rcases mem_setRule hr with rfl | ⟨hr, -⟩
  · exact hrow hid
  · exact h r hr hid

/-- **Only a deployment puts a route in force.** -/
theorem undeployed_serve {r : Request} (h : Undeployed id s) (hnot : r ≠ .deploy id)
    (hserve : serve s now r = some t) : Undeployed id t := by
  cases moves_of_serve hserve with
  | defined hrules _ _ =>
    intro r hr
    rw [hrules] at hr
    exact h r hr
  | created row _ hdraft hrules _ _ =>
    intro r hr hid
    rw [hrules] at hr
    rcases mem_append.mp hr with hr | hr
    · exact h r hr hid
    · obtain rfl := mem_singleton.mp hr
      rw [hdraft]
      exact fun heq => by cases heq
  | edited row hold hid hstate hrules _ _ =>
    refine undeployed_setRule h (fun hrow => ?_) hrules
    rw [hstate]
    exact h _ (rule?_mem hold) ((rule?_id hold).trans (hid.symm.trans hrow))
  | validated ok hroute hrules _ =>
    rcases hrules with hrules | hrules
    · intro r hr
      rw [hrules] at hr
      exact h r hr
    · exact undeployed_setRule h (fun _ heq => by cases heq) hrules
  | deployed hroute =>
    refine undeployed_setRule h (fun hrow => ?_) rfl
    exact absurd (congrArg Request.deploy ((rule?_id hroute).symm.trans hrow)) hnot
  | rolledBack hroute =>
    refine undeployed_setRule h (fun _ => ?_) rfl
    rw [rolledBackRoute_state]
    exact fun heq => by cases heq

theorem step_serve {a : Action} (h : routing.step s a = some t) : s.clock < a.now ∧
    ∃ t', serve s a.now a.request = some t' ∧ t = { t' with clock := a.now } := by
  change step s a = some t at h
  rw [step] at h
  split at h
  · next hlt =>
    obtain ⟨t', hserve, rfl⟩ := map_eq_some_iff.mp h
    exact ⟨hlt, t', hserve, rfl⟩
  · cases h

theorem undeployed_run {as : List Action} (h : Undeployed id s)
    (hnot : ∀ a ∈ as, a.request ≠ .deploy id) (hrun : routing.run s as = some t) :
    Undeployed id t := by
  refine routing.invariant_along (fun s a s' hi hp hs => ?_) h
    (routing.along_of_mem (P := fun _ a => a.request ≠ .deploy id) (fun a ha _ => hnot a ha) s) hrun
  obtain ⟨-, t', hserve, rfl⟩ := step_serve hs
  have hkeeps : Undeployed id t' := undeployed_serve hi hp hserve
  exact hkeeps

end OutOfForce

/-! ## The last deployment but one -/

/-- Deployments are recorded one after the other. -/
structure InOrder (s : State) : Prop where
  rising : s.deployments.Pairwise fun a b => a.createdAt < b.createdAt
  past : ∀ d ∈ s.deployments, d.createdAt ≤ s.clock

section Deployments

open ConsoleRepository

variable {s t : State} {id : String} {now : Nat} {l : List RouteDeployment} {d : RouteDeployment}

theorem orderedInsert_oldest (h : ∀ e ∈ l, d.createdAt < e.createdAt) :
    l.orderedInsert (fun a b => b.createdAt ≤ a.createdAt) d = l ++ [d] := by
  induction l with
  | nil => rfl
  | cons e l ih =>
    have hlt := h e (mem_cons_self ..)
    rw [orderedInsert_cons, if_neg (Nat.not_le_of_lt hlt),
      ih fun e he => h e (mem_cons_of_mem _ he)]
    rfl

/-- The newest first. -/
theorem insertionSort_newest (h : l.Pairwise fun a b => a.createdAt < b.createdAt) :
    l.insertionSort (fun a b => b.createdAt ≤ a.createdAt) = l.reverse := by
  induction l with
  | nil => rfl
  | cons d l ih =>
    obtain ⟨hd, hl⟩ := pairwise_cons.mp h
    rw [insertionSort_cons, ih hl, reverse_cons]
    exact orderedInsert_oldest fun e he => hd e (mem_reverse.mp he)

theorem previousSnapshot_eq {older : List RouteDeployment} {previous last : RouteDeployment}
    (h : InOrder s) (hdeploys : deploys s id = older ++ [previous, last]) :
    previousSnapshot s id = some previous.snapshot := by
  have hrising : (deploys s id).Pairwise fun a b => a.createdAt < b.createdAt := h.rising.filter _
  rw [previousSnapshot, insertionSort_newest hrising, hdeploys, reverse_append]
  rfl

theorem inOrder_append (h : InOrder s) (hnow : s.clock < d.createdAt)
    (hdeployments : t.deployments = s.deployments ++ [d]) (hclock : t.clock = d.createdAt) :
    InOrder t where
  rising := by
    rw [hdeployments, pairwise_append]
    refine ⟨h.rising, pairwise_singleton _ _, fun a ha b hb => ?_⟩
    obtain rfl := mem_singleton.mp hb
    exact Nat.lt_of_le_of_lt (h.past a ha) hnow
  past e he := by
    rw [hdeployments] at he
    rw [hclock]
    rcases mem_append.mp he with he | he
    · exact Nat.le_of_lt (Nat.lt_of_le_of_lt (h.past e he) hnow)
    · rw [mem_singleton.mp he]

theorem inOrder_step {a : Action} (h : InOrder s) (hstep : routing.step s a = some t) :
    InOrder t := by
  obtain ⟨now, request⟩ := a
  obtain ⟨hnow, t', hserve, rfl⟩ := step_serve hstep
  have hsame : t'.deployments = s.deployments → InOrder { t' with clock := now } := by
    intro heq
    constructor
    case rising => exact heq ▸ h.rising
    case past =>
      intro d hd
      have hd' : d ∈ s.deployments := heq ▸ hd
      exact Nat.le_of_lt (Nat.lt_of_le_of_lt (h.past d hd') hnow)
  cases moves_of_serve hserve with
  | defined _ hdeployments _ | created _ _ _ _ hdeployments _ | edited _ _ _ _ _ hdeployments _ =>
    exact hsame hdeployments
  | validated ok hroute _ hdeployments => exact inOrder_append h hnow hdeployments rfl
  | deployed _ | rolledBack _ => exact inOrder_append h hnow rfl rfl

theorem inOrder_run {as : List Action} (hrun : routing.run init as = some s) : InOrder s :=
  routing.invariant_run (fun _ _ _ hi hs => inOrder_step hi hs)
    ⟨List.Pairwise.nil, fun _ h => by cases h⟩ hrun

/-- A transaction that does not deploy the route adds no deployment of it. -/
theorem deploys_serve {r : Request} (hnot : r ≠ .deploy id) (hserve : serve s now r = some t) :
    deploys t id = deploys s id := by
  have hother : ∀ {d : RouteDeployment}, ¬ (d.routeId = id ∧ d.operation = .deploy) →
      t.deployments = s.deployments ++ [d] → deploys t id = deploys s id := by
    intro d hd heq
    rw [deploys, deploys, heq, filter_append]
    refine (congrArg _ (filter_eq_nil_iff.mpr fun e he hkeep => ?_)).trans (append_nil _)
    obtain rfl := mem_singleton.mp he
    simp only [Bool.and_eq_true, decide_eq_true_eq] at hkeep
    exact hd hkeep.1
  cases moves_of_serve hserve with
  | defined _ hdeployments _ | created _ _ _ _ hdeployments _ | edited _ _ _ _ _ hdeployments _ =>
    rw [deploys, deploys, hdeployments]
  | validated ok hroute _ hdeployments =>
    exact hother (fun h => by cases h.2) hdeployments
  | deployed hroute =>
    exact hother (fun h => hnot (congrArg Request.deploy h.1)) rfl
  | rolledBack hroute => exact hother (fun h => by cases h.2) rfl

theorem deploys_run {as : List Action} (hnot : ∀ a ∈ as, a.request ≠ .deploy id)
    (hrun : routing.run s as = some t) : deploys t id = deploys s id := by
  refine routing.invariant_along (I := fun t => deploys t id = deploys s id)
    (fun u a u' hi hp hs => ?_) rfl
    (routing.along_of_mem (P := fun _ a => a.request ≠ .deploy id) (fun a ha _ => hnot a ha) s) hrun
  obtain ⟨-, t', hserve, rfl⟩ := step_serve hs
  exact (deploys_serve hp hserve).trans hi

/-- What a deployment leaves. -/
theorem deploy_step {now : Nat} (hstep : routing.step s ⟨now, .deploy id⟩ = some t) :
    ∃ route, s.rule? id = some route ∧
      t.rule? id = some { route with deploymentState := .deployed } ∧
        t.loadTargets id = s.loadTargets id ∧ deploys t id = deploys s id ++
          [⟨id, .deploy, true, { route with deploymentState := .deployed }, now⟩] := by
  obtain ⟨-, t', hserve, rfl⟩ := step_serve hstep
  cases moves_of_serve hserve with
  | defined _ _ hedit | created _ _ _ _ _ hedit | edited _ _ _ _ _ _ hedit => cases hedit
  | deployed hroute =>
    have hid := rule?_id hroute
    refine ⟨_, hroute, rule?_setRule hroute hid, rfl, ?_⟩
    rw [deploys, deploys]
    show List.filter _ (s.deployments ++ [_]) = _
    rw [filter_append, filter_cons_of_pos (by simp), filter_nil]

/-- What a rollback leaves. -/
theorem rollback_step {now : Nat} (hstep : routing.step s ⟨now, .rollback id⟩ = some t) :
    ∃ route, s.rule? id = some route ∧
      t.rule? id = some (rolledBackRoute (previousSnapshot s id) route) ∧
        t.loadTargets id = s.loadTargets id ∧ Undeployed id t := by
  obtain ⟨-, t', hserve, rfl⟩ := step_serve hstep
  have hsame : ∀ {route : RoutingRule}, s.rule? id = some route →
      (rolledBackRoute (previousSnapshot s id) route).id = id := fun h => by
    rw [rolledBackRoute_id, rule?_id h]
  cases moves_of_serve hserve with
  | defined _ _ hedit | created _ _ _ _ _ hedit | edited _ _ _ _ _ _ hedit => cases hedit
  | rolledBack hroute =>
    refine ⟨_, hroute, rule?_setRule hroute (hsame hroute), rfl, fun r hr hid => ?_⟩
    rcases mem_setRule hr with rfl | ⟨-, hne⟩
    · rw [rolledBackRoute_state]
      exact fun heq => by cases heq
    · exact absurd (hid.trans (hsame hroute).symm) hne

end Deployments

/-! ## What a rollback promises -/

/-- The columns that a rollback puts back. -/
def restored (r : RoutingRule) :
    String × Nat × Bool × Option String × Option String × String × Option String :=
  (r.name, r.priority, r.enabled, r.destinationPrefix, r.sender, r.targetSmscId, r.fallbackSmscId)

/-- A row without them, and without its state. -/
def kept (r : RoutingRule) : RoutingRule :=
  { r with
    name := ""
    priority := 0
    enabled := false
    destinationPrefix := none
    sender := none
    targetSmscId := ""
    fallbackSmscId := none
    deploymentState := .draft }

/-- What a rollback leaves alone of a route is in the one state as it is in the other. -/
def KeptAlike (id : String) (s t : State) : Prop :=
  (t.rule? id).map kept = (s.rule? id).map kept ∧ t.loadTargets id = s.loadTargets id

/-- The route is in the one state as it is in the other. -/
def SameRoute (id : String) (s t : State) : Prop :=
  t.rule? id = s.rule? id ∧ t.loadTargets id = s.loadTargets id

instance (id : String) (s t : State) : Decidable (KeptAlike id s t) :=
  inferInstanceAs (Decidable (_ ∧ _))

section Promise

open ConsoleRepository

variable {s t : State} {id : String}

theorem restored_rolledBackRoute (previous route : RoutingRule) :
    restored (rolledBackRoute (some previous) route) = restored previous := rfl

/-- A row is what a rollback puts back, what it leaves alone, and its state. -/
theorem ext_of_kept {r r' : RoutingRule} (hkept : kept r = kept r')
    (hrestored : restored r = restored r') (hstate : r.deploymentState = r'.deploymentState) :
    r = r' := by
  cases r
  cases r'
  simp only [kept, RoutingRule.mk.injEq] at hkept
  simp only [restored, Prod.mk.injEq] at hrestored
  simp_all

theorem routesAlike_of_eq {rule : RoutingRule} (hs : s.rule? id = some rule)
    (ht : t.rule? id = some rule) (htargets : t.loadTargets id = s.loadTargets id) :
    RoutesAlike id s t := by
  have hid := rule?_id hs
  refine ⟨s.routeRow rule, s.routeRow rule, by rw [State.routeRow?, hs, map_some], ?_,
    fun _ _ _ => rfl⟩
  rw [State.routeRow?, ht, map_some, State.routeRow, State.routeRow, hid, htargets]

theorem run_concat {as : List Action} {a : Action} (h : routing.run s (as ++ [a]) = some t) :
    ∃ u, routing.run s as = some u ∧ routing.step u a = some t := by
  rw [routing.run_append] at h
  obtain ⟨u, hu, hlast⟩ := bind_eq_some_iff.mp h
  obtain ⟨t', ht, heq⟩ := routing.run_cons_eq_some.mp hlast
  cases heq
  exact ⟨u, hu, ht⟩

end Promise

/-- **A rollback takes a route out of force**: no message is routed by it in any state before it is
deployed again, rolled back as often as you like.  It puts seven columns back as the last deployment
but one had them; where what it leaves alone is as it was then, the route takes every message as it
did then, once it is deployed again. -/
theorem rollback_out_of_force (id : String) (as bs cs : List Action) (t₁ t₂ t₃ : Nat)
    (s₁ s₂ s₃ s₄ : State) (h₁ : routing.run init (as ++ [⟨t₁, .deploy id⟩]) = some s₁)
    (h₂ : routing.run s₁ (bs ++ [⟨t₂, .deploy id⟩]) = some s₂)
    (hbs : ∀ a ∈ bs, a.request ≠ .deploy id) (h₃ : routing.run s₂ cs = some s₃)
    (hcs : ∀ a ∈ cs, a.request ≠ .deploy id) (h₄ : routing.step s₃ ⟨t₃, .rollback id⟩ = some s₄) :
    (∀ ds t, (∀ a ∈ ds, a.request ≠ .deploy id) → routing.run s₄ ds = some t → OutOfForce id t) ∧
      (∃ rule rule', s₁.rule? id = some rule ∧ s₄.rule? id = some rule' ∧
        restored rule' = restored rule) ∧
      (KeptAlike id s₁ s₃ → ∀ ds u t₄ s₅, routing.run s₄ ds = some u → SameRoute id s₄ u →
        routing.step u ⟨t₄, .deploy id⟩ = some s₅ → RoutesAlike id s₁ s₅) := by
  obtain ⟨s₀, h₀, hdeploy₁⟩ := run_concat h₁
  obtain ⟨s₁', hb, hdeploy₂⟩ := run_concat h₂
  obtain ⟨route₀, -, hrule₁, -, hdeploys₁⟩ := deploy_step hdeploy₁
  obtain ⟨route₁, -, -, -, hdeploys₂⟩ := deploy_step hdeploy₂
  obtain ⟨route, hroute, hrule₄, htargets₄, hundeployed⟩ := rollback_step h₄
  -- the last two deployments are these, whatever happened before and in between
  have hprevious : ConsoleRepository.previousSnapshot s₃ id =
      some { route₀ with deploymentState := .deployed } := by
    have hwhole : routing.run init
        (as ++ [⟨t₁, .deploy id⟩] ++ (bs ++ [⟨t₂, .deploy id⟩]) ++ cs) = some s₃ := by
      rw [routing.run_append, routing.run_append, h₁, bind_some, h₂, bind_some, h₃]
    have hdeploys : ConsoleRepository.deploys s₃ id = ConsoleRepository.deploys s₀ id ++
        [⟨id, .deploy, true, { route₀ with deploymentState := .deployed }, t₁⟩,
          ⟨id, .deploy, true, { route₁ with deploymentState := .deployed }, t₂⟩] := by
      rw [deploys_run hcs h₃, hdeploys₂, deploys_run hbs hb, hdeploys₁, append_assoc]
      rfl
    exact previousSnapshot_eq (inOrder_run hwhole) hdeploys
  rw [hprevious] at hrule₄
  have hcolumns := restored_rolledBackRoute { route₀ with deploymentState := .deployed } route
  refine ⟨fun ds t hds hrun => outOfForce_of_undeployed (undeployed_run hundeployed hds hrun),
    ⟨_, _, hrule₁, hrule₄, hcolumns⟩, fun hkept ds u t₄ s₅ _ hsame h₅ => ?_⟩
  obtain ⟨route₄, hroute₄, hrule₅, htargets₅, -⟩ := deploy_step h₅
  obtain rfl := some.inj (hroute₄.symm.trans (hsame.1.trans hrule₄))
  have heq : kept route = kept route₀ := by
    have hmaps := hkept.1
    rw [hroute, hrule₁] at hmaps
    exact some.inj hmaps
  refine routesAlike_of_eq hrule₁ (hrule₅.trans (congrArg some (ext_of_kept ?_ ?_ rfl))) ?_
  · exact heq
  · exact hcolumns
  · rw [htargets₅, hsame.2, htargets₄, hkept.2]

/-! ## A route that is deployed twice -/

/-- A route over one bind, which is edited and deployed again. -/
def firstDeployment : List Action :=
  [⟨1, .defineSmsc "a"⟩, ⟨2, .defineSmsc "b"⟩,
    ⟨3, .create "uganda" "Uganda" 10 "a" ⟨none, none, none, some "256", none, none, none⟩⟩]

def secondDeployment : List Action :=
  [⟨5, .update "uganda" ⟨none, none, none, none, none, some "b", none⟩⟩]

theorem rollback_out_of_force_edited : ∃ s₁ s₄ s₅,
    routing.run init (firstDeployment ++ [⟨4, .deploy "uganda"⟩]) = some s₁ ∧
      routing.run s₁ (secondDeployment ++ [⟨6, .deploy "uganda"⟩, ⟨7, .rollback "uganda"⟩]) =
        some s₄ ∧ routing.step s₄ ⟨8, .deploy "uganda"⟩ = some s₅ ∧
          OutOfForce "uganda" s₄ ∧ RoutesAlike "uganda" s₁ s₅ := by
  obtain ⟨s₁, h₁, hrest⟩ := routing.exists_run (s := init)
    (w := firstDeployment ++ [⟨4, .deploy "uganda"⟩])
    (fun s₁ => (routing.run s₁ (secondDeployment ++ [⟨6, .deploy "uganda"⟩])).any fun s₂ =>
      decide (KeptAlike "uganda" s₁ s₂) && (routing.step s₂ ⟨7, .rollback "uganda"⟩).any fun s₄ =>
        (routing.step s₄ ⟨8, .deploy "uganda"⟩).isSome) (by decide +kernel)
  obtain ⟨s₂, h₂, hrest⟩ := (Option.any_eq_true _ _).mp hrest
  obtain ⟨hkept, hrest⟩ := Bool.and_eq_true_iff.mp hrest
  obtain ⟨s₄, h₄, hrest⟩ := (Option.any_eq_true _ _).mp hrest
  obtain ⟨s₅, h₅⟩ := isSome_iff_exists.mp hrest
  obtain ⟨hforce, -, halike⟩ := rollback_out_of_force "uganda" firstDeployment secondDeployment []
    4 6 7 s₁ s₂ s₂ s₄ h₁ h₂ (by decide) rfl (by decide) h₄
  refine ⟨s₁, s₄, s₅, h₁, ?_, h₅, hforce [] s₄ (by decide) rfl,
    halike (of_decide_eq_true hkept) [] s₄ 8 s₅ rfl ⟨rfl, rfl⟩ h₅⟩
  rw [show secondDeployment ++ [⟨6, .deploy "uganda"⟩, ⟨7, .rollback "uganda"⟩] =
    (secondDeployment ++ [⟨6, .deploy "uganda"⟩]) ++ [⟨7, .rollback "uganda"⟩] from rfl,
    routing.run_append, h₂, bind_some, routing.run_cons_eq_some]
  exact ⟨s₄, h₄, rfl⟩

/-- Two binds that are up. -/
def twoBinds : RoutingTables where
  smscDefinitions := [⟨"a", "smsc-a", true, none⟩, ⟨"b", "smsc-b", true, none⟩]
  bindStates := [⟨"a", "bound"⟩, ⟨"b", "bound"⟩]
  routingRules := []
  customerRoutes := []

/-- **A rollback to the previous deployment does not route what that deployment routed.** -/
theorem rollback_not_routed : ∃ s₁ s₄,
    routing.run init (firstDeployment ++ [⟨4, .deploy "uganda"⟩]) = some s₁ ∧
      routing.run s₁ (secondDeployment ++ [⟨6, .deploy "uganda"⟩, ⟨7, .rollback "uganda"⟩]) =
        some s₄ ∧
      (resolveInClient .ascii (s₁.within twoBinds) plainMessage).result.routeId = some "uganda" ∧
        (resolveInClient .ascii (s₄.within twoBinds) plainMessage).result.routeId = none := by
  obtain ⟨s₁, h₁, hrest⟩ := routing.exists_run (s := init)
    (w := firstDeployment ++ [⟨4, .deploy "uganda"⟩])
    (fun s₁ => decide ((resolveInClient .ascii (s₁.within twoBinds) plainMessage).result.routeId =
        some "uganda") &&
      (routing.run s₁ (secondDeployment ++ [⟨6, .deploy "uganda"⟩, ⟨7, .rollback "uganda"⟩])).any
        fun s₄ => decide
          ((resolveInClient .ascii (s₄.within twoBinds) plainMessage).result.routeId = none))
    (by decide +kernel)
  obtain ⟨hrouted, hrest⟩ := Bool.and_eq_true_iff.mp hrest
  obtain ⟨s₄, h₄, hnot⟩ := (Option.any_eq_true _ _).mp hrest
  exact ⟨s₁, s₄, h₁, h₄, of_decide_eq_true hrouted, of_decide_eq_true hnot⟩

end Jkannel.Routing.RouteRollback
