import Jkannel.Lib.Transition
import Jkannel.Routing.Resolution
import Jkannel.Routing.Rotation

/-!
# Moving a route's traffic by hand

An operator fails a route over to another bind, and reverts that later.  The override has a table of
its own, and the route is not edited.

* `failOver` and `revertFailover` are the two transactions; `step` puts them among everything that
  changes what the resolution reads.
* `Holds` is the promise for a message: an override that is active on its controlling route, to a
  bind that is available, decides.  The resolution never reads the table, so it holds when the bind is
  the one the route would have come to anyway, `Comes`, and only then (`manual_failover`).  That a
  reverted override leaves no trace, and that a route has one active override at most, is true always.
-/

namespace Jkannel.Routing.Failover

open TextEngine (ascii)

/-! ## The table and its writes -/

/-- A row of `route_failovers`: an active override while it has not ended. -/
structure RouteFailover where
  routeId : String
  /-- The route's target when the override was made. -/
  fromSmscId : String
  toSmscId : String
  reason : String
  startedBy : String
  startedAt : Int
  endedBy : Option String
  endedAt : Option Int
  endReason : Option String

def RouteFailover.active (row : RouteFailover) : Bool := row.endedAt.isNone

/-- The tables and the failovers. -/
structure State where
  tables : RoutingTables
  failovers : List RouteFailover

/-- What `failOver` returns, with the row's place for its id. -/
structure FailoverStarted where
  id : Nat
  routeId : String
  toSmscId : String
  startedAt : Int
  note : String

/-- What the names are looked up in. -/
structure Setting where
  /-- The name of a bind, by its id. -/
  smscName : String → String

def MIN_REASON : Nat := 3

/-- A reason, trimmed; a failover requires one. -/
def requireReason (operation reason : String) : Except String String :=
  let text := Text.trim reason
  if Text.jsLength text < MIN_REASON then
    .error (operation ++ " requires a reason of at least " ++ toString MIN_REASON ++
      " characters. It is recorded in the audit trail and is what makes this action explicable " ++
      "afterwards.")
  else if 500 < Text.jsLength text then .error "reason must be at most 500 characters"
  else .ok text

/-- `UPDATE route_failovers SET ended_at = … WHERE route_id = … AND ended_at IS NULL`. -/
def endActive (routeId userId reason : String) (now : Int) (rows : List RouteFailover) :
    List RouteFailover :=
  rows.map fun row =>
    if row.routeId = routeId ∧ row.active then
      { row with endedAt := some now, endedBy := some userId, endReason := some reason }
    else row

def supersededReason : String := "Superseded by a new failover"

def startedNote : String :=
  "The route’s configured target is unchanged; this override sits on top of it and can " ++
    "be reverted without editing the route."

/-- A route's traffic is moved. -/
def failOver (env : Setting) (s : State) (routeId toSmscId reason userId : String) (now : Int) :
    Except String (State × FailoverStarted) := do
  let reason ← requireReason "failover" reason
  match s.tables.routingRules.find? fun row => row.route.id = routeId with
  | none => throw "Route not found"
  | some route =>
    match s.tables.smscDefinitions.find? fun d => d.id = toSmscId with
    | none => throw "Target SMSC not found"
    | some target =>
      if route.route.targetSmscId = toSmscId then
        throw ("That is already this route’s target. A failover to the current target would " ++
          "appear in the audit trail as a change that did not happen.")
      else if target.trafficSuspendedAt.isSome then
        throw ("Traffic on " ++ env.smscName toSmscId ++ " is suspended, so it cannot receive a " ++
          "failover. Resume it first, or choose another target.")
      else
        let ended := endActive routeId userId supersededReason now s.failovers
        return ({ s with failovers := ended ++ [⟨routeId, route.route.targetSmscId, toSmscId, reason,
            userId, now, none, none, none⟩] },
          ⟨ended.length, routeId, toSmscId, now, startedNote⟩)

/-- It is moved back. -/
def revertFailover (s : State) (routeId reason userId : String) (now : Int) :
    Except String State := do
  let reason ← requireReason "failover" reason
  if s.failovers.any fun row => row.routeId = routeId && row.active then
    return { s with failovers := endActive routeId userId reason now s.failovers }
  else throw "No active failover on this route"

/-! ## The machine -/

/-- The requests there are. -/
inductive Action where
  | failOver (routeId toSmscId reason userId : String) (now : Int)
  | revertFailover (routeId reason userId : String) (now : Int)
  /-- A route is created or edited. -/
  | writeRoute (row : RouteRow)
  | deleteRoute (routeId : String)
  /-- A bind is created or changed. -/
  | writeSmsc (definition : SmscDefinition)
  /-- The poller sees a bind in a state. -/
  | observe (smscId state : String)
  | writeCustomerRoutes (rows : List CustomerRouteRow)

/-- What an action does to the tables that routing reads. -/
def change (tables : RoutingTables) : Action → RoutingTables
  | .failOver .. => tables
  | .revertFailover .. => tables
  | .writeRoute row =>
    { tables with
      routingRules := row :: tables.routingRules.filter fun rule => rule.route.id ≠ row.route.id }
  | .deleteRoute routeId =>
    { tables with
      routingRules := tables.routingRules.filter fun rule => rule.route.id ≠ routeId }
  | .writeSmsc definition =>
    { tables with
      smscDefinitions :=
        definition :: tables.smscDefinitions.filter fun d => d.id ≠ definition.id }
  | .observe smscId state =>
    { tables with
      bindStates :=
        ⟨smscId, state⟩ :: tables.bindStates.filter fun row => row.smscId ≠ smscId }
  | .writeCustomerRoutes rows => { tables with customerRoutes := rows }

/-- What one action does; a call that is refused changes nothing. -/
@[grind =] def step (env : Setting) (s : State) : Action → Option State
  | .failOver routeId toSmscId reason userId now =>
    match failOver env s routeId toSmscId reason userId now with
    | .ok (s', _) => some s'
    | .error _ => some s
  | .revertFailover routeId reason userId now =>
    match revertFailover s routeId reason userId now with
    | .ok s' => some s'
    | .error _ => some s
  | .deleteRoute routeId =>
    -- a route's overrides go with it
    some ⟨change s.tables (.deleteRoute routeId), s.failovers.filter fun row => row.routeId ≠ routeId⟩
  | a => some { s with tables := change s.tables a }

/-- Operators at work, as a transition system. -/
def overriding (env : Setting) : Transition.System State Action := ⟨step env⟩

/-! ## What is promised -/

/-- An override decides for a message whose controlling route it is on, if its bind is available. -/
def Holds (env : TextEngine) (s : State) (ctx : SendRouteContext) : Prop :=
  ∀ row ∈ s.failovers, row.active →
    (resolveInClient env s.tables ctx).result.routeId = some row.routeId →
    ∀ engineId ∈ byId (availability s.tables).rows row.toSmscId,
      engineId ∈ (availability s.tables).available →
        (resolveInClient env s.tables ctx).result.smscId = some engineId

/-- A route comes to a bind by its own configuration: the bind is the first of the route's that is
up, for the strategies that prefer the primary; the one whose turn it is, for those that rotate; and
the cheapest that is up on any matching route, for the one that goes by cost. -/
def Comes (env : TextEngine) (matched : List (CandidateRoute × Nat)) (route : CandidateRoute)
    (ctx : SelectionContext) (engineId : String) : Prop :=
  let up := reachable (routeCandidates route) ctx
  match route.strategy with
  | .priority | .timeBased => up.head?.map SmscCandidate.smscId = some engineId
  | .roundRobin =>
    up[(ctx.rotation % up.length).toNat]?.map SmscCandidate.smscId = some engineId
  | .loadBalance => (weightedPick up ctx.rotation).map SmscCandidate.smscId = some engineId
  | .leastCost => (((reachable (matched.flatMap fun m => routeCandidates m.1) ctx).insertionSort
      (compareCost env · · ≠ .gt)).head?).map SmscCandidate.smscId = some engineId

/-- Every override on the route that controls a message is to a bind that is not available, or to one
the route comes to by itself. -/
def Configured (env : TextEngine) (s : State) (ctx : SendRouteContext) : Prop :=
  digitsOnly (some ctx.msisdn) ≠ "" →
  ∀ controlling ∈ (matchedRoutes env (candidatesFor env s.tables ctx.customerId)
      (selectionContext s.tables ctx)).head?,
    ∀ row ∈ s.failovers, row.active → row.routeId = controlling.1.id →
      ∀ engineId ∈ byId (availability s.tables).rows row.toSmscId,
        engineId ∈ (availability s.tables).available →
          Comes env (matchedRoutes env (candidatesFor env s.tables ctx.customerId)
            (selectionContext s.tables ctx)) controlling.1 (selectionContext s.tables ctx) engineId

/-! ## The promise and the configuration -/

/-- **A strategy's choice is what the route comes to.** -/
theorem comes_iff (env : TextEngine) (matched : List (CandidateRoute × Nat)) (route : CandidateRoute)
    (ctx : SelectionContext) (engineId : String) :
    Comes env matched route ctx engineId ↔
      (chooseSmsc env matched route ctx).1.map SmscCandidate.smscId = some engineId := by
  cases hstrategy : route.strategy with
  | leastCost => simp only [Comes, chooseSmsc, hstrategy, withReason, cheapest]
  | roundRobin => simp only [Comes, chooseSmsc, hstrategy, withReason, inTurn]
  | loadBalance => simp only [Comes, chooseSmsc, hstrategy, withReason]
  | priority =>
    rw [chooseSmsc_preferring env matched ctx (.inl hstrategy)]
    simp only [Comes, hstrategy]
  | timeBased =>
    rw [chooseSmsc_preferring env matched ctx (.inr hstrategy)]
    simp only [Comes, hstrategy]

/-- **The promise holds for a message just when the route comes to the bind by itself.** -/
theorem holds_iff (env : TextEngine) (s : State) (ctx : SendRouteContext) :
    Holds env s ctx ↔ Configured env s ctx := by
  have hrouteId : (resolveInClient env s.tables ctx).result.routeId =
      (selection env s.tables ctx).routeId := by rw [resolveInClient]
  unfold Holds Configured
  rw [hrouteId, resolveInClient_smscId, selection]
  have hmsisdn : (selectionContext s.tables ctx).msisdn = ctx.msisdn := rfl
  by_cases hdigits : digitsOnly (some ctx.msisdn) = ""
  · -- nothing is dialled, so no route controls the message
    have hnone : (selectRoute env (candidatesFor env s.tables ctx.customerId)
        (selectionContext s.tables ctx)).routeId = none := by
      rw [selectRoute, hmsisdn, if_pos hdigits]
      rfl
    refine ⟨fun _ h => absurd hdigits h, fun _ row _ _ hroute => ?_⟩
    rw [hnone] at hroute
    cases hroute
  · cases hmatched : matchedRoutes env (candidatesFor env s.tables ctx.customerId)
        (selectionContext s.tables ctx) with
    | nil =>
      have hnone : (selectRoute env (candidatesFor env s.tables ctx.customerId)
          (selectionContext s.tables ctx)).routeId = none := by
        rw [selectRoute, hmsisdn, if_neg hdigits, hmatched]
        rfl
      refine ⟨fun _ _ _ hc => absurd hc (by simp), fun _ row _ _ hroute => ?_⟩
      rw [hnone] at hroute
      cases hroute
    | cons m rest =>
      obtain ⟨controlling, specificity⟩ := m
      have hdialled : digitsOnly (some (selectionContext s.tables ctx).msisdn) ≠ "" := by
        rwa [hmsisdn]
      obtain ⟨trace, heq⟩ := selectRoute_of_matched hdialled hmatched
      rw [heq]
      constructor
      · intro h _ controlling' hc row hrow hactive hid engineId hengine havailable
        rw [List.head?_cons, Option.mem_some_iff] at hc
        subst hc
        exact (comes_iff ..).mpr (h row hrow hactive (congrArg some hid.symm) engineId hengine
          havailable)
      · intro h row hrow hactive hid engineId hengine havailable
        exact (comes_iff ..).mp (h hdigits (controlling, specificity) rfl row hrow hactive
          (Option.some.inj hid).symm engineId hengine havailable)

/-! ## What holds always -/

/-- An action that makes or reverts an override on this route. -/
def concerns (routeId : String) : Action → Bool
  | .failOver routeId' .. => routeId' = routeId
  | .revertFailover routeId' .. => routeId' = routeId
  | _ => false

/-- Two overrides that are not both active on one route. -/
def Apart (a b : RouteFailover) : Prop := a.active → b.active → a.routeId ≠ b.routeId

section Steps

variable {env : Setting} {s s' : State}

variable {routeId reason userId : String} {now : Int} {a : Action} {rows : List RouteFailover}

theorem failOver_ok {toSmscId : String} {started : FailoverStarted}
    (h : failOver env s routeId toSmscId reason userId now = .ok (s', started)) :
    ∃ row : RouteFailover, row.routeId = routeId ∧ s' = { s with
      failovers := endActive routeId userId supersededReason now s.failovers ++ [row] } := by
  unfold failOver at h
  cases hreason : requireReason "failover" reason with
  | error message =>
    rw [hreason] at h
    cases h
  | ok text =>
    rw [hreason] at h
    split at h
    · cases h
    · split at h
      · cases h
      · split at h
        · cases h
        · split at h
          · cases h
          · cases h
            exact ⟨_, rfl, rfl⟩

theorem revertFailover_ok (h : revertFailover s routeId reason userId now = .ok s') :
    ∃ endReason, s' = { s with failovers := endActive routeId userId endReason now s.failovers } := by
  unfold revertFailover at h
  cases hreason : requireReason "failover" reason with
  | error message =>
    rw [hreason] at h
    cases h
  | ok text =>
    rw [hreason] at h
    split at h
    · cases h
      exact ⟨text, rfl⟩
    · cases h

/-- Overrides are no part of the tables that routing reads. -/
theorem step_tables (hs : step env s a = some s') : s'.tables = change s.tables a := by
  cases a with
  | failOver routeId toSmscId reason userId now =>
    rw [step] at hs
    split at hs
    · rename_i started hok
      cases hs
      obtain ⟨row, -, rfl⟩ := failOver_ok hok
      rfl
    · cases hs
      rfl
  | revertFailover routeId reason userId now =>
    rw [step] at hs
    split at hs
    · rename_i hok
      cases hs
      obtain ⟨endReason, rfl⟩ := revertFailover_ok hok
      rfl
    · cases hs
      rfl
  | _ =>
    exact Option.some.inj hs ▸ rfl

/-- Every action can happen, if only to be refused. -/
theorem step_total (env : Setting) (s : State) (a : Action) : ∃ s', step env s a = some s' := by
  cases a with
  | failOver _ _ _ _ _ | revertFailover _ _ _ _ =>
    rw [step]
    split
    · exact ⟨_, rfl⟩
    · exact ⟨_, rfl⟩
  | _ =>
    exact ⟨_, rfl⟩

theorem change_of_concerns (h : concerns routeId a = true) (tables : RoutingTables) :
    change tables a = tables := by
  cases a with
  | failOver | revertFailover => rfl
  | _ => cases h

/-- Ending what is active on a route keeps overrides apart, and leaves none active there. -/
theorem endActive_pairwise (h : rows.Pairwise Apart) (routeId userId reason : String) (now : Int) :
    (endActive routeId userId reason now rows).Pairwise Apart := by
  refine List.pairwise_map.mpr (h.imp fun {a b} hab ha hb => ?_)
  have hactive : ∀ row : RouteFailover, (if row.routeId = routeId ∧ row.active then
      { row with endedAt := some now, endedBy := some userId, endReason := some reason }
      else row).active → row.active := by
    intro row hrow
    split at hrow
    · cases hrow
    · exact hrow
  have hroute : ∀ row : RouteFailover, (if row.routeId = routeId ∧ row.active then
      { row with endedAt := some now, endedBy := some userId, endReason := some reason }
      else row).routeId = row.routeId := by
    intro row
    split <;> rfl
  rw [hroute, hroute]
  exact hab (hactive a ha) (hactive b hb)

theorem endActive_routeId {row : RouteFailover}
    (h : row ∈ endActive routeId userId reason now rows) (ha : row.active) :
    row.routeId ≠ routeId := by
  obtain ⟨old, -, rfl⟩ := List.mem_map.mp h
  split at ha
  · cases ha
  · rename_i hnot
    rw [if_neg hnot]
    exact fun he => hnot ⟨he, ha⟩

theorem apart_step (h : s.failovers.Pairwise Apart) (hs : step env s a = some s') :
    s'.failovers.Pairwise Apart := by
  cases a with
  | failOver routeId toSmscId reason userId now =>
    rw [step] at hs
    split at hs
    · rename_i started hok
      cases hs
      obtain ⟨row, hrow, rfl⟩ := failOver_ok hok
      refine List.pairwise_append.mpr ⟨endActive_pairwise h .., List.pairwise_singleton .., ?_⟩
      intro old hold new hnew hactive _
      obtain rfl := List.mem_singleton.mp hnew
      rw [hrow]
      exact endActive_routeId hold hactive
    · cases hs
      exact h
  | revertFailover routeId reason userId now =>
    rw [step] at hs
    split at hs
    · rename_i hok
      cases hs
      obtain ⟨endReason, rfl⟩ := revertFailover_ok hok
      exact endActive_pairwise h ..
    · cases hs
      exact h
  | writeRoute _ | writeSmsc _ | observe _ _ | writeCustomerRoutes _ => exact Option.some.inj hs ▸ h
  | deleteRoute routeId => exact Option.some.inj hs ▸ h.filter _

end Steps

/-- **Manual failovers**, after any run of overrides, edits and observations.  For each message the
promise holds if and only if the configuration comes to it; without the overrides of a route, made
and reverted, every message would be resolved as it is; and of the overrides that are active no two
are on one route. -/
theorem manual_failover (env : Setting) (text : TextEngine) (tables : RoutingTables)
    (actions : List Action) (s : State)
    (hrun : (overriding env).run ⟨tables, []⟩ actions = some s) :
    (∀ ctx, Holds text s ctx ↔ Configured text s ctx) ∧
    (∀ routeId, ∃ t, (overriding env).run ⟨tables, []⟩
        (actions.filter fun a => !concerns routeId a) = some t ∧
      ∀ ctx, resolveInClient text t.tables ctx = resolveInClient text s.tables ctx) ∧
    s.failovers.Pairwise Apart := by
  refine ⟨holds_iff text s, fun routeId => ?_, ?_⟩
  · have hdrop : ∀ u a u', (!concerns routeId a) = false → step env u a = some u' →
        u'.tables = u.tables := fun u a u' hdrop hs =>
      (step_tables hs).trans (change_of_concerns (by simpa using hdrop) u.tables)
    have hkeep : ∀ u v a u', (!concerns routeId a) = true → u.tables = v.tables →
        step env u a = some u' → ∃ v', step env v a = some v' ∧ u'.tables = v'.tables := by
      intro u v a u' _ hview hs
      obtain ⟨v', hv'⟩ := step_total env v a
      refine ⟨v', hv', ?_⟩
      rw [step_tables hs, step_tables hv', hview]
    obtain ⟨t, ht, hview⟩ := (overriding env).run_filter State.tables _ hdrop hkeep rfl hrun
    exact ⟨t, ht, fun ctx => by rw [hview]⟩
  · have hstep : ∀ u a u', u.failovers.Pairwise Apart → step env u a = some u' →
        u'.failovers.Pairwise Apart := fun _ _ _ hi hs => apart_step hi hs
    exact (overriding env).invariant_run (I := fun u => u.failovers.Pairwise Apart) hstep
      List.Pairwise.nil hrun

/-! ### A route that is failed over -/

def smscNamed : Setting := ⟨id⟩

/-- A route to `a`, with `b` for its fallback. -/
def preferred : RouteRow where
  route := ⟨"r", "r", 1, true, .static, .priority, none, none, none, none, none, none, "a", some "b",
    [], none, .route, none, none, none, none⟩
  deploymentState := .deployed

def twoBinds : RoutingTables where
  smscDefinitions := [⟨"a", "smsc-a", true, none⟩, ⟨"b", "smsc-b", true, none⟩]
  bindStates := [⟨"a", "bound"⟩, ⟨"b", "bound"⟩]
  routingRules := [preferred]
  customerRoutes := []

def toUganda : SendRouteContext := ⟨"256700000000", none, none, none, 0, ⟨1, 12, 0⟩⟩

/-- Traffic is moved to the fallback, the primary goes down, and traffic is moved back. -/
def maintenance : List Action :=
  [.failOver "r" "b" "carrier asked" "op" 1, .observe "a" "dead", .failOver "r" "b" "again" "op" 2,
    .revertFailover "r" "all clear" "op" 3]

theorem manual_failover_maintenance :
    ∃ s, (overriding smscNamed).run ⟨twoBinds, []⟩ maintenance = some s ∧
      ((∀ ctx, Holds ascii s ctx ↔ Configured ascii s ctx) ∧
      (∀ routeId, ∃ t, (overriding smscNamed).run ⟨twoBinds, []⟩
          (maintenance.filter fun a => !concerns routeId a) = some t ∧
        ∀ ctx, resolveInClient ascii t.tables ctx =
          resolveInClient ascii s.tables ctx) ∧
      s.failovers.Pairwise Apart) :=
  ⟨_, rfl, manual_failover smscNamed ascii twoBinds maintenance _ rfl⟩

/-- **A failover that does not hold.**  Both binds are up, traffic is moved from the one to the
other, and a message still goes to the first. -/
theorem failover_ignored :
    ∃ s, (overriding smscNamed).run ⟨twoBinds, []⟩
        [.failOver "r" "b" "carrier asked" "op" 1] = some s ∧
      s.failovers.any (fun row => row.active && row.toSmscId = "b") ∧
      (resolveInClient ascii s.tables toUganda).result.routeId = some "r" ∧
      (resolveInClient ascii s.tables toUganda).result.smscId = some "smsc-a" ∧
      ¬ Holds ascii s toUganda := by
  refine ⟨_, rfl, by decide +kernel, by decide +kernel, by decide +kernel, fun h => ?_⟩
  have hb := h _ (List.mem_singleton_self _) rfl (by decide +kernel) "smsc-b" (by decide +kernel)
    (by decide +kernel)
  exact absurd hb (by decide +kernel)

end Jkannel.Routing.Failover
