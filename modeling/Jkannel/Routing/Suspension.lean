import Jkannel.Routing.AbsentSender
import Jkannel.Routing.Resolution

/-!
# Suspending a bind

A bind can be lost in two ways: the poller sees that it is not bound, or an operator suspends it.  A
bind that is down is left out when a route chooses among its binds.  A suspended one is left out of
the routes before that, and a route whose primary it is goes with it.

* `withdraw` takes binds out of a route.  `selectRoute_withdraw`: as long as they cannot be reached,
  the selection is the same without them.
* `withSmsc` and `observe` set a bind's switches and what the poller saw last.
* `suspended_like_unbound` compares the two losses: they come to the same once the routes over the
  bind as their primary are left out.

A weighted route whose only targets are over the bind is not compared.  With all of its targets gone
it falls back on its primary, which a weighted route does not use otherwise.  Of the database's
collation nothing is asked but that it is a comparison.
-/

namespace Jkannel.Routing

open Option (filter_some map_eq_some_iff map_some some_ne_none)
open List
open Text (truthy)

/-! ## Taking binds out of a route -/

section Withdraw

variable {env : TextEngine} {ctx : SelectionContext} {gone : String → Bool}
  {route : CandidateRoute}

/-- The route without the binds that are gone, its primary excepted. -/
def withdraw (gone : String → Bool) (route : CandidateRoute) : CandidateRoute :=
  { route with
    fallbackSmscId := route.fallbackSmscId.filter fun id => !gone id
    targets := route.targets.filter fun t => !gone t.smscId }

/-- A route that fans out has a target left. -/
def KeepsTarget (gone : String → Bool) (route : CandidateRoute) : Prop :=
  route.routeType = .weighted → route.targets ≠ [] → (withdraw gone route).targets ≠ []

/-- A candidate, whether it comes first or not. -/
def unmarked (c : SmscCandidate) : SmscCandidate := { c with primary := true }

/-- A target of a weighted route as a candidate. -/
def ofTarget (cost : Option Rat) (first : Bool) (t : RouteTarget) : SmscCandidate :=
  ⟨t.smscId, t.cost.or cost, first, t.weight⟩

def isUsed (t : RouteTarget) : Bool := decide (t.enabled ∧ 0 < t.weight ∧ t.smscId ≠ "")

theorem routeCandidates_weighted (h : route.routeType = .weighted ∧ route.targets ≠ []) :
    routeCandidates route =
      (route.targets.filter isUsed).zipIdx.map fun p => ofTarget route.cost (p.2 == 0) p.1 := by
  rw [routeCandidates, if_pos h]
  rfl

/-- The candidates of a weighted route that can be reached, without their marks. -/
theorem reachable_targets (targets : List RouteTarget) (cost : Option Rat) :
    (reachable (targets.zipIdx.map fun p => ofTarget cost (p.2 == 0) p.1) ctx).map unmarked =
      (targets.filter fun t => isAvailable t.smscId ctx).map (ofTarget cost true) := by
  have hfst : targets.zipIdx.map Prod.fst = targets := zipIdx_map_fst 0 targets
  rw [reachable, filter_map, map_map]
  conv_rhs => rw [← hfst, filter_map, map_map]
  rfl

section

variable (hgone : ∀ id, gone id = true → isAvailable id ctx = false)
include hgone

theorem filter_gone (targets : List RouteTarget) :
    (targets.filter fun t => !gone t.smscId).filter (fun t => isAvailable t.smscId ctx) =
      targets.filter fun t => isAvailable t.smscId ctx := by
  rw [filter_filter]
  refine filter_congr fun t _ => ?_
  cases h : gone t.smscId with
  | false => exact Bool.and_true _
  | true => rw [hgone _ h, Bool.false_and]

theorem reachable_fallback (fallback : Option String) (cost : Option Rat) :
    reachable ((truthy (fallback.filter fun id => !gone id)).toList.map fun id =>
        ⟨id, cost, false, 1⟩) ctx =
      reachable ((truthy fallback).toList.map fun id => ⟨id, cost, false, 1⟩) ctx := by
  cases fallback with
  | none => rfl
  | some id =>
    cases h : gone id with
    | false => rw [filter_some, h, if_pos Bool.not_false]
    | true =>
      rw [filter_some, h, if_neg (by decide), truthy]
      by_cases hempty : id = ""
      · rw [truthy, if_pos hempty]
      · rw [truthy, if_neg hempty]
        exact (filter_cons_of_neg (by rw [hgone id h]; decide)).symm

/-- What cannot be reached is no loss. -/
theorem reachable_withdraw (hkeep : KeepsTarget gone route) :
    (reachable (routeCandidates (withdraw gone route)) ctx).map unmarked =
      (reachable (routeCandidates route) ctx).map unmarked := by
  by_cases hweighted : route.routeType = .weighted ∧ route.targets ≠ []
  · have hkept : (withdraw gone route).routeType = .weighted ∧ (withdraw gone route).targets ≠ [] :=
      ⟨hweighted.1, hkeep hweighted.1 hweighted.2⟩
    have htargets : ((withdraw gone route).targets.filter isUsed).filter
        (fun t => isAvailable t.smscId ctx) =
        (route.targets.filter isUsed).filter fun t => isAvailable t.smscId ctx := by
      rw [withdraw, filter_comm, filter_gone hgone, filter_comm]
    rw [routeCandidates_weighted hweighted, routeCandidates_weighted hkept, reachable_targets,
      reachable_targets, htargets]
    rfl
  · have hlost : ¬ ((withdraw gone route).routeType = .weighted ∧
        (withdraw gone route).targets ≠ []) := by
      rintro ⟨htype, htargets⟩
      refine hweighted ⟨htype, fun hnil => htargets ?_⟩
      rw [withdraw, hnil, filter_nil]
    have hfallback := reachable_fallback hgone route.fallbackSmscId route.cost
    rw [reachable, reachable] at hfallback
    rw [routeCandidates, routeCandidates, if_neg hweighted, if_neg hlost, reachable, reachable,
      filter_cons, filter_cons, withdraw, hfallback]

end

/-! ## What is picked -/

variable {routes : List CandidateRoute} {candidates candidates' : List SmscCandidate}

theorem pickAt_unmarked (candidates : List SmscCandidate) (position : Int) :
    pickAt (candidates.map unmarked) position = (pickAt candidates position).map unmarked := by
  induction candidates generalizing position with
  | nil => rfl
  | cons c rest ih =>
    cases rest with
    | nil => rfl
    | cons d rest =>
      rw [map_cons, pickAt, pickAt]
      · show (if position - max c.weight 0 < 0 then _ else _) = _
        split
        · rfl
        · exact ih _
      · exact cons_ne_nil d rest
      · exact cons_ne_nil (unmarked d) (rest.map unmarked)

theorem weightedPick_unmarked (candidates : List SmscCandidate) (rotation : Int) :
    weightedPick (candidates.map unmarked) rotation =
      (weightedPick candidates rotation).map unmarked := by
  have hweights : (candidates.map unmarked).map (fun c => max c.weight 0) =
      candidates.map fun c => max c.weight 0 := map_map
  rw [weightedPick, weightedPick, hweights]
  split
  · exact head?_map
  · exact pickAt_unmarked candidates _

theorem inTurn_unmarked (route : CandidateRoute) :
    (inTurn route ctx).map unmarked =
      ((reachable (routeCandidates route) ctx).map unmarked)[(ctx.rotation %
        ((reachable (routeCandidates route) ctx).map unmarked).length).toNat]? := by
  rw [length_map, getElem?_map]
  rfl

theorem cheapest_unmarked (matched : List (CandidateRoute × Nat)) :
    (cheapest env matched ctx).map unmarked =
      (((reachable (matched.flatMap fun m => routeCandidates m.1) ctx).map unmarked).insertionSort
        (compareCost env · · ≠ .gt)).head? := by
  have hsort : ∀ l : List SmscCandidate,
      (l.insertionSort (compareCost env · · ≠ .gt)).map unmarked =
      (l.map unmarked).insertionSort (compareCost env · · ≠ .gt) :=
    fun l => map_insertionSort _ _ unmarked l fun _ _ _ _ => Iff.rfl
  rw [cheapest, ← head?_map, hsort]

/-- A strategy goes by the candidates it can reach, not by which of them is marked the primary. -/
theorem chooseSmsc_unmarked {route route' : CandidateRoute}
    {matched matched' : List (CandidateRoute × Nat)} (hstrategy : route'.strategy = route.strategy)
    (hown : (reachable (routeCandidates route') ctx).map unmarked =
      (reachable (routeCandidates route) ctx).map unmarked)
    (hall : (reachable (matched'.flatMap fun m => routeCandidates m.1) ctx).map unmarked =
      (reachable (matched.flatMap fun m => routeCandidates m.1) ctx).map unmarked) :
    (chooseSmsc env matched' route' ctx).1.map unmarked =
      (chooseSmsc env matched route ctx).1.map unmarked := by
  cases h : route.strategy with
  | leastCost =>
    rw [chooseSmsc_of_leastCost matched h, chooseSmsc_of_leastCost matched' (hstrategy.trans h),
      cheapest_unmarked, cheapest_unmarked, hall]
  | roundRobin =>
    simp only [chooseSmsc, h, hstrategy, withReason]
    rw [inTurn_unmarked, inTurn_unmarked, hown]
  | loadBalance =>
    simp only [chooseSmsc, h, hstrategy, withReason]
    rw [← weightedPick_unmarked, ← weightedPick_unmarked, hown]
  | priority =>
    rw [chooseSmsc_preferring env matched ctx (.inl h),
      chooseSmsc_preferring env matched' ctx (.inl (hstrategy.trans h)), ← head?_map,
      ← head?_map, hown]
  | timeBased =>
    rw [chooseSmsc_preferring env matched ctx (.inr h),
      chooseSmsc_preferring env matched' ctx (.inr (hstrategy.trans h)), ← head?_map,
      ← head?_map, hown]

/-- A match with its route changed. -/
def withdrawMatch (gone : String → Bool) (m : CandidateRoute × Nat) : CandidateRoute × Nat :=
  (withdraw gone m.1, m.2)

/-- Which routes match, and in which order, has nothing to do with their binds. -/
theorem matchedRoutes_withdraw :
    matchedRoutes env (routes.map (withdraw gone)) ctx =
      (matchedRoutes env routes ctx).map (withdrawMatch gone) := by
  have happlicable : applicable env (routes.map (withdraw gone)) ctx =
      (applicable env routes ctx).map (withdrawMatch gone) := by
    rw [applicable, applicable, filterMap_map, map_filterMap]
    refine filterMap_congr fun route _ => ?_
    have hmatch : matchSpecificity env (withdraw gone route) ctx =
      matchSpecificity env route ctx := rfl
    dsimp only [Function.comp_apply]
    rw [hmatch, show (withdraw gone route).enabled = route.enabled from rfl,
      show (withdraw gone route).window = route.window from rfl]
    split
    · rfl
    · cases matchSpecificity env route ctx <;> rfl
  rw [matchedRoutes, happlicable]
  exact (map_insertionSort _ _ (withdrawMatch gone) _ fun _ _ _ _ => Iff.rfl).symm

theorem reachable_flatMap {matched : List (CandidateRoute × Nat)}
    (hgone : ∀ id, gone id = true → isAvailable id ctx = false)
    (hkeep : ∀ m ∈ matched, KeepsTarget gone m.1) :
    (reachable ((matched.map (withdrawMatch gone)).flatMap fun m => routeCandidates m.1)
        ctx).map unmarked =
      (reachable (matched.flatMap fun m => routeCandidates m.1) ctx).map unmarked := by
  induction matched with
  | nil => rfl
  | cons m rest ih =>
    have hfirst := reachable_withdraw hgone (hkeep m mem_cons_self)
    have hrest := ih fun n hn => hkeep n (mem_cons_of_mem m hn)
    rw [reachable, reachable] at hfirst hrest
    rw [map_cons, flatMap_cons, flatMap_cons, reachable, reachable,
      filter_append, filter_append, map_append, map_append, hrest]
    exact congrArg (· ++ _) hfirst

theorem withdrawn_noMatch
    (h : digitsOnly (some ctx.msisdn) = "" ∨ matchedRoutes env routes ctx = []) :
    (selectRoute env (routes.map (withdraw gone)) ctx).smscId =
        (selectRoute env routes ctx).smscId ∧
      (selectRoute env (routes.map (withdraw gone)) ctx).routeId =
        (selectRoute env routes ctx).routeId := by
  have h' : digitsOnly (some ctx.msisdn) = "" ∨
      matchedRoutes env (routes.map (withdraw gone)) ctx = [] := by
    refine h.imp_right fun hnil => ?_
    rw [matchedRoutes_withdraw, hnil, map_nil]
  have halike := SelectsAlike.of_noMatch h' h
  exact ⟨halike.smscId, halike.routeId⟩

/-- **Binds that cannot be reached may be taken out of the routes**: the selection comes to the same
route and the same bind. -/
theorem selectRoute_withdraw (hgone : ∀ id, gone id = true → isAvailable id ctx = false)
    (hkeep : ∀ route ∈ routes, KeepsTarget gone route) :
    (selectRoute env (routes.map (withdraw gone)) ctx).smscId =
        (selectRoute env routes ctx).smscId ∧
      (selectRoute env (routes.map (withdraw gone)) ctx).routeId =
        (selectRoute env routes ctx).routeId := by
  by_cases hdigits : digitsOnly (some ctx.msisdn) = ""
  · exact withdrawn_noMatch (.inl hdigits)
  · cases hmatched : matchedRoutes env routes ctx with
    | nil => exact withdrawn_noMatch (.inr hmatched)
    | cons m rest =>
      have hmatched' := @matchedRoutes_withdraw env ctx gone routes
      rw [hmatched, map_cons] at hmatched'
      obtain ⟨trace, hselected⟩ := selectRoute_of_matched hdigits hmatched
      obtain ⟨trace', hselected'⟩ := selectRoute_of_matched hdigits hmatched'
      have hmem : ∀ n ∈ m :: rest, KeepsTarget gone n.1 := by
        intro n hn
        rw [← hmatched] at hn
        exact hkeep n.1 (matchedRoutes_mem hn).1
      have hchosen := @chooseSmsc_unmarked env ctx m.1 (withdraw gone m.1) (m :: rest)
        ((m :: rest).map (withdrawMatch gone)) rfl
        (reachable_withdraw hgone (hmem m mem_cons_self)) (reachable_flatMap hgone hmem)
      rw [hselected, hselected']
      refine ⟨?_, rfl⟩
      have hids := congrArg (Option.map SmscCandidate.smscId) hchosen
      rw [Option.map_map, Option.map_map] at hids
      exact hids

end Withdraw

/-! ## The two losses -/

section Loss

variable {env : TextEngine} {tables : RoutingTables} {s state : String} {enabled : Bool}
  {suspendedAt : Option Int} {d : SmscDefinition}

/-- A definition with the switches of one bind set. -/
def switched (s : String) (enabled : Bool) (suspendedAt : Option Int) (d : SmscDefinition) :
    SmscDefinition :=
  if d.id = s then { d with enabled := enabled, trafficSuspendedAt := suspendedAt } else d

/-- The tables with the switches of one bind set. -/
def withSmsc (tables : RoutingTables) (s : String) (enabled : Bool) (suspendedAt : Option Int) :
    RoutingTables :=
  { tables with smscDefinitions := tables.smscDefinitions.map (switched s enabled suspendedAt) }

/-- The tables after the poller has seen one bind in a state. -/
def observe (tables : RoutingTables) (s state : String) : RoutingTables :=
  { tables with
    bindStates := ⟨s, state⟩ :: tables.bindStates.filter fun b => decide (b.smscId ≠ s) }

/-- The tables without the rules whose primary is the bind. -/
def withoutPrimary (tables : RoutingTables) (s : String) : RoutingTables :=
  { tables with
    routingRules := tables.routingRules.filter fun r => decide (r.route.targetSmscId ≠ s) }

/-- The bind is in service and seen, but not bound, and no rule has it as its primary. -/
def unboundWithoutPrimary (tables : RoutingTables) (s state : String) : RoutingTables :=
  observe (withSmsc (withoutPrimary tables s) s true none) s state

/-- A bind in service, joined to its state. -/
def toRow (states : List SmscBindState) (d : SmscDefinition) : SmscRow :=
  ⟨d.id, d.engineId, (states.find? fun b => b.smscId = d.id).map SmscBindState.state⟩

def isOther (s : String) (row : SmscRow) : Bool := decide (row.id ≠ s)

def inService (d : SmscDefinition) : Bool := d.enabled && d.trafficSuspendedAt.isNone

/-- What the poller saw of the other binds is as it was. -/
theorem find_observe {id : String} (h : id ≠ s) :
    (observe tables s state).bindStates.find? (fun b => b.smscId = id) =
      tables.bindStates.find? fun b => b.smscId = id := by
  have hhead : ¬ (decide (s = id) = true) := fun heq => h (of_decide_eq_true heq).symm
  rw [observe, find?_cons]
  rw [Bool.eq_false_of_not_eq_true hhead]
  dsimp only
  rw [find?_filter]
  congr 1
  funext b
  by_cases hb : b.smscId = id
  · simp [hb, h]
  · simp [hb]

theorem toRow_observe (h : d.id ≠ s) :
    toRow (observe tables s state).bindStates d = toRow tables.bindStates d := by
  rw [toRow, toRow, find_observe h]

theorem toRow_observe_self (h : d.id = s) :
    (toRow (observe tables s state).bindStates d).bindState = some state := by
  rw [toRow, observe, find?_cons]
  rw [decide_eq_true h.symm]
  rfl

/-- The rows read in the one case are those read in the other without the bind. -/
theorem smscRows_withSmsc (state : String) (hdown : enabled = false ∨ suspendedAt ≠ none) :
    smscRows (withSmsc tables s enabled suspendedAt) =
      (smscRows (unboundWithoutPrimary tables s state)).filter (isOther s) := by
  have hrows : ∀ defs : List SmscDefinition,
      ((defs.map (switched s enabled suspendedAt)).filter inService).map (toRow tables.bindStates) =
        (((defs.map (switched s true none)).filter inService).map
          (toRow (observe tables s state).bindStates)).filter (isOther s) := by
    intro defs
    induction defs with
    | nil => rfl
    | cons d defs ih =>
      by_cases hd : d.id = s
      · have hout : inService (switched s enabled suspendedAt d) = false := by
          rw [switched, if_pos hd, inService]
          obtain rfl | hsuspended := hdown
          · rfl
          · rw [Option.isNone_eq_false_iff.mpr (Option.isSome_iff_ne_none.mpr hsuspended),
              Bool.and_false]
        have hin : inService (switched s true none d) = true := by
          rw [switched, if_pos hd]
          rfl
        have hid : (switched s true none d).id = s := by rw [switched, if_pos hd, hd]
        rw [map_cons, filter_cons_of_neg (by rw [hout]; decide), ih, map_cons,
          filter_cons_of_pos hin, map_cons, filter_cons_of_neg (p := isOther s)]
        rw [isOther, toRow, hid, decide_eq_true_eq]
        exact not_not_intro rfl
      · have hsame : switched s enabled suspendedAt d = d := if_neg hd
        have hsame' : switched s true none d = d := if_neg hd
        rw [map_cons, map_cons, hsame, hsame', filter_cons, filter_cons]
        split
        · have hother : isOther s (toRow tables.bindStates d) = true := decide_eq_true hd
          rw [map_cons, map_cons, toRow_observe hd, filter_cons_of_pos (p := isOther s) hother, ih]
        · exact ih
  exact hrows tables.smscDefinitions

/-! ## Names without the bind -/

variable {rows : List SmscRow}

/-- The engine's name of the bind. -/
def gone (rows : List SmscRow) (s engineId : String) : Bool :=
  decide (byId rows s = some engineId)

theorem byId_eq_some {id engineId : String} (h : byId rows id = some engineId) :
    ∃ row ∈ rows, row.id = id ∧ row.engineId = engineId := by
  obtain ⟨row, hrow, hname⟩ := map_eq_some_iff.mp h
  have hid := find?_some hrow
  exact ⟨row, mem_of_find?_eq_some hrow, of_decide_eq_true hid, hname⟩

theorem byId_other {id : String} (h : id ≠ s) :
    byId (rows.filter (isOther s)) id = byId rows id := by
  rw [byId, byId, find?_filter]
  congr 2
  funext row
  by_cases hrow : row.id = id
  · simp [isOther, hrow, h]
  · simp [hrow]

theorem byId_self : byId (rows.filter (isOther s)) s = none := by
  rw [byId, Option.map_eq_none_iff, find?_eq_none]
  intro row hrow hid
  exact of_decide_eq_true (mem_filter.mp hrow).2 (of_decide_eq_true hid)

/-- Where no two binds share a name, leaving the bind out leaves its name out. -/
theorem byId_filter (hnames : (rows.map SmscRow.engineId).Nodup) (id : String) :
    byId (rows.filter (isOther s)) id = (byId rows id).filter fun e => !gone rows s e := by
  by_cases hid : id = s
  · rw [hid, byId_self]
    cases h : byId rows s with
    | none => rfl
    | some e =>
      rw [filter_some, gone, h, decide_eq_true rfl, Bool.not_true, if_neg (by decide)]
  · rw [byId_other hid]
    cases h : byId rows id with
    | none => rfl
    | some e =>
      have hkept : gone rows s e = false := by
        refine decide_eq_false fun hgone => hid ?_
        obtain ⟨a, ha, haid, haname⟩ := byId_eq_some h
        obtain ⟨b, hb, hbid, hbname⟩ := byId_eq_some hgone
        rw [← haid, ← hbid, inj_on_of_nodup_map hnames ha hb (haname.trans hbname.symm)]
      rw [filter_some, hkept, Bool.not_false, if_pos rfl]

theorem truthy_filter (name : Option String) (p : String → Bool) :
    truthy (name.filter p) = (truthy name).filter p := by
  cases name with
  | none => rfl
  | some e =>
    rw [filter_some]
    by_cases hempty : e = ""
    · split
      · rw [truthy, if_pos hempty]
        rfl
      · rw [truthy, truthy, if_pos hempty]
        rfl
    · split
      · next hp => rw [truthy, if_neg hempty, filter_some, if_pos hp]
      · next hp => rw [truthy, truthy, if_neg hempty, filter_some, if_neg hp]

variable {route : CandidateRoute} {candidate : CandidateRoute}

/-- A route over another bind as its primary only loses the bind. -/
theorem toEngineIds_filter (hnames : (rows.map SmscRow.engineId).Nodup)
    (h : route.targetSmscId ≠ s) :
    toEngineIds (rows.filter (isOther s)) route =
      (toEngineIds rows route).map (withdraw (gone rows s)) := by
  have hfallback : (truthy route.fallbackSmscId).bind (byId (rows.filter (isOther s))) =
      ((truthy route.fallbackSmscId).bind (byId rows)).filter fun e => !gone rows s e := by
    cases truthy route.fallbackSmscId with
    | none => rfl
    | some id => exact byId_filter hnames id
  have htargets : (route.targets.filterMap fun target =>
      (truthy (byId (rows.filter (isOther s)) target.smscId)).map fun engineId =>
        { target with smscId := engineId }) =
      (route.targets.filterMap fun target =>
        (truthy (byId rows target.smscId)).map fun engineId =>
          { target with smscId := engineId }).filter fun t => !gone rows s t.smscId := by
    rw [filter_filterMap]
    refine filterMap_congr fun target _ => ?_
    rw [byId_filter hnames, truthy_filter]
    cases truthy (byId rows target.smscId) with
    | none => rfl
    | some e =>
      rw [map_some, filter_some, filter_some]
      split
      · rfl
      · rfl
  rw [toEngineIds, toEngineIds, byId_other h, hfallback, htargets, Option.map_map]
  rfl

theorem toEngineIds_self (h : route.targetSmscId = s) :
    toEngineIds (rows.filter (isOther s)) route = none := by
  rw [toEngineIds, h, byId_self]
  rfl

/-! ## The bind is not up -/

theorem nodup_names (s state : String)
    (h : (tables.smscDefinitions.map SmscDefinition.engineId).Nodup) :
    ((smscRows (unboundWithoutPrimary tables s state)).map SmscRow.engineId).Nodup := by
  have hnames : ((tables.smscDefinitions.map (switched s true none)).map
      SmscDefinition.engineId).Nodup := by
    have hsame : (tables.smscDefinitions.map (switched s true none)).map
        SmscDefinition.engineId = tables.smscDefinitions.map SmscDefinition.engineId := by
      rw [map_map]
      refine map_congr_left fun d _ => ?_
      rw [Function.comp_apply, switched]
      split <;> rfl
    rwa [hsame]
  rw [smscRows, map_map]
  exact hnames.sublist (filter_sublist.map _)

theorem bindState_unbound {row : SmscRow}
    (h : row ∈ smscRows (unboundWithoutPrimary tables s state)) (hid : row.id = s) :
    row.bindState = some state := by
  obtain ⟨d, -, rfl⟩ := mem_map.mp h
  exact toRow_observe_self hid

/-- A bind that is not bound counts for nothing among those that are. -/
theorem available_other (hobserved : observed (rows.filter (isOther s)) = true)
    (hunbound : ∀ row ∈ rows, row.id = s → row.bindState ≠ some "bound") :
    available (rows.filter (isOther s)) = available rows := by
  have hall : observed rows = true := by
    obtain ⟨row, hrow, hseen⟩ := any_eq_true.mp hobserved
    exact any_eq_true.mpr ⟨row, mem_of_mem_filter hrow, hseen⟩
  rw [available, available, if_pos hobserved, if_pos hall, filter_filter]
  congr 1
  refine filter_congr fun row hrow => ?_
  by_cases hid : row.id = s
  · simp [hunbound row hrow hid]
  · simp [isOther, hid]

theorem gone_unavailable {ctx : SelectionContext}
    (hnames : (rows.map SmscRow.engineId).Nodup) (hall : observed rows = true)
    (hunbound : ∀ row ∈ rows, row.id = s → row.bindState ≠ some "bound")
    (havailable : ctx.availableSmscIds = some (available rows)) (e : String)
    (h : gone rows s e = true) : isAvailable e ctx = false := by
  obtain ⟨row, hrow, hid, hname⟩ := byId_eq_some (of_decide_eq_true h)
  have hout : e ∉ available rows := by
    intro hin
    rw [available, if_pos hall] at hin
    obtain ⟨other, hother, hsame⟩ := mem_map.mp hin
    obtain ⟨hmem, hbound⟩ := mem_filter.mp hother
    obtain rfl := inj_on_of_nodup_map hnames hmem hrow (hsame.trans hname.symm)
    exact hunbound other hrow hid (of_decide_eq_true hbound)
  rw [isAvailable]
  split
  · rfl
  · rw [havailable]
    exact Bool.eq_false_of_not_eq_true fun hin => hout (contains_iff_mem.mp hin)

/-! ## The routes -/

theorem scopedRoutes_filter (tables : RoutingTables) (keep : CandidateRoute → Bool)
    (customerId : Option String) (all : List CandidateRoute) :
    scopedRoutes tables customerId (all.filter keep) =
      (scopedRoutes tables customerId all).filter keep := by
  rw [scopedRoutes, scopedRoutes]
  split
  · exact filter_comm ..
  · rfl

theorem targets_ne_nil_iff (h : toEngineIds rows route = some candidate) :
    candidate.targets ≠ [] ↔ ∃ t ∈ route.targets, truthy (byId rows t.smscId) ≠ none := by
  obtain ⟨primary, -, rfl⟩ := map_eq_some_iff.mp h
  constructor
  · intro htargets
    obtain ⟨target, htarget⟩ := exists_mem_of_ne_nil _ htargets
    obtain ⟨t, ht, hmap⟩ := mem_filterMap.mp htarget
    obtain ⟨engineId, hname, -⟩ := map_eq_some_iff.mp hmap
    exact ⟨t, ht, by rw [hname]; exact some_ne_none engineId⟩
  · rintro ⟨t, ht, hname⟩
    obtain ⟨engineId, hname⟩ := Option.ne_none_iff_exists'.mp hname
    exact ne_nil_of_mem (mem_filterMap.mpr ⟨t, ht, by rw [hname, map_some]⟩)

/-- A weighted route with a target over the bind has another target, over a bind that is left. -/
def KeepsFanOut (left : List SmscRow) (s : String) (route : CandidateRoute) : Prop :=
  route.routeType = .weighted → (∃ t ∈ route.targets, t.smscId = s) →
    ∃ t ∈ route.targets, truthy (byId left t.smscId) ≠ none

theorem keepsTarget_of_keepsFanOut (hnames : (rows.map SmscRow.engineId).Nodup)
    (hprimary : route.targetSmscId ≠ s) (hfan : KeepsFanOut (rows.filter (isOther s)) s route)
    (h : toEngineIds rows route = some candidate) : KeepsTarget (gone rows s) candidate := by
  intro hweighted htargets
  have hroute : route.routeType = .weighted := by
    obtain ⟨primary, -, rfl⟩ := map_eq_some_iff.mp h
    exact hweighted
  have hother : toEngineIds (rows.filter (isOther s)) route =
      some (withdraw (gone rows s) candidate) := by
    rw [toEngineIds_filter hnames hprimary, h, map_some]
  rw [targets_ne_nil_iff hother]
  obtain ⟨t, ht, hname⟩ := (targets_ne_nil_iff h).mp htargets
  by_cases hid : t.smscId = s
  · exact hfan hroute ⟨t, ht, hid⟩
  · exact ⟨t, ht, by rwa [byId_other hid]⟩

theorem resolveInClient_result_routeId (tables : RoutingTables) (ctx : SendRouteContext) :
    (resolveInClient env tables ctx).result.routeId = (selection env tables ctx).routeId := by
  rw [resolveInClient]

/-- The order of the routes. -/
def comparePriority (env : TextEngine) (a b : CandidateRoute) : Ordering :=
  (compare a.priority b.priority).then (env.collate a.name b.name)

instance transCmp_comparePriority [Std.TransCmp env.collate] :
    Std.TransCmp (comparePriority env) := by
  have hpriority : Std.TransCmp fun a b : CandidateRoute => compare a.priority b.priority :=
    Ranking.transCmp_on compare fun a : CandidateRoute => a.priority
  have hname : Std.TransCmp fun a b : CandidateRoute => env.collate a.name b.name :=
    Ranking.transCmp_on env.collate fun a : CandidateRoute => a.name
  have hlex : comparePriority env =
      compareLex (fun a b => compare a.priority b.priority) fun a b => env.collate a.name b.name :=
    rfl
  rw [hlex]
  infer_instance

variable [Std.TransCmp env.collate]

/-- Leaving the rules out before the routes are sorted is leaving the routes out. -/
theorem candidateRoutesInClient_withoutPrimary :
    candidateRoutesInClient env (unboundWithoutPrimary tables s state) =
      (candidateRoutesInClient env tables).filter fun route => decide (route.targetSmscId ≠ s) := by
  have hsorted := fun l => @Ranking.filter_insertionSort _ (comparePriority env) _
    (fun route => decide (route.targetSmscId ≠ s)) l
  refine Eq.trans ?_ (hsorted _).symm
  rw [candidateRoutesInClient, filter_map, filter_filter]
  show List.insertionSort _ (List.map _ (List.filter _ (List.filter _ tables.routingRules))) = _
  rw [filter_filter]
  refine congrArg (List.insertionSort _) (congrArg (List.map _) (filter_congr fun r _ => ?_))
  exact Bool.and_comm _ _

/-- The candidates of the one case are those of the other without the bind. -/
theorem candidatesFor_withSmsc (state : String) (hdown : enabled = false ∨ suspendedAt ≠ none)
    (hnames : (tables.smscDefinitions.map SmscDefinition.engineId).Nodup)
    (customerId : Option String) :
    candidatesFor env (withSmsc tables s enabled suspendedAt) customerId =
      (candidatesFor env (unboundWithoutPrimary tables s state) customerId).map
        (withdraw (gone (smscRows (unboundWithoutPrimary tables s state)) s)) := by
  have hscoped : scopedRoutes (unboundWithoutPrimary tables s state) customerId
      (candidateRoutesInClient env (unboundWithoutPrimary tables s state)) =
      (scopedRoutes (withSmsc tables s enabled suspendedAt) customerId
        (candidateRoutesInClient env (withSmsc tables s enabled suspendedAt))).filter
          fun route => decide (route.targetSmscId ≠ s) := by
    rw [candidateRoutesInClient_withoutPrimary]
    exact scopedRoutes_filter tables _ customerId _
  have hnames' := nodup_names s state hnames
  rw [candidatesFor, candidatesFor, hscoped, map_filterMap, filterMap_filter]
  refine filterMap_congr fun route _ => ?_
  show toEngineIds (smscRows _) route = _
  rw [smscRows_withSmsc state hdown]
  split
  · next h => exact toEngineIds_filter hnames' (of_decide_eq_true h)
  · next h => exact toEngineIds_self (not_not.mp fun hne => h (decide_eq_true hne))

/-- **Suspending a bind takes the routes over it as their primary out of the set, and otherwise
fails over like losing it.**  Binds have names of their own, another bind in service has been
observed, and no weighted route loses its last target with the bind. -/
theorem suspended_like_unbound (hdown : enabled = false ∨ suspendedAt ≠ none)
    (hstate : state ≠ "bound")
    (hnames : (tables.smscDefinitions.map SmscDefinition.engineId).Nodup)
    (hobserved : (availability (withSmsc tables s enabled suspendedAt)).healthAssumed = false)
    (hfan : ∀ route ∈ candidateRoutesInClient env tables,
      KeepsFanOut (smscRows (withSmsc tables s enabled suspendedAt)) s route)
    (ctx : SendRouteContext) :
    (resolveInClient env (withSmsc tables s enabled suspendedAt) ctx).result.smscId =
        (resolveInClient env (unboundWithoutPrimary tables s state) ctx).result.smscId ∧
      (resolveInClient env (withSmsc tables s enabled suspendedAt) ctx).result.routeId =
        (resolveInClient env (unboundWithoutPrimary tables s state) ctx).result.routeId := by
  have hnames' := nodup_names s state hnames
  have hunbound : ∀ row ∈ smscRows (unboundWithoutPrimary tables s state), row.id = s →
      row.bindState ≠ some "bound" := by
    intro row hrow hid hbound
    rw [bindState_unbound hrow hid] at hbound
    exact hstate (Option.some.inj hbound)
  rw [availability, Bool.not_eq_false', smscRows_withSmsc state hdown] at hobserved
  have hcontext : selectionContext (withSmsc tables s enabled suspendedAt) ctx =
      selectionContext (unboundWithoutPrimary tables s state) ctx := by
    rw [selectionContext, selectionContext, availability, availability,
      smscRows_withSmsc state hdown, available_other hobserved hunbound]
  have hall : observed (smscRows (unboundWithoutPrimary tables s state)) = true := by
    obtain ⟨row, hrow, hseen⟩ := any_eq_true.mp hobserved
    exact any_eq_true.mpr ⟨row, mem_of_mem_filter hrow, hseen⟩
  have hgone : ∀ e, gone (smscRows (unboundWithoutPrimary tables s state)) s e = true →
      isAvailable e (selectionContext (unboundWithoutPrimary tables s state) ctx) = false :=
    gone_unavailable hnames' hall hunbound rfl
  have hkeep : ∀ candidate ∈
      candidatesFor env (unboundWithoutPrimary tables s state) ctx.customerId,
      KeepsTarget (gone (smscRows (unboundWithoutPrimary tables s state)) s) candidate := by
    intro candidate hcandidate
    obtain ⟨route, hroute, hengine⟩ := mem_filterMap.mp hcandidate
    have hroute := scopedRoutes_subset hroute
    rw [candidateRoutesInClient_withoutPrimary] at hroute
    obtain ⟨hroute, hprimary⟩ := mem_filter.mp hroute
    have hfan := hfan route hroute
    rw [smscRows_withSmsc state hdown] at hfan
    exact keepsTarget_of_keepsFanOut hnames' (of_decide_eq_true hprimary) hfan hengine
  have hselected := @selectRoute_withdraw env _ _ _ hgone hkeep
  have hselection : selection env (withSmsc tables s enabled suspendedAt) ctx =
      selectRoute env ((candidatesFor env (unboundWithoutPrimary tables s state)
        ctx.customerId).map (withdraw (gone (smscRows (unboundWithoutPrimary tables s state)) s)))
        (selectionContext (unboundWithoutPrimary tables s state) ctx) := by
    rw [selection, candidatesFor_withSmsc state hdown hnames, hcontext]
  rw [resolveInClient_smscId, resolveInClient_smscId, resolveInClient_result_routeId,
    resolveInClient_result_routeId, hselection]
  exact hselected

end Loss

/-! ## Two binds -/

instance transCmp_collate : Std.TransCmp TextEngine.ascii.collate :=
  inferInstanceAs (Std.TransCmp Text.compareText)

/-- Two binds, the second of them up, and one route. -/
def overTwoBinds (route : CandidateRoute) : RoutingTables where
  smscDefinitions := [⟨"a", "smsc-a", true, none⟩, ⟨"b", "smsc-b", true, none⟩]
  bindStates := [⟨"a", "bound"⟩, ⟨"b", "bound"⟩]
  routingRules := [⟨route, .deployed⟩]
  customerRoutes := []

/-- A route that fans out over both binds. -/
def fanningOut : CandidateRoute :=
  { toUganda with
    routeType := .weighted
    targetSmscId := "b"
    targets := [⟨"a", 1, none, true⟩, ⟨"b", 1, none, true⟩] }

/-- A route over the first bind, with the second to fall back on. -/
def fallingBack : CandidateRoute :=
  { toUganda with strategy := .priority, targetSmscId := "a", fallbackSmscId := some "b" }

def plainMessage : SendRouteContext := ⟨"256772000001", none, none, none, 0, ⟨1, 12, 0⟩⟩

theorem suspended_like_unbound_fanningOut :
    (resolveInClient .ascii (withSmsc (overTwoBinds fanningOut) "a" true (some 0))
        plainMessage).result.smscId =
      (resolveInClient .ascii (unboundWithoutPrimary (overTwoBinds fanningOut) "a" "dead")
        plainMessage).result.smscId ∧
    (resolveInClient .ascii (withSmsc (overTwoBinds fanningOut) "a" true (some 0))
        plainMessage).result.routeId =
      (resolveInClient .ascii (unboundWithoutPrimary (overTwoBinds fanningOut) "a" "dead")
        plainMessage).result.routeId := by
  refine suspended_like_unbound (.inr (some_ne_none 0)) (by decide) (by decide)
    (by decide) ?_ plainMessage
  intro route hroute _ _
  obtain rfl := mem_singleton.mp hroute
  exact ⟨⟨"b", 1, none, true⟩, mem_cons_of_mem _ (mem_singleton_self _), by decide⟩

/-- **A suspended primary takes its fallback with it.**  With the first bind down the message goes
out over the second, and with the first bind suspended it is refused. -/
theorem suspended_primary_takes_fallback :
    (resolveInClient .ascii (withSmsc (overTwoBinds fallingBack) "a" true (some 0))
        plainMessage).result.smscId = none ∧
      (resolveInClient .ascii
        (observe (withSmsc (overTwoBinds fallingBack) "a" true none) "a" "dead")
          plainMessage).result.smscId = some "smsc-b" :=
  ⟨by decide +kernel, by decide +kernel⟩

end Jkannel.Routing
