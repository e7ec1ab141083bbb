import Mathlib.Data.List.Sort
import Mathlib.Data.Rat.Floor
import Jkannel.Routing.Msisdn
import Jkannel.Routing.Overrides
import Jkannel.Routing.Wildcard

/-!
# Choosing a route

Given a destination and the routes there are, which bind a message goes out on and why.

* `matchSpecificity` says whether a route applies to a destination, and how narrowly.
* `matchedRoutes` are the routes that apply, the controlling one first: most specific, then lowest
  priority number, then by name.
* `chooseSmsc` is the controlling route's strategy over the binds that are reachable.
* `selectRoute` puts the two together and explains itself.

Whatever the strategy, a bind that is chosen was reachable (`selectRoute_available`).

The verdict on every losing route, which only the console shows, is left out.
-/

namespace Jkannel.Routing

open List

inductive RouteType where
  | static | prefixed | country | operator | weighted | wildcard
  deriving DecidableEq

/-- The type as the table spells it. -/
def RouteType.text : RouteType → String
  | .static => "static"
  | .prefixed => "prefix"
  | .country => "country"
  | .operator => "operator"
  | .weighted => "weighted"
  | .wildcard => "wildcard"

/-- How a route picks its bind. -/
inductive SelectionStrategy where
  | priority | leastCost | loadBalance | roundRobin | timeBased
  deriving DecidableEq

/-- The strategy as the table spells it. -/
def SelectionStrategy.text : SelectionStrategy → String
  | .priority => "priority"
  | .leastCost => "least-cost"
  | .loadBalance => "load-balance"
  | .roundRobin => "round-robin"
  | .timeBased => "time-based"

/-- One weighted destination of a `weighted` route. -/
structure RouteTarget where
  smscId : String
  weight : Int
  cost : Option Rat
  enabled : Bool
  deriving DecidableEq

/-- The local time of day a route is active within; the end is exclusive. -/
structure TimeWindow where
  windowStart : String
  windowEnd : String
  /-- Weekdays, Sunday being 0; empty for every day. -/
  days : List Nat
  deriving DecidableEq

/-- The wall clock: the weekday, the hour and the minute. -/
structure LocalTime where
  day : Nat
  hours : Nat
  minutes : Nat

/-- A route as the selector sees it. -/
structure CandidateRoute where
  id : String
  name : String
  priority : Int
  enabled : Bool
  routeType : RouteType
  strategy : SelectionStrategy
  matchPrefix : Option String
  countryCode : Option String
  operator : Option String
  destinationPrefix : Option String
  /-- A wildcard pattern the sender must match. -/
  sender : Option String
  cost : Option Rat
  targetSmscId : String
  fallbackSmscId : Option String
  targets : List RouteTarget
  window : Option TimeWindow
  action : RouteAction
  overrideSender : Option String
  overrideRecipient : Option String
  overrideText : Option String
  dropReason : Option String
  deriving DecidableEq

/-- What the selector is given. -/
structure SelectionContext where
  msisdn : String
  sender : Option String
  operator : Option String
  now : LocalTime
  /-- The binds currently reachable, or none when every one is taken to be. -/
  availableSmscIds : Option (List String)
  /-- A counter that makes the rotating strategies rotate. -/
  rotation : Int

/-- What it chose, and why. -/
structure SelectionResult where
  /-- The chosen bind, or none when nothing matched or nothing was available. -/
  smscId : Option String
  routeId : Option String
  routeName : Option String
  strategy : Option SelectionStrategy
  fallbackUsed : Bool
  reason : String
  trace : List String
  /-- What the controlling rule does to the message. -/
  effect : Option RouteRuleEffect

/-! ## Time windows -/

/-- The number two ASCII digits, or one, stand for. -/
def digitsValue (cs : List Char) : Option Nat :=
  if cs.all (fun c => decide ('0' ≤ c ∧ c ≤ '9')) then
    some (cs.foldl (fun n c => 10 * n + (c.toNat - 48)) 0)
  else none

/-- `HH:MM` in minutes since midnight, or none when malformed. -/
def minutesOfDay (time : String) : Option Nat :=
  match (Text.split ':' (Text.trim time)).map String.toList with
  | [hours, minutes] =>
    if (hours.length = 1 ∨ hours.length = 2) ∧ minutes.length = 2 then
      match digitsValue hours, digitsValue minutes with
      | some h, some m => if 23 < h ∨ 59 < m then none else some (h * 60 + m)
      | _, _ => none
    else none
  | _ => none

/-- Whether `now` falls inside a window; a malformed one is always on, and one whose end is not
after its start wraps past midnight. -/
def isWithinWindow (window : Option TimeWindow) (now : LocalTime) : Bool :=
  match window with
  | none => true
  | some w =>
    if w.windowStart = "" ∨ w.windowEnd = "" then true
    else if w.days ≠ [] ∧ now.day ∉ w.days then false
    else match minutesOfDay w.windowStart, minutesOfDay w.windowEnd with
      | some start, some stop =>
        let current := now.hours * 60 + now.minutes
        if start ≤ stop then decide (start ≤ current ∧ current < stop)
        else decide (start ≤ current ∨ current < stop)
      | _, _ => true

/-! ## Matching -/

/-- How narrowly a literal beginning matches; an empty one is a catch-all where `catchAll`. -/
def prefixSpecificity (catchAll : Bool) (code digits : String) : Option Nat :=
  if code = "" then if catchAll then some 0 else none
  else if code.toList.isPrefixOf digits.toList then some (Text.jsLength code) else none

/-- How specifically a route matches a destination, or none when it does not apply. -/
def matchSpecificity (env : TextEngine) (route : CandidateRoute) (ctx : SelectionContext) :
    Option Nat :=
  let digits := digitsOnly (some ctx.msisdn)
  if (Text.truthy route.sender).any fun pattern =>
      !matchesWildcard env (some (ctx.sender.getD "")) pattern then none
  else match route.routeType with
    | .wildcard =>
      let pattern := (route.matchPrefix.or route.destinationPrefix).getD ""
      if Text.trim pattern = "" then none
      else if matchesWildcard env (some digits) pattern then some (wildcardSpecificity pattern)
      else none
    | .prefixed => prefixSpecificity true (digitsOnly route.matchPrefix) digits
    | .country => prefixSpecificity false (digitsOnly route.countryCode) digits
    | .operator =>
      let op := Text.trim (route.operator.getD "")
      if op = "" then none
      else if op = Text.trim (ctx.operator.getD "") then some 1000
      else none
    | .static | .weighted =>
      prefixSpecificity true (digitsOnly (route.matchPrefix.or route.destinationPrefix)) digits

/-- The routes that apply to a destination, each with its specificity. -/
def applicable (env : TextEngine) (routes : List CandidateRoute) (ctx : SelectionContext) :
    List (CandidateRoute × Nat) :=
  routes.filterMap fun route =>
    -- a window is honoured on every route that has one, not on the `time-based` ones only
    if !route.enabled || !isWithinWindow route.window ctx.now then none
    else (matchSpecificity env route ctx).map fun specificity => (route, specificity)

/-- The order the controlling route is first in. -/
def compareMatches (env : TextEngine) (a b : CandidateRoute × Nat) : Ordering :=
  (compare b.2 a.2).then <|
    (compare a.1.priority b.1.priority).then (env.localeCompare a.1.name b.1.name)

/-- The routes that match, best first. -/
def matchedRoutes (env : TextEngine) (routes : List CandidateRoute) (ctx : SelectionContext) :
    List (CandidateRoute × Nat) :=
  (applicable env routes ctx).insertionSort (compareMatches env · · ≠ .gt)

/-! ## Strategies -/

/-- The controlling route's effect. -/
def effectOf (route : CandidateRoute) : RouteRuleEffect where
  action := route.action
  overrideSender := route.overrideSender
  overrideRecipient := route.overrideRecipient
  overrideText := route.overrideText
  dropReason := route.dropReason

/-- The bind can be picked. -/
def isAvailable (smscId : String) (ctx : SelectionContext) : Bool :=
  if smscId = "" then false
  else match ctx.availableSmscIds with
    | none => true
    | some available => available.contains smscId

/-- A bind a route can use, with its cost. -/
structure SmscCandidate where
  smscId : String
  cost : Option Rat
  /-- The primary target; anything else counts as a fallback. -/
  primary : Bool
  weight : Int

/-- The binds of a route, the primary first. -/
def routeCandidates (route : CandidateRoute) : List SmscCandidate :=
  if route.routeType = .weighted ∧ route.targets ≠ [] then
    (route.targets.filter fun t => t.enabled ∧ 0 < t.weight ∧ t.smscId ≠ "").zipIdx.map fun (t, i) =>
      ⟨t.smscId, t.cost.or route.cost, i == 0, t.weight⟩
  else
    ⟨route.targetSmscId, route.cost, true, 1⟩ ::
      (Text.truthy route.fallbackSmscId).toList.map fun fallback => ⟨fallback, route.cost, false, 1⟩

/-- The candidate a position falls on when each takes up as many positions as it weighs. -/
def pickAt : List SmscCandidate → Int → Option SmscCandidate
  | [], _ => none
  | [candidate], _ => some candidate
  | candidate :: rest, position =>
    let position := position - max candidate.weight 0
    if position < 0 then some candidate else pickAt rest position

/-- Deterministic weighted pick: the weights are laid out in a row and indexed by the counter. -/
def weightedPick (candidates : List SmscCandidate) (rotation : Int) : Option SmscCandidate :=
  let totalWeight := (candidates.map fun c => max c.weight 0).sum
  if totalWeight ≤ 0 then candidates.head? else pickAt candidates (rotation % totalWeight)

/-- Cheapest first, a bind without a price last. -/
def compareCost (env : TextEngine) (a b : SmscCandidate) : Ordering :=
  match a.cost, b.cost with
  | some x, some y => (compare x y).then (env.localeCompare a.smscId b.smscId)
  | some _, none => .lt
  | none, some _ => .gt
  | none, none => env.localeCompare a.smscId b.smscId

/-- `Number.prototype.toString` of an amount of at most six decimals. -/
def amountText (amount : Rat) : String :=
  let micros := (amount * 1000000).floor
  let whole := micros.natAbs / 1000000
  let fraction := (toString (micros.natAbs % 1000000)).toList
  let padded := List.replicate (6 - fraction.length) '0' ++ fraction
  let kept := (padded.reverse.dropWhile (· = '0')).reverse
  (if micros < 0 then "-" else "") ++ toString whole ++
    if kept = [] then "" else "." ++ String.ofList kept

/-- The candidates that are reachable. -/
def reachable (candidates : List SmscCandidate) (ctx : SelectionContext) : List SmscCandidate :=
  candidates.filter fun candidate => isAvailable candidate.smscId ctx

/-- The cheapest reachable bind across every route that matched, not the controlling one only. -/
def cheapest (env : TextEngine) (matched : List (CandidateRoute × Nat)) (ctx : SelectionContext) :
    Option SmscCandidate :=
  ((reachable (matched.flatMap fun m => routeCandidates m.1) ctx).insertionSort
    (compareCost env · · ≠ .gt)).head?

/-- The reachable bind whose turn it is. -/
def inTurn (route : CandidateRoute) (ctx : SelectionContext) : Option SmscCandidate :=
  let available := reachable (routeCandidates route) ctx
  available[(ctx.rotation % available.length).toNat]?

/-- The primary, when it is reachable. -/
def reachablePrimary (route : CandidateRoute) (ctx : SelectionContext) : Option SmscCandidate :=
  ((routeCandidates route).find? SmscCandidate.primary).filter fun c => isAvailable c.smscId ctx

/-- The first reachable bind that is not the primary. -/
def reachableFallback (route : CandidateRoute) (ctx : SelectionContext) : Option SmscCandidate :=
  (routeCandidates route).find? fun c => !c.primary && isAvailable c.smscId ctx

/-- A bind with the reason it was chosen for, or the strategy that found none. -/
def withReason (chosen : Option SmscCandidate) (reason : SmscCandidate → String) (otherwise : String) :
    Option SmscCandidate × String :=
  (chosen, (chosen.map reason).getD otherwise)

/-- The bind the controlling route's strategy comes to, and why. -/
def chooseSmsc (env : TextEngine) (matched : List (CandidateRoute × Nat))
    (controlling : CandidateRoute) (ctx : SelectionContext) : Option SmscCandidate × String :=
  match controlling.strategy with
  | .leastCost =>
    withReason (cheapest env matched ctx)
      (fun c => "least-cost (cost " ++ (c.cost.map amountText).getD "n/a" ++ ")") "least-cost"
  | .roundRobin =>
    withReason (inTurn controlling ctx)
      (fun _ => "round-robin (rotation " ++ toString ctx.rotation ++ ")") "round-robin"
  | .loadBalance =>
    withReason (weightedPick (reachable (routeCandidates controlling) ctx) ctx.rotation)
      (fun _ => "load-balance (rotation " ++ toString ctx.rotation ++ ")") "load-balance"
  | .priority | .timeBased =>
    match reachablePrimary controlling ctx with
    | some primary => (some primary, "primary target")
    | none =>
      withReason (reachableFallback controlling ctx)
        (fun _ => "primary unavailable, using fallback") "primary and fallback unavailable"

/-! ## The selection

The first route that matches controls, also when none of its binds is up. -/

def noMatch (trace : List String) (reason : String) : SelectionResult where
  smscId := none
  routeId := none
  routeName := none
  strategy := none
  fallbackUsed := false
  reason := reason
  trace := trace ++ [reason]
  effect := none

theorem noMatch_smscId (trace : List String) (reason : String) :
    (noMatch trace reason).smscId = none := rfl

/-- The result for the controlling route: without a bind it keeps the route, so that the refusal
can name it. -/
def finish (trace : List String) (controlling : CandidateRoute)
    (choice : Option SmscCandidate × String) : SelectionResult :=
  let reason := match choice.1 with
    | some _ => choice.2
    | none => choice.2 ++ "; no available SMSC"
  { smscId := choice.1.map SmscCandidate.smscId
    routeId := some controlling.id
    routeName := some controlling.name
    strategy := some controlling.strategy
    fallbackUsed := choice.1.any fun c => !c.primary
    reason := reason
    trace := trace ++ [match choice.1 with
      | some chosen => "selected SMSC " ++ chosen.smscId ++ " (" ++ reason ++ ")"
      | none => reason]
    effect := some (effectOf controlling) }

/-- Select the bind for a destination. -/
def selectRoute (env : TextEngine) (routes : List CandidateRoute) (ctx : SelectionContext) :
    SelectionResult :=
  let digits := digitsOnly (some ctx.msisdn)
  let trace := ["destination " ++ ctx.msisdn ++ " (digits " ++
    (if digits = "" then "none" else digits) ++ ")"]
  if digits = "" then noMatch trace "destination has no dialable digits"
  else match matchedRoutes env routes ctx with
    | [] => noMatch trace "no route matched the destination"
    | (controlling, specificity) :: rest =>
      finish
        (trace ++ [toString (rest.length + 1) ++ " route(s) matched",
          "controlling route \"" ++ controlling.name ++ "\" (" ++ controlling.routeType.text ++
            ", priority " ++ toString controlling.priority ++ ", strategy " ++
            controlling.strategy.text ++ ")"])
        controlling (chooseSmsc env ((controlling, specificity) :: rest) controlling ctx)

/-! ## What a selection can be -/

variable {env : TextEngine} {routes : List CandidateRoute} {ctx : SelectionContext}
  {candidates : List SmscCandidate} {c : SmscCandidate} {matched : List (CandidateRoute × Nat)}
  {controlling : CandidateRoute}

theorem matchedRoutes_mem {m : CandidateRoute × Nat} (h : m ∈ matchedRoutes env routes ctx) :
    m.1 ∈ routes ∧ m.1.enabled = true := by
  rw [matchedRoutes, mem_insertionSort, applicable, mem_filterMap] at h
  obtain ⟨route, hroute, hm⟩ := h
  split at hm
  · cases hm
  · next hactive =>
    obtain ⟨specificity, -, rfl⟩ := Option.map_eq_some_iff.mp hm
    refine ⟨hroute, ?_⟩
    rw [Bool.or_eq_true, not_or, Bool.not_eq_true', Bool.not_eq_false] at hactive
    exact hactive.1

theorem pickAt_mem {position : Int} (h : pickAt candidates position = some c) : c ∈ candidates := by
  induction candidates generalizing position with
  | nil => cases h
  | cons a rest ih =>
    cases rest with
    | nil => exact mem_singleton.mpr (Option.some.inj h).symm
    | cons b rest =>
      rw [pickAt] at h
      · split at h
        · exact Option.some.inj h ▸ mem_cons_self
        · exact mem_cons_of_mem _ (ih h)
      · exact cons_ne_nil _ _

theorem weightedPick_mem {rotation : Int} (h : weightedPick candidates rotation = some c) :
    c ∈ candidates := by
  rw [weightedPick] at h
  split at h
  · exact mem_of_head? h
  · exact pickAt_mem h

theorem reachable_available (h : c ∈ reachable candidates ctx) : isAvailable c.smscId ctx = true :=
  (mem_filter.mp h).2

theorem cheapest_available
    (h : cheapest env matched ctx = some c) : isAvailable c.smscId ctx = true :=
  reachable_available ((mem_insertionSort _).mp (mem_of_head? h))

theorem reachableFallback_available {route : CandidateRoute}
    (h : reachableFallback route ctx = some c) : isAvailable c.smscId ctx = true := by
  have hfound := find?_some h
  rw [Bool.and_eq_true] at hfound
  exact hfound.2

/-- **Whatever the strategy, a bind that is chosen is reachable.** -/
theorem chooseSmsc_available (h : (chooseSmsc env matched controlling ctx).1 = some c) :
    isAvailable c.smscId ctx = true := by
  rw [chooseSmsc] at h
  split at h
  · exact cheapest_available h
  · exact reachable_available (mem_of_getElem? h)
  · exact reachable_available (weightedPick_mem h)
  all_goals
    split at h
    · next hprimary =>
      cases h
      exact (Option.filter_eq_some_iff.mp hprimary).2
    · exact reachableFallback_available h

/-- A selection without a controlling route has no bind, and one with a route is its strategy's
choice. -/
theorem selectRoute_cases (env : TextEngine) (routes : List CandidateRoute)
    (ctx : SelectionContext) :
    ((selectRoute env routes ctx).smscId = none ∧ (selectRoute env routes ctx).effect = none) ∨
      ∃ trace controlling, controlling ∈ routes ∧ controlling.enabled = true ∧
        selectRoute env routes ctx = finish trace controlling
          (chooseSmsc env (matchedRoutes env routes ctx) controlling ctx) := by
  rw [selectRoute]
  by_cases hdigits : digitsOnly (some ctx.msisdn) = ""
  · rw [if_pos hdigits]
    exact .inl ⟨rfl, rfl⟩
  · rw [if_neg hdigits]
    cases hmatched : matchedRoutes env routes ctx with
    | nil => exact .inl ⟨rfl, rfl⟩
    | cons m rest =>
      have hmem : m ∈ matchedRoutes env routes ctx := hmatched ▸ mem_cons_self
      exact .inr ⟨_, m.1, (matchedRoutes_mem hmem).1, (matchedRoutes_mem hmem).2, rfl⟩

/-- The selection under a controlling route. -/
theorem selectRoute_of_matched {specificity : Nat}
    {rest : List (CandidateRoute × Nat)} (hdigits : digitsOnly (some ctx.msisdn) ≠ "")
    (hmatched : matchedRoutes env routes ctx = (controlling, specificity) :: rest) :
    ∃ trace, selectRoute env routes ctx =
      finish trace controlling (chooseSmsc env ((controlling, specificity) :: rest) controlling ctx) := by
  rw [selectRoute, if_neg hdigits, hmatched]
  exact ⟨_, rfl⟩

/-- A message for which a bind is selected has a controlling route. -/
theorem matched_of_selectRoute {smscId : String}
    (h : (selectRoute env routes ctx).smscId = some smscId) :
    digitsOnly (some ctx.msisdn) ≠ "" ∧ ∃ controlling specificity rest,
      matchedRoutes env routes ctx = (controlling, specificity) :: rest := by
  rw [selectRoute] at h
  by_cases hdigits : digitsOnly (some ctx.msisdn) = ""
  · rw [if_pos hdigits, noMatch_smscId] at h
    cases h
  · rw [if_neg hdigits] at h
    cases hmatched : matchedRoutes env routes ctx with
    | nil =>
      rw [hmatched] at h
      cases h
    | cons m rest => exact ⟨hdigits, m.1, m.2, rest, rfl⟩

/-- A bind that is selected was reachable. -/
theorem selectRoute_available {smscId : String}
    (h : (selectRoute env routes ctx).smscId = some smscId) : isAvailable smscId ctx = true := by
  rcases selectRoute_cases env routes ctx with ⟨hnone, -⟩ | ⟨trace, controlling, -, -, heq⟩
  · rw [hnone] at h; cases h
  · rw [heq] at h
    obtain ⟨c, hc, rfl⟩ := Option.map_eq_some_iff.mp h
    exact chooseSmsc_available hc

end Jkannel.Routing
