import Jkannel.Routing.LoadSharing

/-!
# What `fallbackUsed` says

The flag is set whenever the chosen candidate is not the first of its route.  It is documented as
saying that the primary bind was down and the fallback was taken for it, and that is so under some
strategies only.

* `FailedOver` is what the flag is documented to say.
* `StandsIn` is that a failover is due, and to which bind.
* `FlagHolds` is the condition, strategy by strategy, over the route's binds and which are up.
* `fallbackUsed_iff` is when the flag is right.
-/

namespace Jkannel.Routing

open List

variable {env : TextEngine} {routes : List CandidateRoute} {ctx : SelectionContext}
  {route : CandidateRoute} {c : SmscCandidate} {strategy : SelectionStrategy}

/-- When the flag is set, the controlling route's primary is down and its fallback is what was
selected. -/
def FailedOver (env : TextEngine) (routes : List CandidateRoute) (ctx : SelectionContext) : Prop :=
  (selectRoute env routes ctx).fallbackUsed = true →
    ∃ m ∈ (matchedRoutes env routes ctx).head?, isAvailable m.1.targetSmscId ctx = false ∧
      ∃ smscId, (selectRoute env routes ctx).smscId = some smscId ∧
        m.1.fallbackSmscId = some smscId

/-- The route's primary is down, and the bind is its fallback. -/
def StandsIn (route : CandidateRoute) (ctx : SelectionContext) (smscId : String) : Prop :=
  isAvailable route.targetSmscId ctx = false ∧ route.fallbackSmscId = some smscId

/-- The destinations of a weighted route that are up, each with its place in the route. -/
def upTargets (route : CandidateRoute) (ctx : SelectionContext) : List (RouteTarget × Nat) :=
  (route.targets.filter fun t => t.enabled ∧ 0 < t.weight ∧ t.smscId ≠ "").zipIdx.filter
    fun t => isAvailable t.1.smscId ctx

/-- Whose turn it is at a rotation: one turn each, or as many as it weighs, or always the first's. -/
def turnOf {α : Type} (strategy : SelectionStrategy) (weight : α → Int) (up : List α)
    (rotation : Int) : Option α :=
  match strategy with
  | .roundRobin => up[(rotation % up.length).toNat]?
  | .loadBalance =>
    let turns := up.flatMap fun a => List.replicate (weight a).toNat a
    turns[(rotation % turns.length).toNat]?
  | .priority | .timeBased | .leastCost => up.head?

/-- **The condition.**  Under least-cost the cheapest bind that is up, of all the routes that match,
is the first of its own route, or stands in.  Of a weighted route the destination whose turn it is
comes first, or stands in.  Of any other, primary and fallback do not take turns: the strategy
prefers the primary, or one of the two is down, or the turn is the primary's. -/
def FlagHolds (env : TextEngine) (matched : List (CandidateRoute × Nat)) (route : CandidateRoute)
    (ctx : SelectionContext) : Prop :=
  if route.strategy = .leastCost then
    ∀ c, Ranking.Leads (compareCost env)
        (reachable (matched.flatMap fun m => routeCandidates m.1) ctx) c →
      c.primary = true ∨ StandsIn route ctx c.smscId
  else if route.routeType = .weighted ∧ route.targets ≠ [] then
    ∀ t, turnOf route.strategy (fun t => t.1.weight) (upTargets route ctx) ctx.rotation = some t →
      t.2 = 0 ∨ StandsIn route ctx t.1.smscId
  else
    route.strategy = .priority ∨ route.strategy = .timeBased ∨
      isAvailable route.targetSmscId ctx = false ∨
      route.fallbackSmscId.any (isAvailable · ctx) = false ∨ ctx.rotation % 2 = 0

/-! ## Turns

A turn is a place in the row, so it does not depend on what stands there. -/

theorem turnOf_map {α β : Type} (strategy : SelectionStrategy) (weight : β → Int) (f : α → β)
    (up : List α) (rotation : Int) : turnOf strategy weight (up.map f) rotation =
      (turnOf strategy (fun a => weight (f a)) up rotation).map f := by
  have hrow : (up.map f).flatMap (fun b => List.replicate (weight b).toNat b) =
      (up.flatMap fun a => List.replicate (weight (f a)).toNat a).map f := by
    rw [flatMap_map, map_flatMap]
    simp only [map_replicate]
  cases strategy with
  | roundRobin => simp only [turnOf, length_map, getElem?_map]
  | loadBalance => simp only [turnOf, hrow, length_map, getElem?_map]
  | priority | timeBased | leastCost => exact head?_map

/-- But for the cheapest, a strategy goes by turns among the route's own binds. -/
theorem chooseSmsc_turn (matched : List (CandidateRoute × Nat))
    (hcost : route.strategy ≠ .leastCost) : (chooseSmsc env matched route ctx).1 =
      turnOf route.strategy SmscCandidate.weight (reachable (routeCandidates route) ctx)
        ctx.rotation := by
  cases hstrategy : route.strategy with
  | leastCost => exact absurd hstrategy hcost
  | roundRobin => simp only [chooseSmsc, hstrategy, withReason, inTurn, turnOf]
  | loadBalance =>
    simp only [chooseSmsc, hstrategy, withReason, turnOf]
    exact weightedPick_row (fun c hc => routeCandidates_weight (mem_of_mem_filter hc)) _
  | priority => exact chooseSmsc_preferring env matched ctx (.inl hstrategy)
  | timeBased => exact chooseSmsc_preferring env matched ctx (.inr hstrategy)

/-! ## The binds that are up -/

/-- The candidate of a weighted destination. -/
def candidateOf (route : CandidateRoute) (t : RouteTarget × Nat) : SmscCandidate :=
  ⟨t.1.smscId, t.1.cost.or route.cost, t.2 == 0, t.1.weight⟩

theorem reachable_weighted (h : route.routeType = .weighted ∧ route.targets ≠ []) :
    reachable (routeCandidates route) ctx = (upTargets route ctx).map (candidateOf route) := by
  rw [reachable, routeCandidates, if_pos h, upTargets, filter_map]
  rfl

theorem reachable_plain (h : ¬ (route.routeType = .weighted ∧ route.targets ≠ [])) :
    reachable (routeCandidates route) ctx =
      (if isAvailable route.targetSmscId ctx then [⟨route.targetSmscId, route.cost, true, 1⟩] else []) ++
        (route.fallbackSmscId.filter (isAvailable · ctx)).toList.map
          fun fallback => ⟨fallback, route.cost, false, 1⟩ := by
  have htruthy (fallback : Option String) : ((Text.truthy fallback).toList.map fun fallback =>
      (⟨fallback, route.cost, false, 1⟩ : SmscCandidate)).filter (isAvailable ·.smscId ctx) =
        (fallback.filter (isAvailable · ctx)).toList.map
          fun fallback => ⟨fallback, route.cost, false, 1⟩ := by
    cases fallback with
    | none => rfl
    | some fallback =>
      by_cases hblank : fallback = ""
      · subst hblank
        rfl
      · rw [Text.truthy, if_neg hblank, Option.filter_some]
        by_cases hup : isAvailable fallback ctx
        · simp [hup]
        · simp [hup]
  rw [reachable, routeCandidates, if_neg h, filter_cons, htruthy]
  split
  · rfl
  · rfl

theorem turnOf_mem {α : Type} {weight : α → Int} {up : List α}
    {rotation : Int} {a : α} (h : turnOf strategy weight up rotation = some a) : a ∈ up := by
  cases strategy with
  | roundRobin => exact mem_of_getElem? h
  | loadBalance =>
    obtain ⟨b, hb, hturn⟩ := mem_flatMap.mp (mem_of_getElem? h)
    exact eq_of_mem_replicate hturn ▸ hb
  | priority | timeBased | leastCost => exact mem_of_head? h

/-- Two that weigh one each take every other turn. -/
theorem turnOf_pair {α : Type} {weight : α → Int} {a b : α}
    {rotation : Int} (hrotates : strategy = .roundRobin ∨ strategy = .loadBalance)
    (ha : weight a = 1) (hb : weight b = 1) :
    turnOf strategy weight [a, b] rotation = some (if rotation % 2 = 0 then a else b) := by
  have hrow : [a, b].flatMap (fun a => List.replicate (weight a).toNat a) = [a, b] := by
    rw [flatMap_cons, flatMap_singleton, ha, hb]
    rfl
  have hturn : [a, b][(rotation % ([a, b].length : Int)).toNat]? =
      some (if rotation % 2 = 0 then a else b) := by
    change [a, b][(rotation % 2).toNat]? = _
    rcases Int.emod_two_eq rotation with h | h
    · rw [h]
      rfl
    · rw [h]
      rfl
  rcases hrotates with rfl | rfl
  · exact hturn
  · rw [turnOf, hrow]
    exact hturn

/-- Of a primary and a fallback that are both up, the fallback is taken when it is its turn. -/
theorem plain_iff (h : ¬ (route.routeType = .weighted ∧ route.targets ≠ []))
    (hcost : route.strategy ≠ .leastCost) :
    (∀ c, turnOf route.strategy SmscCandidate.weight (reachable (routeCandidates route) ctx)
        ctx.rotation = some c → c.primary = true ∨ StandsIn route ctx c.smscId) ↔
      (route.strategy = .priority ∨ route.strategy = .timeBased ∨
        isAvailable route.targetSmscId ctx = false ∨
        route.fallbackSmscId.any (isAvailable · ctx) = false ∨ ctx.rotation % 2 = 0) := by
  rw [reachable_plain h]
  cases hup : isAvailable route.targetSmscId ctx with
  | false =>
    refine iff_of_true (fun c hc => .inr ⟨hup, ?_⟩) (.inr (.inr (.inl rfl)))
    obtain ⟨fallback, hfallback, rfl⟩ := mem_map.mp (turnOf_mem hc)
    exact (Option.filter_eq_some_iff.mp (Option.mem_toList.mp hfallback)).1
  | true =>
    cases hfallback : route.fallbackSmscId.filter (isAvailable · ctx) with
    | none =>
      have hdown : route.fallbackSmscId.any (isAvailable · ctx) = false := by
        cases hsome : route.fallbackSmscId with
        | none => rfl
        | some fallback => simpa [hsome] using hfallback
      refine iff_of_true (fun c hc => .inl ?_) (.inr (.inr (.inr (.inl hdown))))
      rw [mem_singleton.mp (turnOf_mem hc)]
    | some fallback =>
      obtain ⟨hsome, hfallbackUp⟩ := Option.filter_eq_some_iff.mp hfallback
      have hany : route.fallbackSmscId.any (isAvailable · ctx) = true := by rw [hsome]; exact hfallbackUp
      have hnot (smscId : String) : ¬ StandsIn route ctx smscId := fun h => by
        rw [h.1] at hup
        cases hup
      simp only [hany, hnot, or_false, reduceCtorEq, false_or]
      cases hstrategy : route.strategy with
      | leastCost => exact absurd hstrategy hcost
      | priority => exact iff_of_true (fun c hc => by cases hc; rfl) (.inl rfl)
      | timeBased => exact iff_of_true (fun c hc => by cases hc; rfl) (.inr (.inl rfl))
      | roundRobin | loadBalance =>
        rw [if_pos trivial, Option.toList_some, map_singleton, singleton_append, turnOf_pair]
        · split
          · next heven => exact iff_of_true (fun c hc => by cases hc; rfl) (.inr (.inr heven))
          · next hodd =>
            refine iff_of_false (fun h => ?_) (by simp [hodd])
            cases h _ rfl
        · simp
        · rfl
        · rfl

/-! ## The flag

The flag says that the pick is not the first of the route's binds. -/

theorem failedOver_of_unmatched
    (h : digitsOnly (some ctx.msisdn) = "" ∨ matchedRoutes env routes ctx = []) :
    FailedOver env routes ctx := by
  intro hflag
  have hnone : (selectRoute env routes ctx).fallbackUsed = false := by
    rw [selectRoute]
    split
    · rfl
    · next hdigits =>
      rw [h.resolve_left hdigits]
      rfl
  rw [hnone] at hflag
  cases hflag

/-- Under a controlling route the flag is right just when what is chosen is a primary or stands in. -/
theorem failedOver_iff_choice {m : CandidateRoute × Nat} {rest : List (CandidateRoute × Nat)}
    (hdigits : digitsOnly (some ctx.msisdn) ≠ "")
    (hmatched : matchedRoutes env routes ctx = m :: rest) :
    FailedOver env routes ctx ↔ ∀ c, (chooseSmsc env (m :: rest) m.1 ctx).1 = some c →
      c.primary = true ∨ StandsIn m.1 ctx c.smscId := by
  obtain ⟨trace, heq⟩ := selectRoute_of_matched hdigits hmatched
  rw [FailedOver, heq, hmatched]
  cases hchoice : (chooseSmsc env (m :: rest) m.1 ctx).1 with
  | none => simp [finish, hchoice]
  | some chosen =>
    have hflag : (finish trace m.1 (chooseSmsc env (m :: rest) m.1 ctx)).fallbackUsed =
        !chosen.primary := by simp [finish, hchoice]
    have hsmsc : (finish trace m.1 (chooseSmsc env (m :: rest) m.1 ctx)).smscId =
        some chosen.smscId := by simp [finish, hchoice]
    rw [hflag, hsmsc]
    cases hprimary : chosen.primary with
    | false => simp [hprimary, StandsIn]
    | true => simp [hprimary]

/-- The condition is that what is chosen is a primary or stands in. -/
theorem flagHolds_iff [Std.TransCmp env.localeCompare] (matched : List (CandidateRoute × Nat))
    (route : CandidateRoute) (ctx : SelectionContext) : FlagHolds env matched route ctx ↔
      ∀ c, (chooseSmsc env matched route ctx).1 = some c →
        c.primary = true ∨ StandsIn route ctx c.smscId := by
  rw [FlagHolds]
  split
  · next hcost =>
    simp only [chooseSmsc, hcost, withReason, cheapest, Ranking.head?_insertionSort_iff]
  · next hcost =>
    rw [chooseSmsc_turn matched hcost]
    split
    · next hweighted =>
      rw [reachable_weighted hweighted, turnOf_map]
      simp only [Option.map_eq_some_iff]
      constructor
      · rintro h _ ⟨t, ht, rfl⟩
        exact (h t ht).imp_left beq_iff_eq.mpr
      · exact fun h t ht => (h _ ⟨t, ht, rfl⟩).imp_left beq_iff_eq.mp
    · next hplain => exact (plain_iff hplain hcost).symm

/-- **When `fallbackUsed` means failover**: when there is no controlling route, or the condition
holds of the one there is. -/
theorem fallbackUsed_iff (env : TextEngine) (routes : List CandidateRoute) (ctx : SelectionContext)
    [Std.TransCmp env.localeCompare] :
    FailedOver env routes ctx ↔ (digitsOnly (some ctx.msisdn) ≠ "" →
      ∀ m ∈ (matchedRoutes env routes ctx).head?,
        FlagHolds env (matchedRoutes env routes ctx) m.1 ctx) := by
  by_cases hdigits : digitsOnly (some ctx.msisdn) = ""
  · exact ⟨fun _ h => absurd hdigits h, fun _ => failedOver_of_unmatched (.inl hdigits)⟩
  · cases hmatched : matchedRoutes env routes ctx with
    | nil => exact ⟨fun _ _ m hm => (by cases hm), fun _ => failedOver_of_unmatched (.inr hmatched)⟩
    | cons m rest =>
      rw [failedOver_iff_choice hdigits hmatched, ← flagHolds_iff]
      constructor
      · intro h _ m' hm'
        cases hm'
        exact h
      · exact fun h => h hdigits m rfl

/-- With the primary down, an odd rotation is a failover. -/
theorem fallbackUsed_uganda : FailedOver .ascii threeRoutes
    { kampala 1 with availableSmscIds := some ["smsc-b"] } := by
  refine (fallbackUsed_iff .ascii threeRoutes _).mpr fun _ m hm => ?_
  have hfirst : (matchedRoutes .ascii threeRoutes
      { kampala 1 with availableSmscIds := some ["smsc-b"] }).head? = some (toUganda, 3) := by
    decide +kernel
  obtain rfl := Option.some.inj (hfirst.symm.trans hm)
  exact .inr (.inr (.inl (by decide +kernel)))

/-- With both binds up, the second turn sets the flag. -/
theorem fallback_in_turn : ¬ FailedOver .ascii [toUganda] (kampala 1) := by
  intro h
  obtain ⟨m, hm, hdown, -⟩ := h (by decide +kernel)
  have : (matchedRoutes .ascii [toUganda] (kampala 1)).head? = some (toUganda, 3) := by
    decide +kernel
  rw [this] at hm
  obtain rfl := Option.some.inj hm
  revert hdown
  decide +kernel

end Jkannel.Routing
