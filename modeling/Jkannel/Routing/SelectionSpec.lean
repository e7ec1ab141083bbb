import Jkannel.Lib.Ranking
import Jkannel.Routing.Rotation

/-!
# What the selection is meant to be

`selectRoute` sorts, filters and picks.  Here is what it comes to, said without a sort.

* `Applies` is a route that is enabled, in its window and matches, with its specificity, and
  `Precedes` the order among those: the more specific first, then the lower priority number, then
  the name.
* `Offers` are the binds that a selection has to choose from: those the controlling route can use,
  and, when it goes by cost, those of every route that applies.
* `selectRoute_meets_spec` puts them together: which route controls, which bind is chosen, and when
  there is none.

The collation of names is the runtime's; all that is asked of it is that it is a comparison.
-/

namespace Jkannel.Routing

open List Option

variable {env : TextEngine} {routes : List CandidateRoute} {ctx : SelectionContext}
  {rest : List (CandidateRoute × Nat)} {m : CandidateRoute × Nat} {route : CandidateRoute}
  {cost : Option Rat}

/-! ## The comparisons -/

/-- The price of a bind; one without a price is dearer than all others. -/
def costRank (c : SmscCandidate) : WithTop ℚ := c.cost.elim ⊤ fun x => (x : WithTop ℚ)

theorem compareCost_eq (env : TextEngine) : compareCost env =
    compareLex (compareOn costRank) fun a b => env.localeCompare a.smscId b.smscId := by
  funext a b
  rw [compareCost, compareLex, compareOn, costRank, costRank]
  cases a.cost with
  | none =>
    cases b.cost with
    | none => simp
    | some y => simp [compare_gt_iff_gt.mpr (WithTop.coe_lt_top y)]
  | some x =>
    cases b.cost with
    | none => simp [compare_lt_iff_lt.mpr (WithTop.coe_lt_top x)]
    | some y =>
      have : compare (x : WithTop ℚ) (y : WithTop ℚ) = compare x y := by
        rcases lt_trichotomy x y with h | h | h
        · rw [compare_lt_iff_lt.mpr h, compare_lt_iff_lt.mpr (WithTop.coe_lt_coe.mpr h)]
        · rw [h, compare_eq_iff_eq.mpr rfl, compare_eq_iff_eq.mpr rfl]
        · rw [compare_gt_iff_gt.mpr h, compare_gt_iff_gt.mpr (WithTop.coe_lt_coe.mpr h)]
      simp [this]

instance [Std.TransCmp env.localeCompare] : Std.TransCmp (compareCost env) := by
  have : Std.TransCmp fun a b : SmscCandidate => env.localeCompare a.smscId b.smscId :=
    Ranking.transCmp_on env.localeCompare SmscCandidate.smscId
  rw [compareCost_eq]
  infer_instance

theorem compareMatches_eq (env : TextEngine) : compareMatches env =
    compareLex (fun a b => compare b.2 a.2)
      (compareLex (fun a b => compare a.1.priority b.1.priority)
        fun a b => env.localeCompare a.1.name b.1.name) := rfl

instance [Std.TransCmp env.localeCompare] : Std.TransCmp (compareMatches env) := by
  have hspecificity : Std.TransCmp fun a b : CandidateRoute × Nat => compare a.2 b.2 :=
    Ranking.transCmp_on compare Prod.snd
  have hopposite : Std.TransCmp fun a b : CandidateRoute × Nat => compare b.2 a.2 :=
    hspecificity.opposite
  have hpriority : Std.TransCmp fun a b : CandidateRoute × Nat =>
      compare a.1.priority b.1.priority :=
    Ranking.transCmp_on compare fun a : CandidateRoute × Nat => a.1.priority
  have hname : Std.TransCmp fun a b : CandidateRoute × Nat =>
      env.localeCompare a.1.name b.1.name :=
    Ranking.transCmp_on env.localeCompare fun a : CandidateRoute × Nat => a.1.name
  rw [compareMatches_eq]
  infer_instance

/-! ## Routes that apply -/

/-- The route applies to the message, with this specificity. -/
def Applies (env : TextEngine) (ctx : SelectionContext) (route : CandidateRoute)
    (specificity : Nat) : Prop :=
  route.enabled = true ∧ isWithinWindow route.window ctx.now = true ∧
    matchSpecificity env route ctx = some specificity

/-- The more specific route first, then the one of the lower priority number, then by name. -/
def Precedes (env : TextEngine) (a b : CandidateRoute × Nat) : Prop :=
  b.2 < a.2 ∨ (a.2 = b.2 ∧ (a.1.priority < b.1.priority ∨
    (a.1.priority = b.1.priority ∧ env.localeCompare a.1.name b.1.name ≠ .gt)))

theorem mem_matchedRoutes :
    m ∈ matchedRoutes env routes ctx ↔ m.1 ∈ routes ∧ Applies env ctx m.1 m.2 := by
  rw [matchedRoutes, mem_insertionSort, applicable, mem_filterMap]
  constructor
  · rintro ⟨route, hroute, hm⟩
    split at hm
    · cases hm
    · next hactive =>
      obtain ⟨specificity, hspecificity, rfl⟩ := map_eq_some_iff.mp hm
      rw [Bool.or_eq_true, not_or, Bool.not_eq_true', Bool.not_eq_false, Bool.not_eq_true',
        Bool.not_eq_false] at hactive
      exact ⟨hroute, hactive.1, hactive.2, hspecificity⟩
  · rintro ⟨hroute, henabled, hwindow, hspecificity⟩
    refine ⟨m.1, hroute, ?_⟩
    rw [henabled, hwindow, if_neg (by simp), hspecificity]
    rfl

theorem compareMatches_ne_gt {a b : CandidateRoute × Nat} :
    compareMatches env a b ≠ .gt ↔ Precedes env a b := by
  rw [compareMatches, Precedes]
  rcases lt_trichotomy a.2 b.2 with h | h | h
  · simp [compare_gt_iff_gt.mpr h, h.ne, h.le]
  · rcases lt_trichotomy a.1.priority b.1.priority with hp | hp | hp
    · simp [h, compare_lt_iff_lt.mpr hp, hp]
    · simp [h, hp]
    · simp [h, compare_gt_iff_gt.mpr hp, hp.ne', hp.le]
  · simp [compare_lt_iff_lt.mpr h, h]

/-- The controlling route is the first of those that apply. -/
theorem matchedRoutes_first [Std.TransCmp env.localeCompare]
    (h : matchedRoutes env routes ctx = m :: rest) :
    ∀ other ∈ matchedRoutes env routes ctx, Precedes env m other := by
  intro other hother
  have hsorted := @Ranking.pairwise_insertionSort _ (compareMatches env) _ (applicable env routes ctx)
  rw [show (applicable env routes ctx).insertionSort (compareMatches env · · ≠ .gt) = _ from h]
    at hsorted
  rw [← compareMatches_ne_gt]
  rw [h] at hother
  rcases mem_cons.mp hother with rfl | hother
  · rw [show compareMatches env other other = .eq from Std.ReflCmp.compare_self]
    exact Ordering.noConfusion
  · exact (pairwise_cons.mp hsorted).1 other hother

/-! ## Binds that are offered -/

/-- A bind the route can use, at a price: its primary or its fallback, or, when it fans out, an
enabled target with a weight. -/
def Usable (route : CandidateRoute) (smscId : String) (cost : Option Rat) : Prop :=
  if route.routeType = .weighted ∧ route.targets ≠ [] then
    ∃ t ∈ route.targets, t.enabled = true ∧ 0 < t.weight ∧ t.smscId ≠ "" ∧ t.smscId = smscId ∧
      t.cost.or route.cost = cost
  else
    route.cost = cost ∧
      (route.targetSmscId = smscId ∨ (smscId ≠ "" ∧ route.fallbackSmscId = some smscId))

/-- The first price is below the second; none at all is above all others. -/
def Cheaper : Option Rat → Option Rat → Prop
  | some x, some y => x < y
  | some _, none => True
  | none, _ => False

/-- The binds there are to choose from. -/
def Offers (env : TextEngine) (routes : List CandidateRoute) (ctx : SelectionContext)
    (controlling : CandidateRoute) (smscId : String) (cost : Option Rat) : Prop :=
  if controlling.strategy = .leastCost then
    ∃ route ∈ routes, ∃ specificity, Applies env ctx route specificity ∧ Usable route smscId cost
  else Usable controlling smscId cost

theorem mem_routeCandidates {smscId : String} :
    (∃ c ∈ routeCandidates route, c.smscId = smscId ∧ c.cost = cost) ↔
      Usable route smscId cost := by
  rw [routeCandidates, Usable]
  split
  · constructor
    · rintro ⟨c, hc, rfl, rfl⟩
      obtain ⟨⟨t, i⟩, hmem, rfl⟩ := mem_map.mp hc
      obtain ⟨ht, hused⟩ := mem_filter.mp (fst_mem_of_mem_zipIdx hmem)
      obtain ⟨henabled, hweight, hnamed⟩ := of_decide_eq_true hused
      exact ⟨t, ht, henabled, hweight, hnamed, rfl, rfl⟩
    · rintro ⟨t, ht, henabled, hweight, hnamed, rfl, rfl⟩
      have hused : t ∈ route.targets.filter fun t => t.enabled ∧ 0 < t.weight ∧ t.smscId ≠ "" :=
        mem_filter.mpr ⟨ht, decide_eq_true ⟨henabled, hweight, hnamed⟩⟩
      obtain ⟨i, hi, hget⟩ := mem_iff_getElem.mp hused
      refine ⟨_, mem_map.mpr ⟨(t, i), ?_, rfl⟩, rfl, rfl⟩
      exact mk_mem_zipIdx_iff_getElem?.mpr (by rw [getElem?_eq_getElem hi, hget])
  · constructor
    · rintro ⟨c, hc, rfl, rfl⟩
      rcases mem_cons.mp hc with rfl | hc
      · exact ⟨rfl, .inl rfl⟩
      · obtain ⟨fallback, hfallback, rfl⟩ := mem_map.mp hc
        exact ⟨rfl, .inr ((Text.truthy_eq_some_iff.mp (mem_toList.mp hfallback)).symm)⟩
    · rintro ⟨rfl, rfl | hfallback⟩
      · exact ⟨_, mem_cons_self, rfl, rfl⟩
      · refine ⟨_, mem_cons_of_mem _ (mem_map.mpr ⟨smscId, ?_, rfl⟩), rfl, rfl⟩
        exact mem_toList.mpr (Text.truthy_eq_some_iff.mpr hfallback.symm)

/-- The candidates of a strategy. -/
def pool (matched : List (CandidateRoute × Nat)) (controlling : CandidateRoute) :
    List SmscCandidate :=
  if controlling.strategy = .leastCost then matched.flatMap fun m => routeCandidates m.1
  else routeCandidates controlling

variable {controlling : CandidateRoute} {c : SmscCandidate} {matched : List (CandidateRoute × Nat)}
  {candidates : List SmscCandidate} {d : SmscCandidate}

theorem mem_pool {smscId : String} :
    (∃ c ∈ pool (matchedRoutes env routes ctx) controlling, c.smscId = smscId ∧ c.cost = cost) ↔
      Offers env routes ctx controlling smscId cost := by
  rw [pool, Offers]
  split
  · constructor
    · rintro ⟨c, hc, hid, hcost⟩
      obtain ⟨m, hm, hc⟩ := mem_flatMap.mp hc
      obtain ⟨hroute, happlies⟩ := mem_matchedRoutes.mp hm
      exact ⟨m.1, hroute, m.2, happlies, mem_routeCandidates.mp ⟨c, hc, hid, hcost⟩⟩
    · rintro ⟨route, hroute, k, happlies, husable⟩
      obtain ⟨c, hc, hid, hcost⟩ := mem_routeCandidates.mpr husable
      exact ⟨c, mem_flatMap.mpr ⟨(route, k), mem_matchedRoutes.mpr ⟨hroute, happlies⟩, hc⟩,
        hid, hcost⟩
  · exact mem_routeCandidates

/-! ## What a strategy chooses -/

theorem pickAt_ne_none (h : candidates ≠ []) (position : Int) :
    pickAt candidates position ≠ none := by
  induction candidates generalizing position with
  | nil => exact absurd rfl h
  | cons a rest ih =>
    cases rest with
    | nil => simp [pickAt]
    | cons b rest =>
      rw [pickAt]
      · split
        · simp
        · exact ih (cons_ne_nil b rest) _
      · exact cons_ne_nil b rest

theorem weightedPick_eq_none {rotation : Int} :
    weightedPick candidates rotation = none ↔ candidates = [] := by
  cases candidates with
  | nil => simp [weightedPick]
  | cons a rest =>
    rw [weightedPick]
    split
    · simp
    · simp [pickAt_ne_none]

theorem inTurn_eq_none :
    inTurn route ctx = none ↔ reachable (routeCandidates route) ctx = [] := by
  rw [inTurn, List.getElem?_eq_none_iff]
  constructor
  · intro h
    by_contra hne
    have hpos : 0 < (reachable (routeCandidates route) ctx).length := length_pos_iff.mpr hne
    have hlow := Int.emod_nonneg ctx.rotation (Int.natCast_ne_zero.mpr hpos.ne')
    have hhigh := Int.emod_lt_of_pos ctx.rotation (Int.natCast_pos.mpr hpos)
    omega
  · intro h
    rw [h]
    exact Nat.zero_le _

/-- There is a choice as long as a candidate is reachable. -/
theorem chooseSmsc_eq_none (matched : List (CandidateRoute × Nat)) (controlling : CandidateRoute) :
    (chooseSmsc env matched controlling ctx).1 = none ↔
      reachable (pool matched controlling) ctx = [] := by
  rw [pool]
  cases hstrategy : controlling.strategy with
  | leastCost =>
    simp only [chooseSmsc, hstrategy, withReason, if_true, cheapest, head?_eq_none_iff]
    rw [← length_eq_zero_iff, length_insertionSort, length_eq_zero_iff]
  | roundRobin =>
    simp only [chooseSmsc, hstrategy, withReason, reduceCtorEq, if_false]
    exact inTurn_eq_none
  | loadBalance =>
    simp only [chooseSmsc, hstrategy, withReason, reduceCtorEq, if_false]
    exact weightedPick_eq_none
  | priority =>
    rw [chooseSmsc_preferring env matched ctx (.inl hstrategy), if_neg SelectionStrategy.noConfusion]
    exact head?_eq_none_iff
  | timeBased =>
    rw [chooseSmsc_preferring env matched ctx (.inr hstrategy), if_neg SelectionStrategy.noConfusion]
    exact head?_eq_none_iff

/-- A choice is one of the candidates, and reachable. -/
theorem chooseSmsc_mem (h : (chooseSmsc env matched controlling ctx).1 = some c) :
    c ∈ reachable (pool matched controlling) ctx := by
  rw [pool]
  cases hstrategy : controlling.strategy with
  | leastCost =>
    simp only [chooseSmsc, hstrategy, withReason, cheapest] at h
    rw [if_pos rfl]
    exact (mem_insertionSort _).mp (mem_of_head? h)
  | roundRobin =>
    simp only [chooseSmsc, hstrategy, withReason, inTurn] at h
    rw [if_neg SelectionStrategy.noConfusion]
    exact mem_of_getElem? h
  | loadBalance =>
    simp only [chooseSmsc, hstrategy, withReason] at h
    rw [if_neg SelectionStrategy.noConfusion]
    exact weightedPick_mem h
  | priority =>
    rw [chooseSmsc_preferring env matched ctx (.inl hstrategy)] at h
    rw [if_neg SelectionStrategy.noConfusion]
    exact mem_of_head? h
  | timeBased =>
    rw [chooseSmsc_preferring env matched ctx (.inr hstrategy)] at h
    rw [if_neg SelectionStrategy.noConfusion]
    exact mem_of_head? h

theorem cheaper_iff : Cheaper d.cost c.cost ↔ costRank d < costRank c := by
  rw [costRank, costRank]
  cases d.cost with
  | none => simp [Cheaper]
  | some x =>
    cases c.cost with
    | none => simp [Cheaper]
    | some y => simp [Cheaper]

/-- Going by cost, nothing reachable is cheaper than the choice. -/
theorem cheapest_least [Std.TransCmp env.localeCompare] (h : cheapest env matched ctx = some c)
    (hd : d ∈ reachable (matched.flatMap fun m => routeCandidates m.1) ctx) :
    ¬ Cheaper d.cost c.cost := by
  intro hcheaper
  have hle := (Ranking.head?_insertionSort_iff.mp h).least d hd
  rw [compareCost_eq, compareLex, compareOn, compare_gt_iff_gt.mpr (cheaper_iff.mp hcheaper)] at hle
  exact hle rfl

theorem finish_smscId (trace : List String) (controlling : CandidateRoute)
    (choice : Option SmscCandidate × String) :
    (finish trace controlling choice).smscId = choice.1.map SmscCandidate.smscId := rfl

/-! ## The specification -/

/-- What a selection with a controlling route comes to. -/
structure Selects (env : TextEngine) (routes : List CandidateRoute) (ctx : SelectionContext)
    (result : SelectionResult) (controlling : CandidateRoute) : Prop where
  mem : controlling ∈ routes
  routeId : result.routeId = some controlling.id
  /-- The controlling route applies, and no route that applies comes before it. -/
  first : ∃ specificity, Applies env ctx controlling specificity ∧
    ∀ route ∈ routes, ∀ k, Applies env ctx route k →
      Precedes env (controlling, specificity) (route, k)
  /-- The bind is one that is offered, and when it goes by cost nothing offered is cheaper. -/
  smsc : ∀ smscId, result.smscId = some smscId → isAvailable smscId ctx = true ∧
    ∃ cost, Offers env routes ctx controlling smscId cost ∧
      (controlling.strategy = .leastCost → ∀ other cost', Offers env routes ctx controlling other
        cost' → isAvailable other ctx = true → ¬ Cheaper cost' cost)
  /-- There is no bind when none that is offered is available. -/
  smsc_none : result.smscId = none ↔
    ∀ smscId cost, Offers env routes ctx controlling smscId cost → isAvailable smscId ctx = false

theorem reachable_pool_eq_nil :
    reachable (pool (matchedRoutes env routes ctx) controlling) ctx = [] ↔
      ∀ smscId cost, Offers env routes ctx controlling smscId cost →
        isAvailable smscId ctx = false := by
  rw [reachable, filter_eq_nil_iff]
  constructor
  · intro h smscId cost hoffers
    obtain ⟨c, hc, rfl, -⟩ := mem_pool.mpr hoffers
    exact Bool.eq_false_iff.mpr (h c hc)
  · intro h c hc
    exact Bool.eq_false_iff.mp (h c.smscId c.cost (mem_pool.mp ⟨c, hc, rfl, rfl⟩))

theorem selects_of_matched [Std.TransCmp env.localeCompare] {specificity : Nat}
    (hdigits : digitsOnly (some ctx.msisdn) ≠ "")
    (hmatched : matchedRoutes env routes ctx = (controlling, specificity) :: rest) :
    Selects env routes ctx (selectRoute env routes ctx) controlling := by
  obtain ⟨trace, heq⟩ := selectRoute_of_matched hdigits hmatched
  rw [← hmatched] at heq
  have hmem := mem_matchedRoutes.mp
    (show (controlling, specificity) ∈ matchedRoutes env routes ctx by
      rw [hmatched]; exact mem_cons_self)
  rw [heq]
  refine ⟨hmem.1, rfl, ⟨specificity, hmem.2, fun route hroute k hk => ?_⟩, fun smscId h => ?_, ?_⟩
  · exact matchedRoutes_first hmatched (route, k) (mem_matchedRoutes.mpr ⟨hroute, hk⟩)
  · obtain ⟨c, hc, rfl⟩ := map_eq_some_iff.mp h
    have hpool := chooseSmsc_mem hc
    refine ⟨chooseSmsc_available hc, c.cost, mem_pool.mp ⟨c, mem_of_mem_filter hpool, rfl, rfl⟩,
      fun hleast other cost' hoffers havailable => ?_⟩
    obtain ⟨d, hd, rfl, rfl⟩ := mem_pool.mpr hoffers
    rw [pool, if_pos hleast] at hd
    simp only [chooseSmsc, hleast, withReason] at hc
    exact cheapest_least hc (mem_filter.mpr ⟨hd, havailable⟩)
  · rw [← reachable_pool_eq_nil, ← @chooseSmsc_eq_none env]
    exact map_eq_none_iff

/-- **The selection does what it is meant to do.** -/
theorem selectRoute_meets_spec [Std.TransCmp env.localeCompare]
    (hdigits : digitsOnly (some ctx.msisdn) ≠ "") :
    ((selectRoute env routes ctx).routeId = none ↔
      ∀ route ∈ routes, ∀ specificity, ¬ Applies env ctx route specificity) ∧
    ((selectRoute env routes ctx).routeId = none → (selectRoute env routes ctx).smscId = none) ∧
    ∀ id, (selectRoute env routes ctx).routeId = some id →
      ∃ controlling, controlling.id = id ∧
        Selects env routes ctx (selectRoute env routes ctx) controlling := by
  cases hmatched : matchedRoutes env routes ctx with
  | nil =>
    have heq : ∃ trace, selectRoute env routes ctx =
        noMatch trace "no route matched the destination" := by
      rw [selectRoute, if_neg hdigits, hmatched]
      exact ⟨_, rfl⟩
    obtain ⟨trace, heq⟩ := heq
    have hnone : ∀ route ∈ routes, ∀ specificity, ¬ Applies env ctx route specificity := by
      intro route hroute k hk
      have hmem : (route, k) ∈ matchedRoutes env routes ctx := mem_matchedRoutes.mpr ⟨hroute, hk⟩
      rw [hmatched] at hmem
      cases hmem
    rw [heq]
    exact ⟨⟨fun _ => hnone, fun _ => rfl⟩, fun _ => rfl, fun id h => by cases h⟩
  | cons m rest =>
    have hselects := selects_of_matched hdigits hmatched
    obtain ⟨specificity, happlies, -⟩ := hselects.first
    refine ⟨⟨fun h => ?_, fun h => ?_⟩, fun h => ?_, fun id h => ⟨m.1, ?_, hselects⟩⟩
    · rw [hselects.routeId] at h
      cases h
    · exact absurd happlies (h m.1 hselects.mem specificity)
    · rw [hselects.routeId] at h
      cases h
    · rw [hselects.routeId] at h
      exact some.inj h

/-! ## An instance -/

theorem compareText_eq : Text.compareText = fun a b =>
    List.compareLex compare (a.toList.map Char.toNat) (b.toList.map Char.toNat) := rfl

instance : Std.TransCmp Text.compareText := by
  rw [compareText_eq]
  exact Ranking.transCmp_on (List.compareLex compare) fun s : String => s.toList.map Char.toNat

instance : Std.TransCmp TextEngine.ascii.localeCompare :=
  inferInstanceAs (Std.TransCmp Text.compareText)

theorem compareText_eq_of_compare {a b : String} (h : Text.compareText a b = .eq) : a = b := by
  have hcodes := @Std.LawfulEqCmp.eq_of_compare _ (List.compareLex compare) _ _ _ h
  have hinj : Function.Injective Char.toNat := fun c d he => Char.ext (UInt32.toNat_inj.mp he)
  exact String.toList_injective (map_injective_iff.mpr hinj hcodes)

instance : Std.LawfulEqCmp TextEngine.ascii.localeCompare where
  compare_self := Std.ReflCmp.compare_self
  eq_of_compare := compareText_eq_of_compare

/-- A route to Uganda over two binds that take turns. -/
def toUganda : CandidateRoute where
  id := "r1"
  name := "uganda"
  priority := 10
  enabled := true
  routeType := .prefixed
  strategy := .roundRobin
  matchPrefix := some "256"
  countryCode := none
  operator := none
  destinationPrefix := none
  sender := none
  cost := none
  targetSmscId := "smsc-a"
  fallbackSmscId := some "smsc-b"
  targets := []
  window := none
  action := .route
  overrideSender := none
  overrideRecipient := none
  overrideText := none
  dropReason := none

/-- A message to Kampala, with both binds up. -/
def kampala (rotation : Int) : SelectionContext :=
  ⟨"+256 772 123456", none, none, ⟨1, 9, 30⟩, some ["smsc-a", "smsc-b"], rotation⟩

/-- With a route for every destination, and a narrower one for a sender. -/
def threeRoutes : List CandidateRoute :=
  [{ toUganda with id := "r0", name := "everywhere", matchPrefix := some "" }, toUganda,
    { toUganda with id := "r2", name := "info", matchPrefix := some "25677", sender := some "INFO" }]

theorem selectRoute_meets_spec_uganda : ∃ controlling, controlling.id = "r1" ∧
    Selects .ascii threeRoutes (kampala 0) (selectRoute .ascii threeRoutes (kampala 0))
      controlling := by
  have hspec := @selectRoute_meets_spec .ascii threeRoutes (kampala 0) inferInstance
    (by decide +kernel)
  exact hspec.2.2 "r1" (by decide +kernel)

end Jkannel.Routing
