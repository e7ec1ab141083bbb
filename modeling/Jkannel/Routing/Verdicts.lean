import Jkannel.Routing.SelectionSpec

/-!
# The verdict on every route

Beside its decision the selector says of every route what became of it, in the order of priorities.

* `whyNotMatched` goes through the conditions a second time, to name the one that failed.
* `candidates` are the verdicts.  `candidates_agree` says that they are one for each route, and that
  they tell the decision.
* `selectRoute_perm` says that neither the decision nor the verdicts depend on the order in which
  the routes are given.
-/

namespace Jkannel.Routing

open List

inductive Verdict where
  | selected | outranked | noMatch
  deriving DecidableEq

/-- A verdict with its reason. -/
structure RouteVerdict where
  routeId : String
  name : String
  priority : Int
  verdict : Verdict
  reason : String

/-- What a route that does not match asks for. -/
def mismatch (route : CandidateRoute) (digits : String) : String :=
  match route.routeType with
  | .wildcard =>
    let pattern := (route.matchPrefix.or route.destinationPrefix).getD ""
    if Text.trim pattern = "" then "Route has no pattern to match on"
    else "Destination " ++ (digits ++ " does not match " ++ pattern)
  | .country =>
    let code := digitsOnly route.countryCode
    if code = "" then "Route has no country code set"
    else "Destination does not start with +" ++ code
  | .operator =>
    let op := Text.trim (route.operator.getD "")
    if op = "" then "Route has no operator set" else "Operator must be " ++ op
  | .prefixed | .static | .weighted =>
    let code := digitsOnly (route.matchPrefix.or route.destinationPrefix)
    if code = "" then "Route has no destination prefix set"
    else "Destination does not start with +" ++ code

/-- Why a route does not apply; empty when it does. -/
def whyNotMatched (env : TextEngine) (route : CandidateRoute) (ctx : SelectionContext) : String :=
  if route.enabled = false then "Route is disabled"
  else if route.window.isSome && !isWithinWindow route.window ctx.now then "Outside its time window"
  else match (Text.truthy route.sender).filter fun pattern =>
      !matchesWildcard env (some (ctx.sender.getD "")) pattern with
  | some pattern => "Sender must be " ++ pattern
  | none =>
    match matchSpecificity env route ctx with
    | some _ => ""
    | none => mismatch route (digitsOnly (some ctx.msisdn))

/-- The order verdicts are listed in. -/
def compareListed (env : TextEngine) (a b : CandidateRoute) : Ordering :=
  (compare a.priority b.priority).then (env.localeCompare a.name b.name)

/-- The ids of the routes that apply. -/
def matchedIds (env : TextEngine) (routes : List CandidateRoute) (ctx : SelectionContext) :
    List String :=
  (applicable env routes ctx).map fun m => m.1.id

/-- The verdict on a route, before there is a winner. -/
def verdictOn (env : TextEngine) (routes : List CandidateRoute) (ctx : SelectionContext)
    (route : CandidateRoute) : RouteVerdict where
  routeId := route.id
  name := route.name
  priority := route.priority
  verdict := if route.id ∈ matchedIds env routes ctx then .outranked else .noMatch
  reason := if route.id ∈ matchedIds env routes ctx then "Matches" else whyNotMatched env route ctx

def verdicts (env : TextEngine) (routes : List CandidateRoute) (ctx : SelectionContext) :
    List RouteVerdict :=
  (routes.insertionSort (compareListed env · · ≠ .gt)).map (verdictOn env routes ctx)

/-- The first verdict on the winner says that it won. -/
def markSelected (winner : String) : List RouteVerdict → List RouteVerdict
  | [] => []
  | v :: vs =>
    if v.routeId = winner then
      { v with
        verdict := .selected
        reason := "Matches and has the highest specificity" } :: vs
    else v :: markSelected winner vs

/-- The verdicts that go with a selection. -/
def candidates (env : TextEngine) (routes : List CandidateRoute) (ctx : SelectionContext) :
    List RouteVerdict :=
  if digitsOnly (some ctx.msisdn) = "" then []
  else match matchedRoutes env routes ctx with
    | [] => verdicts env routes ctx
    | (controlling, _) :: _ => markSelected controlling.id (verdicts env routes ctx)

variable {env : TextEngine} {routes : List CandidateRoute} {ctx : SelectionContext}

/-! ## The two ways through the conditions -/

theorem append_ne_empty {s t : String} (h : s ≠ "") : s ++ t ≠ "" := by
  intro he
  have : (s ++ t).toList = [] := by rw [he]; rfl
  rw [String.toList_append, append_eq_nil_iff] at this
  exact h (String.toList_eq_nil_iff.mp this.1)

theorem isWithinWindow_none (now : LocalTime) : isWithinWindow none now = true := rfl

variable {route : CandidateRoute} {v : RouteVerdict} {routes' : List CandidateRoute}
  {vs : List RouteVerdict}

theorem matchSpecificity_sender {pattern : String}
    (h : ((Text.truthy route.sender).filter fun pattern =>
      !matchesWildcard env (some (ctx.sender.getD "")) pattern) = some pattern) :
    matchSpecificity env route ctx = none := by
  obtain ⟨hsender, hfails⟩ := Option.filter_eq_some_iff.mp h
  rw [matchSpecificity, hsender]
  exact if_pos hfails

theorem mismatch_ne_empty (route : CandidateRoute) (digits : String) :
    mismatch route digits ≠ "" := by
  have htold : ∀ {c : Prop} [Decidable c] {s t u : String}, s ≠ "" → t ≠ "" →
      (if c then s else t ++ u) ≠ "" := by
    intro c _ s t u hs ht
    split
    · exact hs
    · exact append_ne_empty ht
  rw [mismatch]
  split
  all_goals exact htold (by decide) (by decide)

/-- **A reason is given exactly when a route does not apply.** -/
theorem whyNotMatched_eq_empty :
    whyNotMatched env route ctx = "" ↔ ∃ specificity, Applies env ctx route specificity := by
  rw [whyNotMatched]
  split
  · next hdisabled =>
    refine ⟨fun h => absurd h (by decide), ?_⟩
    rintro ⟨k, h, -, -⟩
    rw [hdisabled] at h
    cases h
  next henabled =>
  split
  · next hwindow =>
    refine ⟨fun h => absurd h (by decide), ?_⟩
    rintro ⟨k, -, h, -⟩
    rw [h] at hwindow
    simp at hwindow
  next hwindow =>
  have hwithin : isWithinWindow route.window ctx.now = true := by
    cases hw : route.window with
    | none => exact isWithinWindow_none ctx.now
    | some w => simpa [hw] using hwindow
  split
  · next pattern hsender =>
    refine ⟨fun h => absurd h (append_ne_empty (by decide)), ?_⟩
    rintro ⟨k, -, -, hk⟩
    rw [matchSpecificity_sender hsender] at hk
    cases hk
  split
  · next k hk => exact ⟨fun _ => ⟨k, Bool.eq_true_of_not_eq_false henabled, hwithin, hk⟩, fun _ => rfl⟩
  · next hnone =>
    refine ⟨fun h => absurd h (mismatch_ne_empty _ _), ?_⟩
    rintro ⟨k, -, -, hk⟩
    rw [hnone] at hk
    cases hk

/-! ## Verdicts and routes -/

theorem mem_matchedIds (hdistinct : (routes.map CandidateRoute.id).Nodup)
    (hroute : route ∈ routes) :
    route.id ∈ matchedIds env routes ctx ↔ ∃ specificity, Applies env ctx route specificity := by
  have hmem : ∀ {m : CandidateRoute × Nat}, m ∈ applicable env routes ctx ↔
      m.1 ∈ routes ∧ Applies env ctx m.1 m.2 := by
    intro m
    rw [← mem_matchedRoutes, matchedRoutes, mem_insertionSort]
  rw [matchedIds, mem_map]
  constructor
  · rintro ⟨m, hm, hid⟩
    obtain ⟨hm, happlies⟩ := hmem.mp hm
    obtain rfl : m.1 = route := inj_on_of_nodup_map hdistinct hm hroute hid
    exact ⟨m.2, happlies⟩
  · rintro ⟨k, happlies⟩
    exact ⟨(route, k), hmem.mpr ⟨hroute, happlies⟩, rfl⟩

theorem markSelected_routeIds (winner : String) (vs : List RouteVerdict) :
    (markSelected winner vs).map RouteVerdict.routeId = vs.map RouteVerdict.routeId := by
  induction vs with
  | nil => rfl
  | cons v vs ih =>
    rw [markSelected]
    split
    · rfl
    · rw [map_cons, map_cons, ih]

/-- With distinct ids, marking the winner changes its verdict and no other. -/
theorem mem_markSelected {winner : String}
    (hdistinct : (vs.map RouteVerdict.routeId).Nodup) (hv : v ∈ markSelected winner vs) :
    (v.routeId ≠ winner ∧ v ∈ vs) ∨ (v.routeId = winner ∧ v.verdict = .selected ∧
      ∃ old ∈ vs, old.routeId = winner) := by
  induction vs with
  | nil => cases hv
  | cons w vs ih =>
    rw [map_cons, nodup_cons] at hdistinct
    rw [markSelected] at hv
    split at hv
    · next hw =>
      rcases mem_cons.mp hv with rfl | hv
      · exact .inr ⟨hw, rfl, w, mem_cons_self, hw⟩
      · refine .inl ⟨fun he => hdistinct.1 ?_, mem_cons_of_mem w hv⟩
        exact mem_map.mpr ⟨v, hv, he.trans hw.symm⟩
    · next hw =>
      rcases mem_cons.mp hv with rfl | hv
      · exact .inl ⟨hw, mem_cons_self⟩
      · rcases ih hdistinct.2 hv with ⟨hne, hmem⟩ | ⟨heq, hsel, old, hold, hid⟩
        · exact .inl ⟨hne, mem_cons_of_mem w hmem⟩
        · exact .inr ⟨heq, hsel, old, mem_cons_of_mem w hold, hid⟩

theorem verdicts_routeIds :
    ((verdicts env routes ctx).map RouteVerdict.routeId).Perm (routes.map CandidateRoute.id) := by
  rw [verdicts, map_map]
  exact (perm_insertionSort _ routes).map _

theorem mem_verdicts :
    v ∈ verdicts env routes ctx ↔ ∃ route ∈ routes, verdictOn env routes ctx route = v := by
  rw [verdicts, mem_map]
  simp only [mem_insertionSort]

/-- What the verdicts say of the routes and of the decision. -/
structure Agrees (env : TextEngine) (routes : List CandidateRoute) (ctx : SelectionContext)
    (result : SelectionResult) (vs : List RouteVerdict) : Prop where
  /-- One verdict for each route. -/
  each : (vs.map RouteVerdict.routeId).Perm (routes.map CandidateRoute.id)
  /-- A route does not match exactly when it does not apply, and then it is said why. -/
  noMatch : ∀ v ∈ vs, ∀ route ∈ routes, route.id = v.routeId →
    (v.verdict = .noMatch ↔ ∀ specificity, ¬ Applies env ctx route specificity) ∧
      (v.verdict = .noMatch → v.reason ≠ "")
  /-- The winner is the route that was decided for. -/
  selected : ∀ v ∈ vs, v.verdict = .selected ↔ result.routeId = some v.routeId
  /-- There is exactly one, as long as a route was decided for. -/
  one : result.routeId.isSome → ∃ v ∈ vs, v.verdict = .selected
  /-- Every other route that applies is outranked. -/
  outranked : ∀ v ∈ vs, ∀ route ∈ routes, route.id = v.routeId →
    (∃ specificity, Applies env ctx route specificity) → result.routeId ≠ some v.routeId →
      v.verdict = .outranked

/-- Before there is a winner. -/
theorem verdictOn_agrees (hdistinct : (routes.map CandidateRoute.id).Nodup)
    (hv : v ∈ verdicts env routes ctx) (hroute : route ∈ routes) (hid : route.id = v.routeId) :
    (v.verdict = .noMatch ∧ v.reason ≠ "" ∧ ∀ specificity, ¬ Applies env ctx route specificity) ∨
      (v.verdict = .outranked ∧ ∃ specificity, Applies env ctx route specificity) := by
  obtain ⟨route', hroute', rfl⟩ := mem_verdicts.mp hv
  obtain rfl : route = route' := inj_on_of_nodup_map hdistinct hroute hroute' hid
  by_cases happlies : ∃ specificity, Applies env ctx route specificity
  · refine .inr ⟨?_, happlies⟩
    rw [verdictOn]
    exact if_pos ((mem_matchedIds hdistinct hroute).mpr happlies)
  · have hnot : route.id ∉ matchedIds env routes ctx :=
      fun h => happlies ((mem_matchedIds hdistinct hroute).mp h)
    refine .inl ⟨if_neg hnot, ?_, fun k hk => happlies ⟨k, hk⟩⟩
    rw [verdictOn]
    dsimp only
    rw [if_neg hnot]
    exact fun h => happlies (whyNotMatched_eq_empty.mp h)

theorem exists_route
    (heach : (vs.map RouteVerdict.routeId).Perm (routes.map CandidateRoute.id)) (hv : v ∈ vs) :
    ∃ route ∈ routes, route.id = v.routeId :=
  mem_map.mp (heach.mem_iff.mp (mem_map_of_mem hv))

/-- **The explanation agrees with the decision.** -/
theorem candidates_agree (hdistinct : (routes.map CandidateRoute.id).Nodup)
    (hdigits : digitsOnly (some ctx.msisdn) ≠ "") :
    Agrees env routes ctx (selectRoute env routes ctx) (candidates env routes ctx) := by
  have heach : ((verdicts env routes ctx).map RouteVerdict.routeId).Perm
      (routes.map CandidateRoute.id) := verdicts_routeIds
  have hnodup : ((verdicts env routes ctx).map RouteVerdict.routeId).Nodup :=
    heach.nodup_iff.mpr hdistinct
  rw [candidates, if_neg hdigits]
  cases hmatched : matchedRoutes env routes ctx with
  | nil =>
    have hnone : (selectRoute env routes ctx).routeId = none := by
      rw [selectRoute, if_neg hdigits, hmatched]
      rfl
    have happlies : ∀ route ∈ routes, ∀ k, ¬ Applies env ctx route k := by
      intro route hroute k hk
      have hmem : (route, k) ∈ matchedRoutes env routes ctx := mem_matchedRoutes.mpr ⟨hroute, hk⟩
      rw [hmatched] at hmem
      cases hmem
    have hlost : ∀ v ∈ verdicts env routes ctx, v.verdict = .noMatch ∧ v.reason ≠ "" := by
      intro v hv
      obtain ⟨route, hroute, hid⟩ := exists_route heach hv
      rcases verdictOn_agrees hdistinct hv hroute hid with ⟨hv, hr, -⟩ | ⟨-, k, hk⟩
      · exact ⟨hv, hr⟩
      · exact absurd hk (happlies route hroute k)
    refine ⟨heach, fun v hv route hroute _ => ?_, fun v hv => ?_, fun h => ?_,
      fun v _ route hroute _ h _ => ?_⟩
    · exact ⟨⟨fun _ => happlies route hroute, fun _ => (hlost v hv).1⟩, fun _ => (hlost v hv).2⟩
    · rw [(hlost v hv).1, hnone]
      simp
    · rw [hnone] at h
      cases h
    · obtain ⟨k, hk⟩ := h
      exact absurd hk (happlies route hroute k)
  | cons m rest =>
    obtain ⟨hcontrolling, happlies⟩ := mem_matchedRoutes.mp
      (show m ∈ matchedRoutes env routes ctx by rw [hmatched]; exact mem_cons_self)
    have hid : (selectRoute env routes ctx).routeId = some m.1.id := by
      obtain ⟨trace, heq⟩ := selectRoute_of_matched hdigits hmatched
      rw [heq]
      rfl
    have heach' : ((markSelected m.1.id (verdicts env routes ctx)).map
        RouteVerdict.routeId).Perm (routes.map CandidateRoute.id) := by
      rw [markSelected_routeIds]
      exact heach
    have hother : ∀ v ∈ markSelected m.1.id (verdicts env routes ctx), v.routeId ≠ m.1.id →
        v ∈ verdicts env routes ctx := by
      intro v hv hne
      rcases mem_markSelected hnodup hv with ⟨-, hmem⟩ | ⟨heq, -⟩
      · exact hmem
      · exact absurd heq hne
    have hwinner : ∀ v ∈ markSelected m.1.id (verdicts env routes ctx), v.routeId = m.1.id →
        v.verdict = .selected := by
      intro v hv heq
      rcases mem_markSelected hnodup hv with ⟨hne, -⟩ | ⟨-, hsel, -⟩
      · exact absurd heq hne
      · exact hsel
    refine ⟨heach', fun v hv route hroute hroute_id => ?_, fun v hv => ?_, fun _ => ?_,
      fun v hv route hroute hroute_id happlies' hne => ?_⟩
    · by_cases hv_id : v.routeId = m.1.id
      · obtain rfl : route = m.1 :=
          inj_on_of_nodup_map hdistinct hroute hcontrolling (hroute_id.trans hv_id)
        rw [hwinner v hv hv_id]
        exact ⟨⟨fun h => (by cases h), fun h => absurd happlies (h m.2)⟩, fun h => by cases h⟩
      · rcases verdictOn_agrees hdistinct (hother v hv hv_id) hroute hroute_id with
          ⟨hv, hr, hnot⟩ | ⟨hv, k, hk⟩
        · exact ⟨⟨fun _ => hnot, fun _ => hv⟩, fun _ => hr⟩
        · rw [hv]
          exact ⟨⟨fun h => (by cases h), fun h => absurd hk (h k)⟩, fun h => by cases h⟩
    · rw [hid, Option.some.injEq]
      refine ⟨fun h => ?_, fun h => hwinner v hv h.symm⟩
      by_contra hne
      obtain ⟨route, hroute, hroute_id⟩ := exists_route heach' hv
      rcases verdictOn_agrees hdistinct (hother v hv fun he => hne he.symm) hroute hroute_id with
        ⟨hv, -⟩ | ⟨hv, -⟩ <;> rw [h] at hv <;> cases hv
    · obtain ⟨v, hv, hv_id⟩ := mem_map.mp
        (heach'.mem_iff.mpr (mem_map_of_mem hcontrolling))
      exact ⟨v, hv, hwinner v hv hv_id⟩
    · have hv_id : v.routeId ≠ m.1.id := fun he => hne (by rw [hid, he])
      rcases verdictOn_agrees hdistinct (hother v hv hv_id) hroute hroute_id with
        ⟨-, -, hnot⟩ | ⟨hv, -⟩
      · obtain ⟨k, hk⟩ := happlies'
        exact absurd hk (hnot k)
      · exact hv

theorem candidates_agree_uganda : Agrees .ascii threeRoutes (kampala 0)
    (selectRoute .ascii threeRoutes (kampala 0)) (candidates .ascii threeRoutes (kampala 0)) :=
  candidates_agree (by decide) (by decide +kernel)

/-! ## The order of the routes -/

theorem applicable_perm (hperm : routes.Perm routes') :
    (applicable env routes ctx).Perm (applicable env routes' ctx) :=
  hperm.filterMap _

theorem verdictOn_perm (hperm : routes.Perm routes') :
    verdictOn env routes ctx = verdictOn env routes' ctx := by
  funext route
  have hiff : route.id ∈ matchedIds env routes ctx ↔ route.id ∈ matchedIds env routes' ctx :=
    ((applicable_perm hperm).map _).mem_iff
  simp only [verdictOn, hiff]

/-- **Neither the decision nor the verdicts depend on the order of the routes**, as long as no two
routes have one name. -/
theorem selectRoute_perm [Std.TransCmp env.localeCompare] [Std.LawfulEqCmp env.localeCompare]
    {routes' : List CandidateRoute} (hperm : routes.Perm routes')
    (hnames : (routes.map CandidateRoute.name).Nodup) :
    selectRoute env routes ctx = selectRoute env routes' ctx ∧
      candidates env routes ctx = candidates env routes' ctx := by
  have hmatched : matchedRoutes env routes ctx = matchedRoutes env routes' ctx := by
    refine Ranking.insertionSort_congr (applicable_perm hperm) fun a ha b hb htie => ?_
    have hmem : ∀ {m : CandidateRoute × Nat}, m ∈ applicable env routes ctx → m.1 ∈ routes :=
      fun hm => (mem_matchedRoutes.mp ((mem_insertionSort _).mpr hm)).1
    rw [compareMatches, Ordering.then_eq_eq, Ordering.then_eq_eq, compare_eq_iff_eq] at htie
    obtain ⟨hspecificity, -, hname⟩ := htie
    have hroute : a.1 = b.1 := inj_on_of_nodup_map hnames (hmem ha) (hmem hb)
      (Std.LawfulEqCmp.eq_of_compare hname)
    exact Prod.ext hroute hspecificity.symm
  have hlisted : routes.insertionSort (compareListed env · · ≠ .gt) =
      routes'.insertionSort (compareListed env · · ≠ .gt) := by
    have hpriority : Std.TransCmp fun a b : CandidateRoute => compare a.priority b.priority :=
      Ranking.transCmp_on compare CandidateRoute.priority
    have hname : Std.TransCmp fun a b : CandidateRoute => env.localeCompare a.name b.name :=
      Ranking.transCmp_on env.localeCompare CandidateRoute.name
    have : Std.TransCmp (compareListed env) :=
      inferInstanceAs (Std.TransCmp (compareLex
        (fun a b : CandidateRoute => compare a.priority b.priority)
        fun a b => env.localeCompare a.name b.name))
    refine Ranking.insertionSort_congr hperm fun a ha b hb htie => ?_
    rw [compareListed, Ordering.then_eq_eq] at htie
    exact inj_on_of_nodup_map hnames ha hb (Std.LawfulEqCmp.eq_of_compare htie.2)
  have hverdicts : verdicts env routes ctx = verdicts env routes' ctx := by
    rw [verdicts, verdicts, verdictOn_perm hperm, hlisted]
  refine ⟨?_, ?_⟩
  · rw [selectRoute, selectRoute, hmatched]
  · rw [candidates, candidates, hmatched, hverdicts]

/-- A catch-all over the second bind. -/
def toAnywhere : CandidateRoute :=
  { toUganda with
    id := "r2"
    name := "anywhere"
    matchPrefix := none
    targetSmscId := "smsc-b"
    fallbackSmscId := none }

theorem selectRoute_perm_uganda :
    selectRoute .ascii [toUganda, toAnywhere] (kampala 0) =
        selectRoute .ascii [toAnywhere, toUganda] (kampala 0) ∧
      candidates .ascii [toUganda, toAnywhere] (kampala 0) =
        candidates .ascii [toAnywhere, toUganda] (kampala 0) :=
  selectRoute_perm (List.Perm.swap toAnywhere toUganda []) (by decide)

end Jkannel.Routing
