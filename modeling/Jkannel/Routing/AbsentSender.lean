import Jkannel.Routing.SelectionSpec

/-!
# A message without a sender

A wildcard matches no absent value, not even `*`: a message without a sender has no value for a
sender constraint to match.  The selector does not ask about an absent value, though, but about an
empty one, and a pattern such as `*` accepts that.

* `matchedRoutes_filter`: the routes that match among some of the routes are those of all that
  match, in the same order.
* `SelectsAlike` is that two selections name the same bind, route and effect.
* `selectsAlike_of_kept` and `kept_of_selectsAlike` say when leaving out routes changes a
  selection: it does unless the route in control is kept, and the cheapest bind with it.
* `absent_sender_iff` is the case of the routes with a sender constraint, and
  `decidedByKept_of_no_empty` one in which it makes no difference.
-/

namespace Jkannel.Routing

open List Option
open Ranking (Leads head?_insertionSort_iff)

variable {env : TextEngine} {routes : List CandidateRoute} {ctx : SelectionContext}
  {keep : CandidateRoute → Bool} {m : CandidateRoute × Nat} {rest : List (CandidateRoute × Nat)}
  {controlling : CandidateRoute}

/-! ## Leaving routes out -/

theorem applicable_filter (keep : CandidateRoute → Bool) :
    applicable env (routes.filter keep) ctx =
      (applicable env routes ctx).filter fun m => keep m.1 := by
  rw [applicable, applicable, filterMap_filter, filter_filterMap]
  refine filterMap_congr fun route _ => ?_
  split
  next hkeep =>
    split
    · rfl
    · cases matchSpecificity env route ctx <;> simp [Option.filter, hkeep]
  next hkeep =>
    split
    · rfl
    · cases matchSpecificity env route ctx <;> simp [Option.filter, hkeep]

theorem matchedRoutes_filter [Std.TransCmp env.localeCompare] (keep : CandidateRoute → Bool) :
    matchedRoutes env (routes.filter keep) ctx =
      (matchedRoutes env routes ctx).filter fun m => keep m.1 := by
  rw [matchedRoutes, matchedRoutes, applicable_filter, Ranking.filter_insertionSort]

/-- Two selections name the same bind and route, and do the same to the message. -/
structure SelectsAlike (result result' : SelectionResult) : Prop where
  smscId : result.smscId = result'.smscId
  routeId : result.routeId = result'.routeId
  effect : result.effect = result'.effect

/-- A route that goes by nothing but its own binds comes to the same bind whatever else matches. -/
theorem chooseSmsc_of_strategy (matched matched' : List (CandidateRoute × Nat))
    (h : controlling.strategy ≠ .leastCost) :
    chooseSmsc env matched controlling ctx = chooseSmsc env matched' controlling ctx := by
  cases hstrategy : controlling.strategy with
  | leastCost => exact absurd hstrategy h
  | _ => simp only [chooseSmsc, hstrategy]

theorem chooseSmsc_of_leastCost (matched : List (CandidateRoute × Nat))
    (h : controlling.strategy = .leastCost) :
    (chooseSmsc env matched controlling ctx).1 = cheapest env matched ctx := by
  simp only [chooseSmsc, h, withReason]

section

variable (h : digitsOnly (some ctx.msisdn) = "" ∨ matchedRoutes env routes ctx = [])
include h

theorem selectRoute_noMatch :
    ∃ trace reason, selectRoute env routes ctx = noMatch trace reason := by
  rw [selectRoute]
  by_cases hdigits : digitsOnly (some ctx.msisdn) = ""
  · rw [if_pos hdigits]
    exact ⟨_, _, rfl⟩
  · rw [if_neg hdigits, h.resolve_left hdigits]
    exact ⟨_, _, rfl⟩

theorem SelectsAlike.of_noMatch {routes' : List CandidateRoute}
    (h' : digitsOnly (some ctx.msisdn) = "" ∨ matchedRoutes env routes' ctx = []) :
    SelectsAlike (selectRoute env routes ctx) (selectRoute env routes' ctx) := by
  obtain ⟨trace, reason, hnone⟩ := selectRoute_noMatch h
  obtain ⟨trace', reason', hnone'⟩ := selectRoute_noMatch h'
  rw [hnone, hnone']
  exact ⟨rfl, rfl, rfl⟩

end

/-- The route that is named is one of the routes. -/
theorem selectRoute_routeId {id : String} (h : (selectRoute env routes ctx).routeId = some id) :
    ∃ route ∈ routes, route.id = id := by
  rw [selectRoute] at h
  split at h
  · cases h
  · split at h
    · cases h
    next controlling specificity rest hmatched =>
      have hmem : (controlling, specificity) ∈ matchedRoutes env routes ctx :=
        hmatched ▸ mem_cons_self
      exact ⟨controlling, (matchedRoutes_mem hmem).1, some.inj h⟩

/-- The binds that the matching routes offer and that can be reached. -/
def offered (env : TextEngine) (routes : List CandidateRoute) (ctx : SelectionContext) :
    List SmscCandidate :=
  reachable ((matchedRoutes env routes ctx).flatMap fun m => routeCandidates m.1) ctx

/-- The routes that are left out decide nothing: the route in control is one that is kept, and if it
goes by cost, the first of the cheapest binds has the name of the first of the cheapest that are
kept. -/
def DecidedByKept (env : TextEngine) (routes : List CandidateRoute) (ctx : SelectionContext)
    (keep : CandidateRoute → Bool) : Prop :=
  ∀ m, Leads (compareMatches env) (applicable env routes ctx) m → keep m.1 = true ∧
    (m.1.strategy = .leastCost → ∀ c, Leads (compareCost env) (offered env routes ctx) c →
      ∃ k, Leads (compareCost env) (offered env (routes.filter keep) ctx) k ∧
        k.smscId = c.smscId)

section Kept

variable [Std.TransCmp env.localeCompare] {c : SmscCandidate}

theorem cheapest_eq_some_iff :
    cheapest env (matchedRoutes env routes ctx) ctx = some c ↔
      Leads (compareCost env) (offered env routes ctx) c :=
  head?_insertionSort_iff

theorem matchedRoutes_leads (h : matchedRoutes env routes ctx = m :: rest) :
    Leads (compareMatches env) (applicable env routes ctx) m := by
  rw [← head?_insertionSort_iff]
  rw [matchedRoutes] at h
  rw [h]
  rfl

theorem matchedRoutes_ne_nil (h : Leads (compareMatches env) (applicable env routes ctx) m) :
    ∃ rest, matchedRoutes env routes ctx = m :: rest := by
  rw [← head?_insertionSort_iff, head?_eq_some_iff] at h
  exact h

theorem offered_filter_subset
    (h : c ∈ offered env (routes.filter keep) ctx) : c ∈ offered env routes ctx := by
  obtain ⟨hmem, havailable⟩ := mem_filter.mp h
  obtain ⟨m, hm, hc⟩ := mem_flatMap.mp hmem
  rw [matchedRoutes_filter] at hm
  exact mem_filter.mpr ⟨mem_flatMap.mpr ⟨m, mem_of_mem_filter hm, hc⟩, havailable⟩

/-- Going by cost, the bind is the same exactly when the first of the cheapest has the name of the
first of the cheapest that are kept. -/
theorem cheapest_filter_iff :
    (cheapest env (matchedRoutes env routes ctx) ctx).map SmscCandidate.smscId =
        (cheapest env (matchedRoutes env (routes.filter keep) ctx) ctx).map SmscCandidate.smscId ↔
      ∀ c, Leads (compareCost env) (offered env routes ctx) c →
        ∃ k, Leads (compareCost env) (offered env (routes.filter keep) ctx) k ∧
          k.smscId = c.smscId := by
  constructor
  · intro hsame c hc
    rw [cheapest_eq_some_iff.mpr hc, map_some, eq_comm, map_eq_some_iff] at hsame
    obtain ⟨k, hk, hname⟩ := hsame
    exact ⟨k, cheapest_eq_some_iff.mp hk, hname⟩
  · intro hlead
    cases hall : cheapest env (matchedRoutes env routes ctx) ctx with
    | some c =>
      obtain ⟨k, hk, hname⟩ := hlead c (cheapest_eq_some_iff.mp hall)
      rw [cheapest_eq_some_iff.mpr hk, map_some, map_some, hname]
    | none =>
      -- nothing is offered, and so nothing is among the routes that are kept
      cases hkept : cheapest env (matchedRoutes env (routes.filter keep) ctx) ctx with
      | none => rfl
      | some k =>
        have hk := offered_filter_subset (cheapest_eq_some_iff.mp hkept).mem
        have hempty : offered env routes ctx = [] := by
          rw [cheapest, head?_eq_none_iff, ← length_eq_zero_iff,
            length_insertionSort, length_eq_zero_iff] at hall
          exact hall
        rw [hempty] at hk
        cases hk

end Kept

/-! ## When it makes no difference -/

section Agreement

variable [Std.TransCmp env.localeCompare]

/-- The selection under a route that is kept. -/
theorem selectsAlike_of_controlling (hdigits : digitsOnly (some ctx.msisdn) ≠ "")
    (hmatched : matchedRoutes env routes ctx = m :: rest) (hkeep : keep m.1 = true) :
    SelectsAlike (selectRoute env routes ctx) (selectRoute env (routes.filter keep) ctx) ↔
      (m.1.strategy = .leastCost → ∀ c, Leads (compareCost env) (offered env routes ctx) c →
        ∃ k, Leads (compareCost env) (offered env (routes.filter keep) ctx) k ∧
          k.smscId = c.smscId) := by
  have hmatched' : matchedRoutes env (routes.filter keep) ctx =
      m :: rest.filter fun m => keep m.1 := by
    rw [matchedRoutes_filter, hmatched, filter_cons, if_pos hkeep]
  obtain ⟨trace, hselected⟩ := selectRoute_of_matched hdigits hmatched
  obtain ⟨trace', hselected'⟩ := selectRoute_of_matched hdigits hmatched'
  have hiff : SelectsAlike (selectRoute env routes ctx) (selectRoute env (routes.filter keep) ctx) ↔
      (chooseSmsc env (matchedRoutes env routes ctx) m.1 ctx).1.map SmscCandidate.smscId =
        (chooseSmsc env (matchedRoutes env (routes.filter keep) ctx) m.1 ctx).1.map
          SmscCandidate.smscId := by
    rw [hselected, hselected', hmatched, hmatched']
    exact ⟨fun h => h.smscId, fun h => ⟨h, rfl, rfl⟩⟩
  rw [hiff]
  by_cases hstrategy : m.1.strategy = .leastCost
  · rw [chooseSmsc_of_leastCost _ hstrategy, chooseSmsc_of_leastCost _ hstrategy,
      cheapest_filter_iff]
    exact ⟨fun h _ => h, fun h => h hstrategy⟩
  · rw [chooseSmsc_of_strategy (matchedRoutes env routes ctx)
      (matchedRoutes env (routes.filter keep) ctx) hstrategy]
    exact ⟨fun _ h => absurd h hstrategy, fun _ => rfl⟩

/-- **Routes that decide nothing may be left out.** -/
theorem selectsAlike_of_kept
    (h : digitsOnly (some ctx.msisdn) = "" ∨ DecidedByKept env routes ctx keep) :
    SelectsAlike (selectRoute env routes ctx) (selectRoute env (routes.filter keep) ctx) := by
  by_cases hdigits : digitsOnly (some ctx.msisdn) = ""
  · exact .of_noMatch (.inl hdigits) (.inl hdigits)
  · cases hmatched : matchedRoutes env routes ctx with
    | nil =>
      refine .of_noMatch (.inr hmatched) (.inr ?_)
      rw [matchedRoutes_filter, hmatched, filter_nil]
    | cons m rest =>
      obtain ⟨hkeep, hcost⟩ := h.resolve_left hdigits m (matchedRoutes_leads hmatched)
      exact (selectsAlike_of_controlling hdigits hmatched hkeep).mpr hcost

/-- **Routes that decide something may not.** -/
theorem kept_of_selectsAlike (hids : (routes.map CandidateRoute.id).Nodup)
    (h : SelectsAlike (selectRoute env routes ctx) (selectRoute env (routes.filter keep) ctx)) :
    digitsOnly (some ctx.msisdn) = "" ∨ DecidedByKept env routes ctx keep := by
  by_cases hdigits : digitsOnly (some ctx.msisdn) = ""
  · exact .inl hdigits
  refine .inr fun m hleads => ?_
  obtain ⟨rest, hmatched⟩ := matchedRoutes_ne_nil hleads
  have hmem : m ∈ matchedRoutes env routes ctx := hmatched ▸ mem_cons_self
  have hkeep : keep m.1 = true := by
    obtain ⟨trace, hselected⟩ := selectRoute_of_matched hdigits hmatched
    have hrouteId : (selectRoute env (routes.filter keep) ctx).routeId = some m.1.id := by
      rw [← h.routeId, hselected]
      rfl
    obtain ⟨route, hroute, hid⟩ := selectRoute_routeId hrouteId
    obtain ⟨hroute, hkeep⟩ := mem_filter.mp hroute
    rwa [inj_on_of_nodup_map hids hroute (matchedRoutes_mem hmem).1 hid] at hkeep
  exact ⟨hkeep, (selectsAlike_of_controlling hdigits hmatched hkeep).mp h⟩

end Agreement

/-! ## Sender constraints -/

/-- The route is for any sender. -/
def anySender (route : CandidateRoute) : Bool := (Text.truthy route.sender).isNone

/-- The message without its sender. -/
def withoutSender (ctx : SelectionContext) : SelectionContext := { ctx with sender := none }

section Absent

/-- No route is left out when no sender constraint accepts the empty text. -/
theorem decidedByKept_of_no_empty (h : ∀ route ∈ routes, ∀ pattern ∈ Text.truthy route.sender,
    matchesWildcard env (some "") pattern = false) :
    DecidedByKept env routes (withoutSender ctx) anySender := by
  have hkept : ∀ m ∈ applicable env routes (withoutSender ctx), anySender m.1 = true := by
    intro m hm
    obtain ⟨route, hroute, hsome⟩ := mem_filterMap.mp hm
    split at hsome
    · cases hsome
    · obtain ⟨k, hk, rfl⟩ := map_eq_some_iff.mp hsome
      cases hsender : Text.truthy route.sender with
      | none => exact isNone_iff_eq_none.mpr hsender
      | some pattern =>
        have hempty : matchesWildcard env (some ((withoutSender ctx).sender.getD "")) pattern =
            false := h route hroute pattern hsender
        rw [matchSpecificity, hsender, any_some, hempty] at hk
        cases hk
  have hall : applicable env (routes.filter anySender) (withoutSender ctx) =
      applicable env routes (withoutSender ctx) := by
    rw [applicable_filter, filter_eq_self.mpr hkept]
  refine fun m hleads => ⟨hkept m hleads.mem, fun _ c hc => ⟨c, ?_, rfl⟩⟩
  rwa [offered, matchedRoutes, hall]

variable [Std.TransCmp env.localeCompare]

/-- **When a message without a sender is routed as if there were no sender constraints.**  It is
when a route for any sender is in control of it and, going by cost, offers the bind that is chosen.
Among routes of different identifiers it is not otherwise. -/
theorem absent_sender_iff (routes : List CandidateRoute) (ctx : SelectionContext) :
    (digitsOnly (some ctx.msisdn) = "" ∨ DecidedByKept env routes (withoutSender ctx) anySender →
      SelectsAlike (selectRoute env routes (withoutSender ctx))
        (selectRoute env (routes.filter anySender) (withoutSender ctx))) ∧
      ((routes.map CandidateRoute.id).Nodup →
        (SelectsAlike (selectRoute env routes (withoutSender ctx))
            (selectRoute env (routes.filter anySender) (withoutSender ctx)) ↔
          digitsOnly (some ctx.msisdn) = "" ∨
            DecidedByKept env routes (withoutSender ctx) anySender)) := by
  have henough := @selectsAlike_of_kept env routes (withoutSender ctx) anySender _
  have hexact := @kept_of_selectsAlike env routes (withoutSender ctx) anySender _
  exact ⟨henough, fun hids => ⟨hexact hids, henough⟩⟩

end Absent

/-- A catch-all for every sender there is. -/
def everySender : CandidateRoute where
  id := "r1"
  name := "all-senders"
  priority := 1
  enabled := true
  routeType := .static
  strategy := .priority
  matchPrefix := none
  countryCode := none
  operator := none
  destinationPrefix := none
  sender := some "*"
  cost := none
  targetSmscId := "smsc-a"
  fallbackSmscId := none
  targets := []
  window := none
  action := .route
  overrideSender := none
  overrideRecipient := none
  overrideText := none
  dropReason := none

/-- The pattern of the narrowest route accepts no empty text. -/
theorem absent_sender_iff_anySender :
    SelectsAlike (selectRoute .ascii threeRoutes (withoutSender (kampala 0)))
        (selectRoute .ascii (threeRoutes.filter anySender) (withoutSender (kampala 0))) ∧
      (SelectsAlike (selectRoute .ascii threeRoutes (withoutSender (kampala 0)))
          (selectRoute .ascii (threeRoutes.filter anySender) (withoutSender (kampala 0))) ↔
        digitsOnly (some (kampala 0).msisdn) = "" ∨
          DecidedByKept .ascii threeRoutes (withoutSender (kampala 0)) anySender) := by
  obtain ⟨henough, hexact⟩ := @absent_sender_iff .ascii inferInstance threeRoutes (kampala 0)
  exact ⟨henough (.inr (decidedByKept_of_no_empty (by decide +kernel))), hexact (by decide)⟩

/-- A message without a sender goes out over a route for senders that match `*`. -/
theorem absent_sender_matches_star :
    (selectRoute .ascii [everySender] (withoutSender (kampala 0))).routeId = some "r1" ∧
      (selectRoute .ascii ([everySender].filter anySender) (withoutSender (kampala 0))).routeId =
        none ∧
      ¬ SelectsAlike (selectRoute .ascii [everySender] (withoutSender (kampala 0)))
        (selectRoute .ascii ([everySender].filter anySender) (withoutSender (kampala 0))) := by
  have hall : (selectRoute .ascii [everySender] (withoutSender (kampala 0))).routeId =
      some "r1" := by
    decide +kernel
  have hleft : (selectRoute .ascii ([everySender].filter anySender)
      (withoutSender (kampala 0))).routeId = none := by
    decide +kernel
  refine ⟨hall, hleft, fun h => ?_⟩
  cases hall.symm.trans (h.routeId.trans hleft)

end Jkannel.Routing
