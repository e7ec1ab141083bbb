import Jkannel.Lib.Ranking
import Jkannel.Messaging.Entitlements
import Jkannel.Retry.BindSelection
import Jkannel.Routing.Rotation

/-!
# Whether routing and entitlement agree

Three components read a customer's bindings.  The routing engine keeps a route that is bound itself
or whose primary bind is bound; the entitlement check wants the controlling route or the bind that
was chosen in the end; and the retry takes the primary bind of a bound route to be bound as well.

* `PicksBound` is the condition under which every message that is routed is permitted: the
  controlling route is bound itself, or every bind its strategy can come to is.
* `TargetsBound` is the condition for the retry: a bind that is up and that the customer has only as
  the primary bind of a route is refused when it is pinned.

Both are exact (`routing_agrees_iff`).
-/

namespace Jkannel.Messaging

open Text (truthy)
open List
open Jkannel.Routing
open Jkannel.Retry (BindSelectionInput RetryChainRow BindPolicy engineIdOf routeTarget
  entitledBinds selectRetryBind_some selectRetryBind_only mem_candidates)

/-! ## What the check wants -/

/-- The check lets the customer send. -/
def Permitted (tables : RoutingTables) (customerId : String) (smscId routeId : Option String) :
    Prop :=
  ∃ checked, assertRoutePermitted tables customerId smscId routeId = .ok checked

/-- A row entitles the customer. -/
def IsBinding (tables : RoutingTables) (customerId : String) (b : CustomerRouteRow) : Prop :=
  b ∈ tables.customerRoutes ∧ b.customerId = customerId ∧ b.enabled = true

/-- The route is one of the customer's. -/
def BoundRoute (tables : RoutingTables) (customerId routeId : String) : Prop :=
  ∃ b, IsBinding tables customerId b ∧ b.routeId = some routeId

/-- The bind is one of the customer's. -/
def BoundBind (tables : RoutingTables) (customerId smscId : String) : Prop :=
  ∃ d, (tables.smscDefinitions.find? fun d => d.engineId = smscId) = some d ∧
    ∃ b, IsBinding tables customerId b ∧ b.smscId = some d.id

variable {env : TextEngine} {tables : RoutingTables} {customerId : String}
  {bindings : List CustomerRouteRow}

theorem customerBindings_none :
    customerBindings tables customerId = none ↔ ∀ b, ¬ IsBinding tables customerId b := by
  rw [customerBindings]
  constructor
  · intro h b hb
    split at h
    · next hempty =>
      have hmem : b ∈ tables.customerRoutes.filter fun r =>
          decide (r.customerId = customerId) && r.enabled :=
        mem_filter.mpr ⟨hb.1, by rw [hb.2.1, hb.2.2]; simp⟩
      rw [hempty] at hmem
      cases hmem
    · cases h
  · intro h
    rw [if_pos]
    refine filter_eq_nil_iff.mpr fun b hb hbound => h b ⟨hb, ?_⟩
    rw [Bool.and_eq_true, decide_eq_true_eq] at hbound
    exact hbound

theorem customerBindings_some
    (h : customerBindings tables customerId = some bindings) (b : CustomerRouteRow) :
    b ∈ bindings ↔ IsBinding tables customerId b := by
  rw [customerBindings] at h
  split at h
  · cases h
  · cases h
    rw [mem_filter, Bool.and_eq_true, decide_eq_true_eq]
    exact Iff.rfl

/-- **What is permitted**: everything to a customer without bindings, and otherwise what goes over
one of its routes or one of its binds. -/
theorem permitted_iff {smscId routeId : Option String} :
    Permitted tables customerId smscId routeId ↔
      (∀ b, ¬ IsBinding tables customerId b) ∨
        (∃ id, truthy routeId = some id ∧ BoundRoute tables customerId id) ∨
        ∃ id, truthy smscId = some id ∧ BoundBind tables customerId id := by
  rw [Permitted, assertRoutePermitted]
  cases hbindings : customerBindings tables customerId with
  | none =>
    rw [customerBindings_none] at hbindings
    exact iff_of_true ⟨false, rfl⟩ (.inl hbindings)
  | some bindings =>
    have hconstrained : ¬ ∀ b, ¬ IsBinding tables customerId b := by
      rw [← customerBindings_none, hbindings]
      exact nofun
    have hmem := customerBindings_some hbindings
    have hroute : ((truthy routeId).any fun id =>
        bindings.any fun b => decide (b.routeId = some id)) = true ↔
        ∃ id, truthy routeId = some id ∧ BoundRoute tables customerId id := by
      simp only [Option.any_eq_true, any_eq_true, decide_eq_true_eq, hmem, BoundRoute]
    have hbind : (((truthy smscId).bind fun id =>
        tables.smscDefinitions.find? fun d => decide (d.engineId = id)).any fun d =>
          bindings.any fun b => decide (b.smscId = some d.id)) = true ↔
        ∃ id, truthy smscId = some id ∧ BoundBind tables customerId id := by
      simp only [Option.any_eq_true, any_eq_true, decide_eq_true_eq, hmem, BoundBind,
        Option.bind_eq_some_iff]
      constructor
      · rintro ⟨d, ⟨id, hid, hd⟩, hb⟩
        exact ⟨id, hid, d, hd, hb⟩
      · rintro ⟨id, hid, d, hd, hb⟩
        exact ⟨d, ⟨id, hid, hd⟩, hb⟩
    rw [← hroute, ← hbind, ← Bool.or_eq_true]
    dsimp only
    constructor
    · rintro ⟨checked, h⟩
      split at h
      · next hchecked => exact .inr hchecked
      · cases h
    · intro h
      rw [if_pos (h.resolve_left hconstrained)]
      exact ⟨true, rfl⟩

/-! ## The routing engine -/

/-- The message of `ctx` at a value of the counter. -/
def atRotation (ctx : SendRouteContext) (rotation : Nat) : SendRouteContext :=
  { ctx with rotation := rotation }

/-- Whatever the counter, a message that is routed is permitted. -/
def RoutedPermitted (env : TextEngine) (tables : RoutingTables) (customerId : String)
    (ctx : SendRouteContext) : Prop :=
  ∀ rotation smscId,
    (resolveInClient env tables (atRotation ctx rotation)).result.smscId = some smscId →
    Permitted tables customerId (some smscId)
      (resolveInClient env tables (atRotation ctx rotation)).result.routeId

/-- The customer has no bindings, or the controlling route is one of them, or every bind the route
can come to is one. -/
def PicksBound (env : TextEngine) (tables : RoutingTables) (customerId : String)
    (ctx : SendRouteContext) : Prop :=
  ∀ controlling specificity rest, digitsOnly (some ctx.msisdn) ≠ "" →
    matchedRoutes env (candidatesFor env tables ctx.customerId) (selectionContext tables ctx) =
      (controlling, specificity) :: rest →
    (∀ b, ¬ IsBinding tables customerId b) ∨
      (controlling.id ≠ "" ∧ BoundRoute tables customerId controlling.id) ∨
      ∀ c, CanPick env ((controlling, specificity) :: rest) controlling
        (selectionContext tables ctx) c → BoundBind tables customerId c.smscId

variable {ctx : SendRouteContext}

theorem matchedRoutes_rotation (routes : List CandidateRoute) (c : SelectionContext)
    (rotation : Int) : matchedRoutes env routes { c with rotation := rotation } =
      matchedRoutes env routes c := rfl

/-- The counter reaches the engine as it is. -/
theorem selection_atRotation (rotation : Nat) : selection env tables (atRotation ctx rotation) =
    selectRoute env (candidatesFor env tables ctx.customerId)
      { selectionContext tables ctx with rotation := rotation } := rfl

/-- Under a controlling route, a message is routed to what the strategy picks at the counter. -/
theorem resolve_of_matched {controlling : CandidateRoute} {specificity : Nat}
    {rest : List (CandidateRoute × Nat)} (hdigits : digitsOnly (some ctx.msisdn) ≠ "")
    (hmatched : matchedRoutes env (candidatesFor env tables ctx.customerId)
      (selectionContext tables ctx) = (controlling, specificity) :: rest) (rotation : Nat) :
    (resolveInClient env tables (atRotation ctx rotation)).result.routeId = some controlling.id ∧
      (resolveInClient env tables (atRotation ctx rotation)).result.smscId =
        (chooseSmsc env ((controlling, specificity) :: rest) controlling
          { selectionContext tables ctx with rotation := rotation }).1.map SmscCandidate.smscId := by
  rw [← matchedRoutes_rotation _ _ rotation] at hmatched
  have hselection := selectRoute_of_matched (by exact hdigits) hmatched
  rw [← selection_atRotation] at hselection
  obtain ⟨trace, hselection⟩ := hselection
  have hroute : (resolveInClient env tables (atRotation ctx rotation)).result.routeId =
      (selection env tables (atRotation ctx rotation)).routeId := by rw [resolveInClient]
  rw [hroute, resolveInClient_smscId, hselection]
  exact ⟨rfl, rfl⟩

/-- A message that is routed has a controlling route, whatever the counter. -/
theorem matched_of_routed {rotation : Nat} {smscId : String}
    (h : (resolveInClient env tables (atRotation ctx rotation)).result.smscId = some smscId) :
    digitsOnly (some ctx.msisdn) ≠ "" ∧ ∃ controlling specificity rest,
      matchedRoutes env (candidatesFor env tables ctx.customerId) (selectionContext tables ctx) =
        (controlling, specificity) :: rest := by
  obtain ⟨hdigits, hmatched⟩ := matched_of_selectRoute h
  exact ⟨hdigits, hmatched⟩

/-- A bind that is routed to has a name. -/
theorem routed_ne_empty {rotation : Nat} {smscId : String}
    (h : (resolveInClient env tables (atRotation ctx rotation)).result.smscId = some smscId) :
    smscId ≠ "" := by
  rintro rfl
  have havailable := selectRoute_available h
  cases havailable

/-- **Every message that is routed is permitted exactly when its picks are bound.** -/
theorem routedPermitted_iff : RoutedPermitted env tables customerId ctx ↔
    PicksBound env tables customerId ctx := by
  constructor
  · intro hall controlling specificity rest hdigits hmatched
    by_cases hfree : ∀ b, ¬ IsBinding tables customerId b
    · exact .inl hfree
    by_cases hroute : controlling.id ≠ "" ∧ BoundRoute tables customerId controlling.id
    · exact .inr (.inl hroute)
    refine .inr (.inr fun c hpick => ?_)
    obtain ⟨rotation, hchosen⟩ := canPick_iff.mp hpick
    obtain ⟨hroute', hsmsc⟩ := resolve_of_matched hdigits hmatched rotation
    rw [hchosen, Option.map_some] at hsmsc
    rcases permitted_iff.mp (hall rotation c.smscId hsmsc) with h | ⟨id, hid, hbound⟩ |
      ⟨id, hid, hbound⟩
    · exact absurd h hfree
    · rw [hroute'] at hid
      obtain ⟨hne, hid⟩ := Option.ite_none_left_eq_some.mp hid
      cases hid
      exact absurd ⟨hne, hbound⟩ hroute
    · obtain ⟨-, hid⟩ := Option.ite_none_left_eq_some.mp hid
      exact Option.some.inj hid ▸ hbound
  · intro hbound rotation smscId hrouted
    obtain ⟨hdigits, controlling, specificity, rest, hmatched⟩ := matched_of_routed hrouted
    obtain ⟨hroute, hsmsc⟩ := resolve_of_matched hdigits hmatched rotation
    rw [hrouted] at hsmsc
    obtain ⟨c, hchosen, rfl⟩ := Option.map_eq_some_iff.mp hsmsc.symm
    rw [permitted_iff, hroute]
    rcases hbound controlling specificity rest hdigits hmatched with h | ⟨hne, h⟩ | h
    · exact .inl h
    · exact .inr (.inl ⟨controlling.id, if_neg hne, h⟩)
    · exact .inr (.inr ⟨c.smscId, if_neg (routed_ne_empty hrouted),
        h c (canPick_iff.mpr ⟨rotation, hchosen⟩)⟩)

/-! ## The retry -/

/-- The keys of the tables: definitions by their id, and by the engine's name for them. -/
structure Keyed (tables : RoutingTables) : Prop where
  ids : (tables.smscDefinitions.map SmscDefinition.id).Nodup
  engineIds : (tables.smscDefinitions.map SmscDefinition.engineId).Nodup

/-- Whatever has been tried and whatever the policy, the bind chosen for a retry may be pinned. -/
def RetriesPermitted (env : TextEngine) (tables : RoutingTables) (customerId : String) : Prop :=
  ∀ (chain : RetryChainRow) (policy : BindPolicy) (recentByBind : String → Option Nat)
    (now : LocalTime) (routingFails : Bool) (smscId : String), chain.customerId = some customerId →
    (Retry.chooseBind env tables chain policy recentByBind now routingFails).smscId = some smscId →
    Permitted tables customerId (some smscId) none

/-- The primary binds of the customer's routes, as far as they are up, are the customer's too. -/
def TargetsBound (tables : RoutingTables) (customerId : String) : Prop :=
  ∀ b routeId target, IsBinding tables customerId b → b.routeId = some routeId →
    routeTarget tables routeId = some target → target ≠ "" →
    target ∈ (availability tables).available → BoundBind tables customerId target

/-- A definition is found by its engine name. -/
theorem find_engineId (hkeys : Keyed tables) {d : SmscDefinition} (h : d ∈ tables.smscDefinitions) :
    (tables.smscDefinitions.find? fun other => other.engineId = d.engineId) = some d :=
  Ranking.find?_key hkeys.engineIds h

/-- What the dispatch takes the customer to be entitled to. -/
theorem mem_entitledBinds (bind : String)
    (hne : customerId ≠ "") (hbindings : customerBindings tables customerId = some bindings) :
    (∃ binds, entitledBinds tables (some customerId) = some binds ∧
      (bind ∈ binds ↔ bind ≠ "" ∧ ∃ b, IsBinding tables customerId b ∧
        (b.smscId.bind (engineIdOf tables) = some bind ∨
          b.routeId.bind (routeTarget tables) = some bind))) := by
  have htruthy : truthy (some customerId) = some customerId := if_neg hne
  refine ⟨_, by rw [entitledBinds, htruthy, Option.bind_some, hbindings]; rfl, ?_⟩
  rw [mem_flatMap]
  constructor
  · rintro ⟨b, hb, hbind⟩
    obtain ⟨found, hfound, htruthy⟩ := mem_filterMap.mp hbind
    cases found with
    | none => cases htruthy
    | some name =>
      obtain ⟨hname, heq⟩ := Option.ite_none_left_eq_some.mp htruthy
      cases heq
      refine ⟨hname, b, (customerBindings_some hbindings b).mp hb, ?_⟩
      rcases mem_cons.mp hfound with h | h
      · exact .inl h.symm
      · exact .inr (mem_singleton.mp h).symm
  · rintro ⟨hname, b, hb, hbind⟩
    refine ⟨b, (customerBindings_some hbindings b).mpr hb,
      mem_filterMap.mpr ⟨some bind, ?_, if_neg hname⟩⟩
    rcases hbind with h | h
    · rw [h]; exact mem_cons_self
    · rw [h]; exact mem_cons_of_mem _ mem_cons_self

/-- A bind that is bound by its definition is found by its engine name. -/
theorem boundBind_of_binding (hkeys : Keyed tables) {b : CustomerRouteRow} {bind : String}
    (hb : IsBinding tables customerId b) (h : b.smscId.bind (engineIdOf tables) = some bind) :
    BoundBind tables customerId bind := by
  obtain ⟨id, hid, hengine⟩ := Option.bind_eq_some_iff.mp h
  obtain ⟨d, hfound, rfl⟩ := Option.map_eq_some_iff.mp hengine
  have hdid : d.id = id := by simpa using find?_some hfound
  exact ⟨d, find_engineId hkeys (mem_of_find?_eq_some hfound), b, hb, by rw [hid, hdid]⟩

/-- **Every retry is permitted exactly when the targets of the customer's routes are bound.** -/
theorem retriesPermitted_iff (hkeys : Keyed tables) (hne : customerId ≠ "") :
    RetriesPermitted env tables customerId ↔ TargetsBound tables customerId := by
  constructor
  · intro hall b routeId target hb hroute htarget hname havailable
    -- a chain that has been tried on everything else
    let chain : RetryChainRow :=
      ⟨"", none, some customerId, (availability tables).available.filter (· ≠ target)⟩
    have hchosen : (Retry.chooseBind env tables chain ⟨1, true⟩ (fun _ => some 0) ⟨0, 0, 0⟩
        true).smscId = some target := by
      cases hbindings : customerBindings tables customerId with
      | none => exact absurd hb (customerBindings_none.mp hbindings b)
      | some bindings =>
        obtain ⟨binds, hbinds, hmem⟩ := mem_entitledBinds target hne hbindings
        have hentitled : target ∈ binds :=
          hmem.mpr ⟨hname, b, hb, .inr (by rw [hroute]; exact htarget)⟩
        rw [Retry.chooseBind]
        refine selectRetryBind_only (mem_candidates.mpr ⟨havailable, ?_, ?_, ?_⟩) ?_
        · rw [BindSelectionInput.isTried, ← Bool.not_eq_true, contains_iff_mem]
          exact fun htried => of_decide_eq_true (mem_filter.mp htried).2 rfl
        · rw [BindSelectionInput.isEntitled, hbinds, Option.all_some]
          exact contains_iff_mem.mpr hentitled
        · rfl
        · intro other hother
          obtain ⟨hup, huntried, -, -⟩ := mem_candidates.mp hother
          by_contra hdiffers
          rw [BindSelectionInput.isTried, ← Bool.not_eq_true, contains_iff_mem] at huntried
          exact huntried (mem_filter.mpr ⟨hup, decide_eq_true hdiffers⟩)
    rcases permitted_iff.mp (hall chain _ _ _ _ target rfl hchosen) with h | ⟨id, hid, -⟩ |
      ⟨id, hid, hbound⟩
    · exact absurd hb (h b)
    · cases hid
    · obtain ⟨-, hid⟩ := Option.ite_none_left_eq_some.mp hid
      exact Option.some.inj hid ▸ hbound
  · intro hbound chain policy recentByBind now routingFails smscId hcustomer hchosen
    obtain ⟨havailable, hentitled⟩ := selectRetryBind_some hchosen
    cases hbindings : customerBindings tables customerId with
    | none => exact permitted_iff.mpr (.inl (customerBindings_none.mp hbindings))
    | some bindings =>
      obtain ⟨binds, hbinds, hmem⟩ := mem_entitledBinds smscId hne hbindings
      have hlisted : smscId ∈ binds := by
        rw [BindSelectionInput.isEntitled, hcustomer, hbinds, Option.all_some] at hentitled
        exact contains_iff_mem.mp hentitled
      obtain ⟨hname, b, hb, hdirect | htarget⟩ := hmem.mp hlisted
      · exact permitted_iff.mpr (.inr (.inr ⟨smscId, if_neg hname,
          boundBind_of_binding hkeys hb hdirect⟩))
      · obtain ⟨routeId, hroute, htarget⟩ := Option.bind_eq_some_iff.mp htarget
        exact permitted_iff.mpr (.inr (.inr ⟨smscId, if_neg hname,
          hbound b routeId smscId hb hroute htarget hname havailable⟩))

/-! ## Both together -/

/-- **When routing and entitlement agree.**  Every message of the customer that is routed is
permitted if and only if the controlling route, or every bind it can come to, is the customer's; and
every bind a retry chooses may be pinned if and only if the primary binds of the customer's routes
are the customer's as well. -/
theorem routing_agrees_iff (env : TextEngine) (hkeys : Keyed tables) (hne : customerId ≠ "") :
    (∀ ctx, truthy ctx.customerId = some customerId →
      (RoutedPermitted env tables customerId ctx ↔ PicksBound env tables customerId ctx)) ∧
    (RetriesPermitted env tables customerId ↔ TargetsBound tables customerId) :=
  ⟨fun _ _ => routedPermitted_iff, retriesPermitted_iff hkeys hne⟩

/-- Two binds, `mtn` down and `airtel` up, a catch-all route over `mtn` with `airtel` behind it, and
one binding of the customer `acme`. -/
def fallbackTables (routeId smscId : Option String) : RoutingTables where
  smscDefinitions := [⟨"smsc-1", "mtn", true, none⟩, ⟨"smsc-2", "airtel", true, none⟩]
  bindStates := [⟨"smsc-1", if smscId.isSome then "down" else "bound"⟩, ⟨"smsc-2", "bound"⟩]
  routingRules := [⟨
    { id := "route-1", name := "all", priority := 1, enabled := true, routeType := .static
      strategy := .priority, matchPrefix := none, countryCode := none, operator := none
      destinationPrefix := none, sender := none, cost := none, targetSmscId := "smsc-1"
      fallbackSmscId := some "smsc-2", targets := [], window := none, action := .route
      overrideSender := none, overrideRecipient := none, overrideText := none
      dropReason := none }, .deployed⟩]
  customerRoutes := [⟨"acme", routeId, smscId, true⟩]

theorem fallbackTables_keyed (routeId smscId : Option String) :
    Keyed (fallbackTables routeId smscId) := by
  constructor <;> simp [fallbackTables]

/-- A message of `acme`. -/
def acmeMessage : SendRouteContext := ⟨"256772000001", none, none, some "acme", 0, ⟨4, 1, 0⟩⟩

/-- A customer that is bound to the route. -/
theorem boundRoute_agrees :
    (RoutedPermitted .ascii (fallbackTables (some "route-1") none) "acme" acmeMessage ↔
      PicksBound .ascii (fallbackTables (some "route-1") none) "acme" acmeMessage) ∧
    (RetriesPermitted .ascii (fallbackTables (some "route-1") none) "acme" ↔
      TargetsBound (fallbackTables (some "route-1") none) "acme") :=
  have h := routing_agrees_iff .ascii (fallbackTables_keyed (some "route-1") none)
    (show "acme" ≠ "" by decide)
  ⟨h.1 acmeMessage rfl, h.2⟩

/-- A customer bound to `mtn` is routed to the fallback and refused there, and a customer bound to
the route is refused on the bind its retry chooses. -/
theorem routing_disagrees :
    (¬ ∀ tables customerId ctx, Keyed tables → truthy ctx.customerId = some customerId →
      RoutedPermitted .ascii tables customerId ctx) ∧
    ¬ ∀ tables customerId, Keyed tables → RetriesPermitted .ascii tables customerId := by
  constructor
  · intro hall
    obtain ⟨checked, h⟩ := hall (fallbackTables none (some "smsc-1")) "acme" acmeMessage
      (fallbackTables_keyed _ _) rfl 0 "airtel" (by decide +kernel)
    have hrefused : (assertRoutePermitted (fallbackTables none (some "smsc-1")) "acme"
        (some "airtel") (resolveInClient .ascii (fallbackTables none (some "smsc-1"))
          (atRotation acmeMessage 0)).result.routeId).isOk = false := by decide +kernel
    rw [h] at hrefused
    cases hrefused
  · intro hall
    obtain ⟨checked, h⟩ := hall (fallbackTables (some "route-1") none) "acme"
      (fallbackTables_keyed _ _) ⟨"256772000001", none, some "acme", ["airtel"]⟩ ⟨30, true⟩
      (fun _ => some 0) ⟨4, 1, 0⟩ false "mtn" rfl (by decide +kernel)
    have hrefused : (assertRoutePermitted (fallbackTables (some "route-1") none) "acme"
        (some "mtn") none).isOk = false := by decide +kernel
    rw [h] at hrefused
    cases hrefused

end Jkannel.Messaging
