import Jkannel.Messaging.Admission

/-!
# Which binds carry new traffic

Suspending a bind, or disabling it, is meant to stop what goes out over it.  The routing engine
leaves such a bind out altogether, so a message that is routed or rerouted never gets one.  A bind
the caller pins is another matter: it is looked up among all the tenant's definitions, whatever
their state.

`submitted_bind_live_iff` is the exact condition: a submitted row names a live bind unless the
caller pinned one that is not live and the routing engine had nothing to put in its place.
-/

namespace Jkannel.Messaging.Send

open Jkannel.Routing
open Jkannel.Engine
open Transition (Ack)

variable {env : SendEnv} {faults : Faults} {actor : Actor} {req : SendRequest} {digits : String}

/-- The caller pins no bind but a live one, or lets a pinned bind be replaced and the routing engine
has another. -/
def PinsLive (env : SendEnv) (req : SendRequest) (tables : RoutingTables) (digits : String)
    (rotation : Nat) : Prop :=
  ∀ requested, req.requestedSmscId = some requested →
    Live tables requested ∨
      (req.rerouteIfUnavailable = true ∧
        ((resolveRoute env req tables digits rotation).result.smscId).isSome = true)

variable {tables : RoutingTables} {rotation : Nat} {chosen : ChosenBind}

/-- The three ways a bind is chosen: pinned, rerouted, and routed. -/
theorem chooseBind_cases (h : chooseBind env req tables digits rotation = .ok chosen) :
    (∃ requested, req.requestedSmscId = some requested ∧ chosen = pinnedBind req requested ∧
      requested ∈ tenantSmscScope tables ∧
      (wantsReroute req tables requested = true →
        (resolveRoute env req tables digits rotation).result.smscId = none)) ∨
    (∃ requested, req.requestedSmscId = some requested ∧
      wantsReroute req tables requested = true ∧
      (resolveRoute env req tables digits rotation).result.smscId = some chosen.smscId ∧
      chosen.effect = (resolveRoute env req tables digits rotation).result.effect) ∨
    (req.requestedSmscId = none ∧
      (resolveRoute env req tables digits rotation).result.smscId = some chosen.smscId ∧
      chosen.effect = (resolveRoute env req tables digits rotation).result.effect) := by
  rw [chooseBind] at h
  -- nothing depends on how the routing engine decides
  generalize resolveRoute env req tables digits rotation = decision at h ⊢
  cases hrequested : req.requestedSmscId with
  | none =>
    rw [hrequested] at h
    cases hrouted : decision.result.smscId with
    | none => simp only [hrouted] at h; cases h
    | some smscId =>
      simp only [hrouted] at h
      cases h
      exact .inr (.inr ⟨rfl, rfl, rfl⟩)
  | some requested =>
    rw [hrequested] at h
    by_cases hscope : (tenantSmscScope tables).contains requested = true
    · simp only [hscope, Bool.not_true, Bool.false_eq_true, if_false] at h
      have hmem := List.contains_iff_mem.mp hscope
      by_cases hreroute : wantsReroute req tables requested = true
      · rw [if_pos hreroute] at h
        cases hrouted : decision.result.smscId with
        | none =>
          simp only [hrouted] at h
          exact .inl ⟨requested, rfl, (Except.ok.inj h).symm, hmem, fun _ => rfl⟩
        | some smscId =>
          simp only [hrouted] at h
          cases h
          exact .inr (.inl ⟨requested, rfl, hreroute, rfl, rfl⟩)
      · rw [if_neg hreroute] at h
        exact .inl ⟨requested, rfl, (Except.ok.inj h).symm, hmem, fun hyes => absurd hyes hreroute⟩
    · simp only [Bool.not_eq_true] at hscope
      simp only [hscope, Bool.not_false, if_true] at h
      cases h

/-- A bind that is not live is not available, so a caller who allows it is rerouted. -/
theorem wantsReroute_of_not_live {requested : String} (hdead : ¬ Live tables requested)
    (hreroute : req.rerouteIfUnavailable = true) : wantsReroute req tables requested = true := by
  rw [wantsReroute, hreroute, Bool.true_and, Bool.not_eq_true']
  by_contra havailable
  rw [Bool.not_eq_false, List.contains_iff_mem] at havailable
  exact hdead (availability_live havailable)

/-- What the routing engine picks is live. -/
theorem resolveRoute_live {smscId : String}
    (h : (resolveRoute env req tables digits rotation).result.smscId = some smscId) :
    Live tables smscId := by
  rw [resolveRoute] at h
  exact resolveInClient_live h

/-- The bind that is chosen is live exactly when the caller pins no other. -/
theorem chooseBind_live_iff (h : chooseBind env req tables digits rotation = .ok chosen) :
    Live tables chosen.smscId ↔ PinsLive env req tables digits rotation := by
  rcases chooseBind_cases h with ⟨requested, hrequested, rfl, -, hstay⟩ |
    ⟨requested, hrequested, hreroute, hrouted, -⟩ | ⟨hrequested, hrouted, -⟩
  · -- pinned: the choice is live when the pinned bind is
    constructor
    · intro hlive other hother
      rw [hrequested] at hother
      exact .inl (Option.some.inj hother ▸ hlive)
    · intro hpins
      rcases hpins requested hrequested with hlive | ⟨hreroute, hsome⟩
      · exact hlive
      · by_contra hdead
        rw [hstay (wantsReroute_of_not_live hdead hreroute)] at hsome
        cases hsome
  · -- rerouted: what the routing engine picks is live
    refine iff_of_true (resolveRoute_live hrouted) fun other _ => .inr ⟨?_, ?_⟩
    · rw [wantsReroute, Bool.and_eq_true] at hreroute
      exact hreroute.1
    · rw [hrouted]
      rfl
  · -- routed: nothing is pinned
    refine iff_of_true (resolveRoute_live hrouted) fun other hother => ?_
    rw [hrequested] at hother
    cases hother

variable {ack : Ack} {sys : Sys} {row : SendSmsRow}

/-- **Exactly when a submitted row names a live bind.**  Whatever the send path (a pinned bind, a
routed or rerouted message, a campaign, a retry, a release), the row's bind is enabled and not
suspended if and only if the caller pinned a live bind or none, or allowed a reroute that found
one. -/
theorem submitted_bind_live_iff (h : Submits env faults actor req ack sys row) :
    (∃ smscId, row.smscId = some smscId ∧ Live sys.db.routing smscId) ↔
      PinsLive env req sys.db.routing (canonicalReceiver env.countryCode req.receiver)
        (nextRotation sys.rotation) := by
  obtain ⟨digits, a, hdigits, hpassed, rfl⟩ := send_submits h
  have hreceiver : canonicalReceiver env.countryCode req.receiver = digits := by
    rw [canonicalReceiver, hdigits, Option.getD_some]
  have hiff : Live sys.db.routing a.chosen.smscId ↔
      PinsLive env req sys.db.routing digits (nextRotation sys.rotation) :=
    chooseBind_live_iff hpassed.chosen
  rw [hreceiver, ← hiff]
  constructor
  · rintro ⟨smscId, hrow, hlive⟩
    exact Option.some.inj hrow ▸ hlive
  · intro hlive
    exact ⟨a.chosen.smscId, rfl, hlive⟩

/-- A message of the console pinned to `mtn`. -/
def pinnedRequest : SendRequest := .console "+256772000001" "hello" (some "mtn")

/-- The row it is submitted as. -/
def pinnedRow : SendSmsRow where
  sqlId := 1
  momt := some "MT"
  sender := some "INFO"
  receiver := some "+256772000001"
  msgdata := some "hello"
  time := some 3600
  smscId := some "mtn"
  dlrMask := some 31
  foreignId := none
  dlrUrl := none
  deferred := none
  validity := none
  priority := none

/-- A message pinned to a live bind is submitted over it, and then and only then is the bind one the
caller may pin. -/
theorem pinned_live_submitted :
    (∃ smscId, pinnedRow.smscId = some smscId ∧ Live (TenantDb.oneBind true none).routing smscId) ↔
      PinsLive .plain pinnedRequest (TenantDb.oneBind true none).routing
        (canonicalReceiver none "+256772000001") (nextRotation 0) :=
  submitted_bind_live_iff (show Submits .plain (fun _ => none) ⟨"1", "operator"⟩ pinnedRequest .ok
    (.fresh (.oneBind true none)) pinnedRow by decide +kernel)

/-- Traffic over the pinned bind is suspended, and a message goes out over it. -/
theorem suspended_bind_carries_traffic :
    ¬ ∀ (env : SendEnv) (faults : Faults) (actor : Actor) (req : SendRequest) (ack : Ack) (sys : Sys)
        (row : SendSmsRow), Submits env faults actor req ack sys row →
      ∃ smscId, row.smscId = some smscId ∧ Live sys.db.routing smscId := by
  intro hall
  obtain ⟨smscId, hrow, hlive⟩ := hall .plain (fun _ => none) ⟨"1", "operator"⟩ pinnedRequest .ok
    (.fresh (.oneBind true (some 0))) pinnedRow (by decide +kernel)
  obtain rfl := Option.some.inj hrow
  revert hlive
  decide

end Jkannel.Messaging.Send
