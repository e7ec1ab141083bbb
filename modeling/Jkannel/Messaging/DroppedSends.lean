import Jkannel.Messaging.Atomicity
import Jkannel.Routing.SelectionSpec

/-!
# Sends that a rule drops

A routing rule may drop a message instead of routing it.  The drop takes place when the bind has
been chosen, and its record is written after the transaction has been rolled back, as that of any
refusal is; but the CHECK of the decisions' table does not know its outcome.

* `beforeRouting` is what comes before the routing decision, and `Controls` says which route is in
  control of a message.
* `fromRouting_of_drop`: under a rule that drops, no message gets past the routing decision, and it
  is noted as dropped if some bind that the routes offer is available.
* `drop_never_recorded`: so it leaves nothing in the spool or the accounts; and the decision that is
  recorded is never that of a drop.  Where the rule has dropped the message, there is none at all.
-/

namespace Jkannel.Messaging.Send

open Jkannel.Routing
open Jkannel.Engine
open Transition (Ack)
open Transaction (bind_eq_ok)

variable {env : SendEnv} {faults : Faults} {actor : Actor} {req : SendRequest} {ack : Ack}
  {sys : Sys} {digits : String}

/-! ## Before the routing decision -/

/-- Everything before the routing decision. -/
def beforeRouting (env : SendEnv) (faults : Faults) (actor : Actor) (req : SendRequest)
    (digits : String) (st : Stage) : Except Failure (CompiledRuleSet × Stage) := do
  limitRate env faults actor req st
  let st ← claimDuplicate env faults actor req digits st
  assertAllowedInClient env faults req digits st
  let (set, st) ← loadInClient env faults st
  let st ← filterBeforeRouting env req set digits st
  return (set, st)

/-- The routing decision and what comes after it. -/
def fromRouting (env : SendEnv) (faults : Faults) (actor : Actor) (req : SendRequest)
    (digits : String) (set : CompiledRuleSet) (st : Stage) : Except Failure Admitted := do
  let (chosen, st) ← chooseBindInClient env faults req digits st
  let (message, st) ← applyEffect req chosen digits st
  let st ← filterAfterRouting env req set digits chosen.smscId st
  let (outcome, st) ← consumeEntitlements env faults req chosen message st
  st.statement faults .decision
  let db ← st.lift (insertDecision actor st.progress.forensic.unreferenced st.client.store)
  return { stage := st.write fun _ => db
           chosen := chosen
           message := message
           outcome := outcome
           decisionId := st.client.store.decisions.length }

theorem admitMessage_eq (st : Stage) : admitMessage env faults actor req digits st =
    beforeRouting env faults actor req digits st >>= fun x =>
      fromRouting env faults actor req digits x.1 x.2 := by
  simp only [admitMessage, beforeRouting, fromRouting, bind_assoc, pure_bind]

/-! ## The routing decision

The statements from the choice of the bind to the INSERT of the decision. -/

/-- What the routing engine is told of the message. -/
def routeContext (env : SendEnv) (req : SendRequest) (digits : String) (rotation : Nat) :
    SendRouteContext where
  msisdn := digits
  sender := req.sender
  operator := req.operator
  customerId := req.customerId
  rotation := rotation
  now := env.localTime

/-- The routes the message is routed over. -/
def routesOf (env : SendEnv) (req : SendRequest) (tables : RoutingTables) : List CandidateRoute :=
  candidatesFor env.text tables req.customerId

/-- What the selector is told of the message. -/
def selectionOf (env : SendEnv) (req : SendRequest) (tables : RoutingTables) (digits : String)
    (rotation : Nat) : SelectionContext :=
  selectionContext tables (routeContext env req digits rotation)

/-- The route in control of the message: the first of those that match. -/
def Controls (env : SendEnv) (req : SendRequest) (tables : RoutingTables) (digits : String)
    (rotation : Nat) (controlling : CandidateRoute) : Prop :=
  ∃ specificity rest, matchedRoutes env.text (routesOf env req tables)
    (selectionOf env req tables digits rotation) = (controlling, specificity) :: rest

/-- Some bind that the routes offer is available. -/
def SomeBindAvailable (env : SendEnv) (req : SendRequest) (tables : RoutingTables)
    (digits : String) (rotation : Nat) (controlling : CandidateRoute) : Prop :=
  ∃ smscId cost, Offers env.text (routesOf env req tables)
      (selectionOf env req tables digits rotation) controlling smscId cost ∧
    isAvailable smscId (selectionOf env req tables digits rotation) = true

theorem digitsOnly_of_canonical (h : Canonical digits) : digitsOnly (some digits) ≠ "" := by
  obtain ⟨c, hc⟩ := List.exists_mem_of_ne_nil _ h.ne_nil
  exact digitsOnly_ne hc (h.all_digits c hc)

variable {tables : RoutingTables} {rotation : Nat} {controlling : CandidateRoute}
  {set : CompiledRuleSet} {chosen : ChosenBind}

/-- The engine's answer is the selector's, but for its reason. -/
theorem resolveRoute_result :
    (resolveRoute env req tables digits rotation).result.smscId =
        (selection env.text tables (routeContext env req digits rotation)).smscId ∧
      (resolveRoute env req tables digits rotation).result.routeName =
        (selection env.text tables (routeContext env req digits rotation)).routeName ∧
      (resolveRoute env req tables digits rotation).result.effect =
        (selection env.text tables (routeContext env req digits rotation)).effect := by
  rw [resolveRoute, ← routeContext, resolveInClient]
  exact ⟨rfl, rfl, rfl⟩

/-- The selection under a controlling route. -/
theorem selection_of_controls (hdigits : digitsOnly (some digits) ≠ "")
    (hcontrols : Controls env req tables digits rotation controlling) :
    ∃ trace, selection env.text tables (routeContext env req digits rotation) =
      Routing.finish trace controlling (chooseSmsc env.text
        (matchedRoutes env.text (routesOf env req tables)
          (selectionOf env req tables digits rotation))
        controlling (selectionOf env req tables digits rotation)) := by
  obtain ⟨specificity, rest, hmatched⟩ := hcontrols
  rw [hmatched]
  exact selectRoute_of_matched hdigits hmatched

/-- Under a controlling route there is a bind exactly when one that is offered is available, and
the rule is the route's. -/
theorem resolveRoute_of_controls (hdigits : digitsOnly (some digits) ≠ "")
    (hcontrols : Controls env req tables digits rotation controlling) :
    ((resolveRoute env req tables digits rotation).result.smscId ≠ none ↔
        SomeBindAvailable env req tables digits rotation controlling) ∧
      (resolveRoute env req tables digits rotation).result.routeName = some controlling.name ∧
      (resolveRoute env req tables digits rotation).result.effect = some (effectOf controlling) := by
  obtain ⟨trace, hselection⟩ := selection_of_controls hdigits hcontrols
  obtain ⟨hsmsc, hname, heffect⟩ :=
    @resolveRoute_result env req digits tables rotation
  refine ⟨?_, ?_, ?_⟩
  · rw [hsmsc, hselection, finish_smscId, Ne, Option.map_eq_none_iff, chooseSmsc_eq_none,
      reachable_pool_eq_nil, SomeBindAvailable]
    simp
  · rw [hname, hselection]
    rfl
  · rw [heffect, hselection]
    rfl

/-! ## Choosing a bind for a message that is dropped -/

/-- A message whose bind nobody pins gets the bind that was resolved, with the rule of its route. -/
theorem chooseBind_of_controls (hpin : req.requestedSmscId = none)
    (hdigits : digitsOnly (some digits) ≠ "")
    (hcontrols : Controls env req tables digits rotation controlling) :
    (¬ SomeBindAvailable env req tables digits rotation controlling ∧
        ∃ e, chooseBind env req tables digits rotation = .error e) ∨
      SomeBindAvailable env req tables digits rotation controlling ∧
        ∃ chosen, chooseBind env req tables digits rotation = .ok chosen ∧
          chosen.effect = some (effectOf controlling) ∧
          chosen.record.routeName = some controlling.name := by
  obtain ⟨hsome, hname, heffect⟩ := resolveRoute_of_controls hdigits hcontrols
  rw [chooseBind, hpin]
  cases hsmsc : (resolveRoute env req tables digits rotation).result.smscId with
  | none =>
    rw [hsmsc] at hsome
    exact .inl ⟨fun h => hsome.mpr h rfl, _, rfl⟩
  | some smscId =>
    rw [hsmsc] at hsome
    exact .inr ⟨hsome.mp (Option.some_ne_none smscId), _, rfl, heffect, hname⟩

/-- A bind chosen under a rule that drops is the end of the message: it is refused, and noted as
dropped. -/
theorem applyEffect_drop {st : Stage}
    (heffect : chosen.effect = some (effectOf controlling)) (haction : controlling.action = .drop) :
    ∃ failure, applyEffect req chosen digits st = .error failure ∧
      failure.progress.forensic.outcome = .dropped := by
  have hdrop : (effectOf controlling).action = .drop := haction
  rw [applyEffect, heffect, Option.getD_some, applyRouteRule, hdrop]
  exact ⟨_, rfl, rfl⟩

theorem chooseBindInClient_of_chosen {st : Stage}
    (hst : st.statement faults .bind = .ok ())
    (hchoose : chooseBind env req st.client.store.routing digits
      (nextRotation st.progress.rotation) = .ok chosen) :
    ∃ st', chooseBindInClient env faults req digits st = .ok (chosen, st') := by
  rw [chooseBindInClient, hst]
  simp only [hchoose]
  exact ⟨_, rfl⟩

/-- **No message gets past the routing decision** under a rule that drops, and if some bind is
available and can be looked for, it is noted as dropped. -/
theorem fromRouting_of_drop (hpin : req.requestedSmscId = none)
    (hdigits : digitsOnly (some digits) ≠ "") (haction : controlling.action = .drop)
    {st : Stage}
    (hcontrols : Controls env req st.client.store.routing digits (nextRotation st.progress.rotation)
      controlling) :
    ∃ failure, fromRouting env faults actor req digits set st = .error failure ∧
      (st.statement faults .bind = .ok () → SomeBindAvailable env req st.client.store.routing digits
        (nextRotation st.progress.rotation) controlling →
          failure.progress.forensic.outcome = .dropped) := by
  rw [fromRouting]
  cases hst : st.statement faults .bind with
  | error failure =>
    rw [chooseBindInClient, hst]
    exact ⟨failure, rfl, fun h => by cases h⟩
  | ok u =>
    rcases chooseBind_of_controls hpin hdigits hcontrols with
      ⟨hnone, e, hchoose⟩ | ⟨-, chosen, hchoose, heffect, -⟩
    · rw [chooseBindInClient, hst]
      simp only [hchoose]
      exact ⟨_, rfl, fun _ hsome => absurd hsome hnone⟩
    · obtain ⟨st', hbind⟩ := chooseBindInClient_of_chosen hst hchoose
      rw [hbind]
      obtain ⟨failure, hfailure, hdropped⟩ :=
        @applyEffect_drop req digits controlling chosen st' heffect haction
      refine ⟨failure, ?_, fun _ _ => hdropped⟩
      show applyEffect req chosen digits st' >>= _ = _
      rw [hfailure]
      rfl

/-! ## The whole send

The checks before the routing decision leave alone what the choice of a route depends on. -/

/-- What the checks before the routing decision leave of what it depends on. -/
theorem beforeRouting_frame {st st' : Stage}
    (h : beforeRouting env faults actor req digits st = .ok (set, st')) :
    st'.client.store.routing = st.client.store.routing ∧
      st'.progress.rotation = st.progress.rotation := by
  obtain ⟨u, -, h⟩ := bind_eq_ok h
  obtain ⟨st₁, hclaim, h⟩ := bind_eq_ok h
  obtain ⟨u, -, h⟩ := bind_eq_ok h
  obtain ⟨⟨set', st₂⟩, hload, h⟩ := bind_eq_ok h
  obtain ⟨st₃, hfirst, h⟩ := bind_eq_ok h
  obtain ⟨rfl, rfl⟩ := Prod.mk.inj (Except.ok.inj h)
  have hframe := claimDuplicate_frame hclaim
  obtain ⟨-, hclient₂, hrotation₂⟩ := loadInClient_ok hload
  obtain ⟨hclient₃, hrotation₃⟩ := filterBeforeRouting_client hfirst
  exact ⟨by rw [hclient₃, hclient₂, hframe.routing],
    by rw [hrotation₃, hrotation₂, hframe.rotation]⟩

/-- The send comes to its routing decision: no check before it refuses the message, and no
statement up to it fails. -/
def ReachesRouting (env : SendEnv) (faults : Faults) (actor : Actor) (req : SendRequest) (sys : Sys)
    (digits : String) : Prop :=
  ∃ set st, beforeRouting env faults actor req digits (initialStage req sys digits) =
    .ok (set, st) ∧ st.statement faults .bind = .ok ()

/-- A send under a rule that drops fails in its transaction, as dropped if it comes to the routing
decision and some bind is available. -/
theorem admitMessage_of_drop (hpin : req.requestedSmscId = none)
    (hdigits : digitsOnly (some digits) ≠ "") (haction : controlling.action = .drop)
    (hcontrols : Controls env req sys.db.routing digits (nextRotation sys.rotation) controlling) :
    ∃ failure, admitMessage env faults actor req digits (initialStage req sys digits) =
        .error failure ∧
      (ReachesRouting env faults actor req sys digits →
        SomeBindAvailable env req sys.db.routing digits (nextRotation sys.rotation) controlling →
          failure.progress.forensic.outcome = .dropped) := by
  rw [admitMessage_eq]
  cases hbefore : beforeRouting env faults actor req digits (initialStage req sys digits) with
  | error failure =>
    refine ⟨failure, rfl, fun ⟨set, st, hreached, _⟩ => ?_⟩
    rw [hbefore] at hreached
    cases hreached
  | ok x =>
    obtain ⟨set, st⟩ := x
    obtain ⟨hrouting, hrotation⟩ := beforeRouting_frame hbefore
    have hrouting' : st.client.store.routing = sys.db.routing := hrouting
    have hrotation' : st.progress.rotation = sys.rotation := hrotation
    rw [← hrouting', ← hrotation'] at hcontrols ⊢
    obtain ⟨failure, hfailure, hdropped⟩ := fromRouting_of_drop hpin hdigits haction hcontrols
    refine ⟨failure, hfailure, fun ⟨set', st', hreached, hst⟩ => hdropped ?_⟩
    obtain ⟨-, rfl⟩ := Prod.mk.inj (Except.ok.inj (hbefore.symm.trans hreached))
    exact hst

theorem releaseKey_frame (failure : Failure) (db : TenantDb) :
    (releaseKey env faults failure db).decisions = db.decisions ∧
      (releaseKey env faults failure db).accounts = db.accounts := by
  rw [releaseKey]
  split
  · split <;> exact ⟨rfl, rfl⟩
  · exact ⟨rfl, rfl⟩

theorem settleFilter_frame (progress : Progress) (sys : Sys) :
    (settleFilter env faults progress sys).db.decisions = sys.db.decisions ∧
      (settleFilter env faults progress sys).db.accounts = sys.db.accounts := by
  rw [settleFilter]
  split
  · split <;> exact ⟨rfl, rfl⟩
  · exact ⟨rfl, rfl⟩

/-- The record of a refusal touches no account, is none of a drop, and is not there if the refusal
was a drop. -/
theorem recordRejection_spec (failure : Failure) (db : TenantDb) :
    (recordRejection faults actor failure db).accounts = db.accounts ∧
      (∀ row, (recordRejection faults actor failure db).decisions = db.decisions ++ [row] →
        row.record.outcome ∈ CHECKED_OUTCOMES) ∧
      (failure.progress.forensic.outcome = .dropped →
        (recordRejection faults actor failure db).decisions = db.decisions) := by
  have hnone : ∀ row, db.decisions ≠ db.decisions ++ [row] := fun row h => by
    simpa using congrArg List.length h
  rw [recordRejection, insertDecision]
  split
  · split
    · next hchecked =>
      refine ⟨rfl, fun row hrow => ?_, fun hdropped => ?_⟩
      · obtain rfl := List.singleton_inj.mp (List.append_cancel_left hrow)
        exact hchecked
      · have houtcome : (rejectionRecord failure).outcome = .dropped := by
          rw [rejectionRecord]
          exact if_pos hdropped
        rw [houtcome] at hchecked
        exact absurd hchecked (by decide)
    · exact ⟨rfl, fun row hrow => absurd hrow (hnone row), fun _ => rfl⟩
  · exact ⟨rfl, fun row hrow => absurd hrow (hnone row), fun _ => rfl⟩

/-- What a send leaves that is refused before it comes to the engine. -/
theorem send_of_refused
    (hdigits : (normalizeMsisdn env.countryCode req.receiver).digits = some digits)
    {failure : Failure} (hfailure : admitMessage env faults actor req digits
      (initialStage req sys digits) = .error failure) :
    (send env faults actor req ack sys).2.spool = sys.spool ∧
      (send env faults actor req ack sys).2.db.accounts = sys.db.accounts ∧
      ∃ db, db.decisions = sys.db.decisions ∧ (send env faults actor req ack sys).2.db.decisions =
        (recordRejection faults actor failure db).decisions := by
  have hbefore : (transaction env faults actor req ack sys digits).before (.begin sys.db) =
      .error failure := by
    rw [initialStage] at hfailure
    simp only [transaction, script, hfailure]
    rfl
  have htransact := Transaction.Script.transact_of_before_error (o := sys.spool) hbefore
  rw [transaction] at htransact
  rw [send, hdigits]
  simp only [htransact]
  obtain ⟨hdecisions, haccounts⟩ := @settleFilter_frame env faults failure.progress
    ⟨recordRejection faults actor failure (releaseKey env faults failure sys.db), sys.spool,
      failure.progress.rotation, failure.progress.ruleCache⟩
  obtain ⟨hreleased, hreleased'⟩ := @releaseKey_frame env faults failure sys.db
  refine ⟨settleFilter_spool _ _, ?_, _, hreleased, hdecisions⟩
  rw [haccounts, (recordRejection_spec failure _).1, hreleased']

/-- The decision of a send, recorded as dropped by the rule of this name. -/
def RecordedAsDropped (db db' : TenantDb) (name : String) : Prop :=
  ∃ row, db'.decisions = db.decisions ++ [row] ∧ row.record.outcome = .dropped ∧
    row.record.droppedByRule = some name

/-- **A rule that drops lets nothing through, and no drop is ever recorded.**  Nothing is spooled and
nothing is consumed, but the decision is not recorded as dropped; and when the send comes to its
routing decision with a bind available, so that the rule does drop it, nothing is recorded. -/
theorem drop_never_recorded
    (hdigits : (normalizeMsisdn env.countryCode req.receiver).digits = some digits)
    (hpin : req.requestedSmscId = none)
    (hcontrols : Controls env req sys.db.routing digits (nextRotation sys.rotation) controlling)
    (haction : controlling.action = .drop) :
    ((send env faults actor req ack sys).2.spool = sys.spool ∧
        (send env faults actor req ack sys).2.db.accounts = sys.db.accounts) ∧
      ¬ RecordedAsDropped sys.db (send env faults actor req ack sys).2.db controlling.name ∧
      (ReachesRouting env faults actor req sys digits →
        SomeBindAvailable env req sys.db.routing digits (nextRotation sys.rotation) controlling →
          (send env faults actor req ack sys).2.db.decisions = sys.db.decisions) := by
  have hdialled := digitsOnly_of_canonical (normalizeMsisdn_canonical hdigits).1
  obtain ⟨failure, hfailure, hdropped⟩ := @admitMessage_of_drop env faults actor req sys digits
    controlling hpin hdialled haction hcontrols
  obtain ⟨hspool, haccounts, db, hdb, hdecisions⟩ := @send_of_refused env faults actor req ack sys
    digits hdigits failure hfailure
  obtain ⟨-, hchecked, hsilent⟩ := @recordRejection_spec faults actor failure db
  refine ⟨⟨hspool, haccounts⟩, ?_, fun hreaches hsome => ?_⟩
  · rintro ⟨row, hrow, houtcome, -⟩
    have hrow := hchecked row (hdecisions.symm.trans (hrow.trans (by rw [hdb])))
    rw [houtcome] at hrow
    exact absurd hrow (by decide)
  · rw [hdecisions, hsilent (hdropped hreaches hsome), hdb]

/-- A rule over one bind that drops every message. -/
def dropAll (bind : String) : CandidateRoute where
  id := "route-1"
  name := "nothing-out"
  priority := 1
  enabled := true
  routeType := .static
  strategy := .priority
  matchPrefix := none
  countryCode := none
  operator := none
  destinationPrefix := none
  sender := none
  cost := none
  targetSmscId := bind
  fallbackSmscId := none
  targets := []
  window := none
  action := .drop
  overrideSender := none
  overrideRecipient := none
  overrideText := none
  dropReason := some "Unknown network"

/-- A tenant with this rule, and its bind up. -/
def droppingDb : TenantDb :=
  { TenantDb.oneBind true none with
    routing := ⟨[⟨"smsc-1", "mtn", true, none⟩], [⟨"smsc-1", "bound"⟩],
      [⟨dropAll "smsc-1", .deployed⟩], []⟩ }

/-- A message of the console that pins no bind. -/
def unpinnedRequest : SendRequest := .console "+256772000001" "hello" none

theorem dropAll_controls :
    Controls .plain unpinnedRequest droppingDb.routing "256772000001" 1 (dropAll "mtn") :=
  ⟨_, _, rfl⟩

/-- The message is dropped, and nothing tells of it. -/
theorem drop_never_recorded_bound :
    ¬ RecordedAsDropped droppingDb (send .plain (fun _ => none) ⟨"1", "operator"⟩
        unpinnedRequest .ok (.fresh droppingDb)).2.db "nothing-out" ∧
      (send .plain (fun _ => none) ⟨"1", "operator"⟩ unpinnedRequest .ok
        (.fresh droppingDb)).2.db.decisions = [] := by
  obtain ⟨-, hnot, hsilent⟩ := @drop_never_recorded .plain (fun _ => none) ⟨"1", "operator"⟩
    unpinnedRequest .ok (.fresh droppingDb) "256772000001" (dropAll "mtn") (by decide +kernel) rfl
    dropAll_controls rfl
  exact ⟨hnot, hsilent ⟨_, _, rfl, rfl⟩ ⟨"mtn", none, ⟨rfl, .inl rfl⟩, by decide⟩⟩

/-- Of a message that a rule drops there is no record. -/
theorem drop_is_unrecorded :
    ¬ ∀ (env : SendEnv) (faults : Faults) (actor : Actor) (req : SendRequest) (ack : Ack) (sys : Sys)
        (digits : String) (controlling : CandidateRoute),
      (normalizeMsisdn env.countryCode req.receiver).digits = some digits →
      req.requestedSmscId = none →
      Controls env req sys.db.routing digits (nextRotation sys.rotation) controlling →
      controlling.action = .drop →
      RecordedAsDropped sys.db (send env faults actor req ack sys).2.db controlling.name := by
  intro hall
  obtain ⟨row, hrow, -⟩ := hall .plain (fun _ => none) ⟨"1", "operator"⟩ unpinnedRequest .ok
    (.fresh droppingDb) "256772000001" (dropAll "mtn") (by decide +kernel) rfl dropAll_controls rfl
  have hlength := congrArg List.length hrow
  revert hlength
  rw [List.length_append]
  have hnone : (send .plain (fun _ => none) ⟨"1", "operator"⟩ unpinnedRequest .ok
      (.fresh droppingDb)).2.db.decisions.length = 0 := by decide +kernel
  rw [hnone]
  exact fun h => absurd h.symm (Nat.succ_ne_zero _)

end Jkannel.Messaging.Send
