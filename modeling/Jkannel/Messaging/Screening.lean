import Jkannel.Messaging.BindChoice

/-!
# Whether what is spooled has been screened

The blocklist and the content filter are shown the request.  Between them and the engine a routing
rule can write its own sender, recipient or body over it, and nothing looks at the message again:
of the checks, only the approval of the sender comes after the rule.

* `Screened` says of a submitted row that the checks allow what is written in it.
* `RewriteScreened` says it of what the controlling rule writes.

The two are the same (`submitted_screened_iff`), so a send that is controlled by no rule, or by one
without overrides, only spools what has been screened, and a rule may put a do-not-disturb number on
the wire.
-/

namespace Jkannel.Messaging.Send

open Jkannel.Routing
open Jkannel.Engine
open Transition (Ack)

variable {env : SendEnv} {faults : Faults} {actor : Actor} {req : SendRequest} {ack : Ack}
  {sys : Sys} {digits : String}

/-- The blocklist allows a destination to the customer of the request. -/
def BlocklistAllows (env : SendEnv) (sys : Sys) (req : SendRequest) (receiver : String) : Prop :=
  (evaluateInClient sys.db.blocklist (canonicalReceiver env.countryCode receiver) req.customerId
    env.nowMs).allowed = true

/-- The content filter allows a sender, a recipient and a body on a bind. -/
def FilterAllows (env : SendEnv) (sys : Sys) (req : SendRequest) (message : OutboundMessage)
    (smscId : Option String) : Prop :=
  (evaluateContent env.text env.regex (rulesInForce env sys.db.contentRules sys.ruleCache).rules
    { sender := message.sender.getD ""
      recipient := canonicalReceiver env.countryCode message.recipient
      body := message.text
      smscId := smscId
      customerId := req.customerId }).allowed = true

/-- The message a row carries. -/
def wireMessage (row : SendSmsRow) : OutboundMessage :=
  ⟨row.sender, row.receiver.getD "", row.msgdata.getD ""⟩

/-- What a row carries is allowed. -/
def Screened (env : SendEnv) (sys : Sys) (req : SendRequest) (row : SendSmsRow) : Prop :=
  BlocklistAllows env sys req (wireMessage row).recipient ∧
    FilterAllows env sys req (wireMessage row) row.smscId

/-- What a rule writes over a message to `digits` is allowed: it writes no recipient or one the
blocklist allows, and nothing at all or what the content filter allows on the bind. -/
def RewriteScreened (env : SendEnv) (sys : Sys) (req : SendRequest) (digits : String)
    (rule : RouteRuleEffect) (smscId : String) : Prop :=
  (∀ recipient, clean rule.overrideRecipient = some recipient →
      BlocklistAllows env sys req recipient) ∧
    (rule.NoOverride ∨
      FilterAllows env sys req (rule.rewrite (originalMessage req digits)) (some smscId))

/-- The receiver on the wire stands for the recipient of the message. -/
theorem canonicalReceiver_wire (hdigits : Canonical digits) (message : OutboundMessage) :
    canonicalReceiver env.countryCode (wireReceiver digits (some ("+" ++ digits)) message) =
      canonicalReceiver env.countryCode message.recipient := by
  rw [wireReceiver]
  by_cases hsame : message.recipient = digits
  · rw [if_pos hsame, Option.getD_some, hsame, canonicalReceiver_e164 _ hdigits,
      canonicalReceiver_canonical _ hdigits]
  · rw [if_neg hsame]

theorem rewrite_recipient (rule : RouteRuleEffect) :
    (rule.rewrite (originalMessage req digits)).recipient =
      (clean rule.overrideRecipient).getD digits := rfl

/-- A message that has passed the blocklist as it was requested has passed it rewritten if and only
if the recipient written over it has. -/
theorem blocklist_rewrite (hdigits : Canonical digits) (rule : RouteRuleEffect)
    (hallowed : (evaluateInClient sys.db.blocklist digits req.customerId env.nowMs).allowed = true) :
    BlocklistAllows env sys req (rule.rewrite (originalMessage req digits)).recipient ↔
      ∀ recipient, clean rule.overrideRecipient = some recipient →
        BlocklistAllows env sys req recipient := by
  rw [rewrite_recipient]
  cases hoverride : clean rule.overrideRecipient with
  | none =>
    rw [Option.getD_none, BlocklistAllows, canonicalReceiver_canonical _ hdigits]
    exact iff_of_true hallowed fun recipient hsome => nomatch hsome
  | some recipient =>
    rw [Option.getD_some]
    constructor
    · intro hallows other hother
      exact Option.some.inj hother ▸ hallows
    · intro hall
      exact hall recipient rfl

/-- The content filter has seen a message nothing was written over. -/
theorem filter_rewrite (hdigits : Canonical digits) (rule : RouteRuleEffect) (smscId : String)
    (hfiltered : (evaluateContent env.text env.regex
      (rulesInForce env sys.db.contentRules sys.ruleCache).rules
      { filterContext req digits with smscId := some smscId }).allowed = true) :
    FilterAllows env sys req (rule.rewrite (originalMessage req digits)) (some smscId) ↔
      rule.NoOverride ∨
        FilterAllows env sys req (rule.rewrite (originalMessage req digits)) (some smscId) := by
  refine ⟨.inr, fun h => h.elim (fun hnone => ?_) id⟩
  rw [hnone.rewrite, FilterAllows, originalMessage]
  dsimp only
  rw [canonicalReceiver_canonical _ hdigits]
  exact hfiltered

/-- What the wire carries of a submission is the message, up to how the receiver is written. -/
theorem screened_submission (hdigits : Canonical digits) (sqlId : Nat) (time : Int)
    (chosen : ChosenBind) (message : OutboundMessage) :
    Screened env sys req
        (rowOf sqlId time (submission env req digits (some ("+" ++ digits)) chosen message)) ↔
      BlocklistAllows env sys req message.recipient ∧
        FilterAllows env sys req message (some chosen.smscId) := by
  have hwire : canonicalReceiver env.countryCode
      (wireReceiver digits (some ("+" ++ digits)) message) =
      canonicalReceiver env.countryCode message.recipient := canonicalReceiver_wire hdigits message
  have hblock : BlocklistAllows env sys req (wireReceiver digits (some ("+" ++ digits)) message) ↔
      BlocklistAllows env sys req message.recipient := by
    rw [BlocklistAllows, hwire, BlocklistAllows]
  have hfilter : FilterAllows env sys req
      ⟨some (message.sender.getD ""), wireReceiver digits (some ("+" ++ digits)) message,
        message.text⟩ (some chosen.smscId) ↔
      FilterAllows env sys req message (some chosen.smscId) := by
    rw [FilterAllows, hwire, FilterAllows]
    rfl
  exact and_congr hblock hfilter

variable {row : SendSmsRow}

/-- **Exactly when what is spooled has been screened.**  A submitted row carries a receiver the
blocklist allows and a message the content filter allows on its bind if and only if that holds of
what the controlling rule, if any, wrote over the request. -/
theorem submitted_screened_iff (h : Submits env faults actor req ack sys row) :
    Screened env sys req row ↔
      ∀ chosen, chooseBind env req sys.db.routing (canonicalReceiver env.countryCode req.receiver)
          (nextRotation sys.rotation) = .ok chosen →
        RewriteScreened env sys req (canonicalReceiver env.countryCode req.receiver)
          (chosen.effect.getD .none) chosen.smscId := by
  obtain ⟨digits, a, hdigits, hpassed, rfl⟩ := send_submits h
  have hcanonical := (normalizeMsisdn_canonical hdigits).1
  have hreceiver : canonicalReceiver env.countryCode req.receiver = digits := by
    rw [canonicalReceiver, hdigits, Option.getD_some]
  have hchosen : chooseBind env req sys.db.routing digits (nextRotation sys.rotation) =
    .ok a.chosen := hpassed.chosen
  have hiff : Screened env sys req (rowOf sys.spool.nextSqlId (env.nowMs / 1000)
        (submission env req digits (some ("+" ++ digits)) a.chosen a.message)) ↔
      RewriteScreened env sys req digits (a.chosen.effect.getD .none) a.chosen.smscId := by
    rw [screened_submission hcanonical, hpassed.rewritten]
    exact and_congr (blocklist_rewrite hcanonical _ hpassed.allowed)
      (filter_rewrite hcanonical _ _ hpassed.filtered)
  rw [hreceiver, hiff]
  constructor
  · intro hscreened chosen hother
    rw [hchosen] at hother
    exact Except.ok.inj hother ▸ hscreened
  · intro hall
    exact hall a.chosen hchosen

/-- A deployed catch-all route over `mtn`, sending everything to `overrideRecipient` if there is
one, and a do-not-disturb entry on 256700000009. -/
def TenantDb.redirected (overrideRecipient : Option String) : TenantDb :=
  { TenantDb.oneBind true none with
    routing :=
      { smscDefinitions := [⟨"smsc-1", "mtn", true, none⟩]
        bindStates := []
        routingRules := [⟨
          { id := "route-1", name := "all", priority := 1, enabled := true, routeType := .static
            strategy := .priority, matchPrefix := none, countryCode := none, operator := none
            destinationPrefix := none, sender := none, cost := none, targetSmscId := "smsc-1"
            fallbackSmscId := none, targets := [], window := none, action := .route
            overrideSender := none, overrideRecipient := overrideRecipient
            overrideText := none, dropReason := none }, .deployed⟩]
        customerRoutes := [] }
    blocklist := [⟨none, .dnd, "256700000009", none, true, none⟩] }

/-- A message of the console that is left to the routing engine. -/
def routedRequest : SendRequest := .console "+256772000001" "hello" none

/-- The row it is submitted as, to a receiver. -/
def routedRow (receiver : String) : SendSmsRow where
  sqlId := 1
  momt := some "MT"
  sender := some "INFO"
  receiver := some receiver
  msgdata := some "hello"
  time := some 3600
  smscId := some "mtn"
  dlrMask := some 31
  foreignId := none
  dlrUrl := none
  deferred := none
  validity := none
  priority := none

/-- A route without overrides: the row is submitted, and screened as its rule is. -/
theorem routed_screened :
    Screened .plain (.fresh (.redirected none)) routedRequest (routedRow "+256772000001") ↔
      ∀ chosen, chooseBind .plain routedRequest (TenantDb.redirected none).routing
          (canonicalReceiver none "+256772000001") (nextRotation 0) = .ok chosen →
        RewriteScreened .plain (.fresh (.redirected none)) routedRequest
          (canonicalReceiver none "+256772000001") (chosen.effect.getD .none) chosen.smscId :=
  submitted_screened_iff (show Submits .plain (fun _ => none) ⟨"1", "operator"⟩ routedRequest .ok
    (.fresh (.redirected none)) (routedRow "+256772000001") by decide +kernel)

/-- A route that redirects everything to a number registered do-not-disturb puts it on the wire. -/
theorem redirect_reaches_dnd :
    ¬ ∀ (env : SendEnv) (faults : Faults) (actor : Actor) (req : SendRequest) (ack : Ack) (sys : Sys)
        (row : SendSmsRow), Submits env faults actor req ack sys row →
      Screened env sys req row := by
  intro hall
  obtain ⟨hblock, -⟩ := hall .plain (fun _ => none) ⟨"1", "operator"⟩ routedRequest .ok
    (.fresh (.redirected (some "256700000009"))) (routedRow "256700000009") (by decide +kernel)
  revert hblock
  rw [BlocklistAllows]
  decide +kernel

end Jkannel.Messaging.Send
