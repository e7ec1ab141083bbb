import Jkannel.Messaging.Send

/-!
# What an admitted message has passed

`Passed` collects every check a message has gone through by the time it is handed to the engine,
each with the very values the check was made on.  `admitMessage_passed` reads them off
`admitMessage`, one lemma a step; what a step leaves alone is `Frame`.

A row that a send adds to the spool is then the submission of an admitted message
(`send_submits`), and everything else that can be said of the row follows from `Passed`.
-/

namespace Jkannel.Messaging.Send

open Jkannel.Routing
open Jkannel.Engine
open Transition (Ack)
open Transaction (Client bind_eq_ok)

variable {env : SendEnv} {faults : Faults} {actor : Actor} {req : SendRequest} {digits : String}

/-! ## Single steps -/

variable {st st' : Stage} {set : CompiledRuleSet} {chosen : ChosenBind} {a : Admitted}
  {message : OutboundMessage}

theorem Stage.statement_ok {step : SendStep} {u : Unit} (h : st.statement faults step = .ok u) :
    st.client.aborted = false ∧ faults step = none := by
  rw [Stage.statement] at h
  split at h
  · cases h
  · next haborted =>
    split at h
    · cases h
    · next hfault => exact ⟨by simpa using haborted, hfault⟩

theorem Stage.statement_of_clean {step : SendStep} (haborted : st.client.aborted = false)
    (hfault : faults step = none) : st.statement faults step = .ok () := by
  rw [Stage.statement, haborted, hfault]
  rfl

theorem Stage.lift_ok {α : Type} {x : Except SendError α} {a : α} (h : st.lift x = .ok a) :
    x = .ok a := by
  cases x with
  | ok b => exact congrArg Except.ok (Except.ok.inj h)
  | error e => cases h

/-- Two stages agree on everything the checks after duplicate control read. -/
structure Frame (st st' : Stage) : Prop where
  routing : st'.client.store.routing = st.client.store.routing
  accounts : st'.client.store.accounts = st.client.store.accounts
  blocklist : st'.client.store.blocklist = st.client.store.blocklist
  contentRules : st'.client.store.contentRules = st.client.store.contentRules
  rotation : st'.progress.rotation = st.progress.rotation
  ruleCache : st'.progress.ruleCache = st.progress.ruleCache

theorem Frame.refl (st : Stage) : Frame st st := ⟨rfl, rfl, rfl, rfl, rfl, rfl⟩

theorem windowForInClient_frame (st : Stage) : Frame st (windowForInClient faults st).2 := by
  rw [windowForInClient]
  split <;> exact ⟨rfl, rfl, rfl, rfl, rfl, rfl⟩

theorem claimWindow_frame {window : Int}
    (h : claimWindow env faults actor req digits window st = .ok st') : Frame st st' := by
  obtain ⟨u, -, h⟩ := bind_eq_ok h
  obtain ⟨keys, -, h⟩ := bind_eq_ok h
  cases h
  exact ⟨rfl, rfl, rfl, rfl, rfl, rfl⟩

theorem claimDuplicate_frame (h : claimDuplicate env faults actor req digits st = .ok st') :
    Frame st st' := by
  rw [claimDuplicate] at h
  split at h
  · have hread : Frame st (windowForInClient faults st).2 := windowForInClient_frame st
    split at h
    · have hclaim := claimWindow_frame h
      exact ⟨hclaim.routing.trans hread.routing, hclaim.accounts.trans hread.accounts,
        hclaim.blocklist.trans hread.blocklist, hclaim.contentRules.trans hread.contentRules,
        hclaim.rotation.trans hread.rotation, hclaim.ruleCache.trans hread.ruleCache⟩
    · exact Except.ok.inj h ▸ hread
  · exact Except.ok.inj h ▸ Frame.refl st

theorem assertAllowedInClient_ok {u : Unit}
    (h : assertAllowedInClient env faults req digits st = .ok u) :
    (evaluateInClient st.client.store.blocklist digits req.customerId env.nowMs).allowed = true := by
  obtain ⟨u, -, h⟩ := bind_eq_ok h
  by_contra hrefused
  rw [if_neg hrefused] at h
  cases h

theorem loadInClient_ok (h : loadInClient env faults st = .ok (set, st')) :
    set = rulesInForce env st.client.store.contentRules st.progress.ruleCache ∧
      st'.client = st.client ∧ st'.progress.rotation = st.progress.rotation := by
  rw [loadInClient] at h
  split at h
  · obtain ⟨u, -, h⟩ := bind_eq_ok h
    obtain ⟨rfl, rfl⟩ := Prod.mk.inj (Except.ok.inj h)
    exact ⟨rfl, rfl, rfl⟩
  · obtain ⟨rfl, rfl⟩ := Prod.mk.inj (Except.ok.inj h)
    exact ⟨rfl, rfl, rfl⟩

theorem filterContent_ok {smscId : Option String}
    (h : filterContent env req set digits smscId st = .ok st') :
    (evaluateContent env.text env.regex set.rules
        { filterContext req digits with smscId := smscId }).allowed = true ∧
      st'.client = st.client ∧ st'.progress.rotation = st.progress.rotation := by
  rw [filterContent] at h
  split at h
  · next hallowed =>
    cases h
    exact ⟨hallowed, rfl, rfl⟩
  · cases h

theorem chooseBindInClient_ok
    (h : chooseBindInClient env faults req digits st = .ok (chosen, st')) :
    chooseBind env req st.client.store.routing digits (nextRotation st.progress.rotation) =
      .ok chosen ∧ st'.client = st.client := by
  obtain ⟨u, -, h⟩ := bind_eq_ok h
  obtain ⟨bind, hbind, h⟩ := bind_eq_ok h
  obtain ⟨rfl, rfl⟩ := Prod.mk.inj (Except.ok.inj h)
  refine ⟨Stage.lift_ok hbind, ?_⟩
  by_cases hconsults : consultsRouting req st.client.store.routing = true
  · rw [if_pos hconsults]
    rfl
  · rw [if_neg hconsults]
    rfl

theorem applyEffect_ok (h : applyEffect req chosen digits st = .ok (message, st')) :
    (chosen.effect.getD .none).action = .route ∧
      message = (chosen.effect.getD .none).rewrite (originalMessage req digits) ∧
      st'.client = st.client := by
  rw [applyEffect] at h
  split at h
  · cases h
  · next hsend =>
    obtain ⟨rfl, rfl⟩ := Prod.mk.inj (Except.ok.inj h)
    obtain ⟨haction, hmessage⟩ := applyRouteRule_send hsend
    refine ⟨haction, hmessage, ?_⟩
    split <;> rfl

theorem consumeEntitlements_ok {outcome : EntitlementOutcome}
    (h : consumeEntitlements env faults req chosen message st = .ok (outcome, st')) :
    ∃ accounts, consumeInClient env.messageDefaultCost st.client.store.routing
      st.client.store.accounts env.today (entitlementCheck req chosen message) =
        .ok (outcome, accounts) := by
  have hpaid : ∃ x : EntitlementOutcome × Accounts, st.lift (consumeInClient env.messageDefaultCost
      st.client.store.routing st.client.store.accounts env.today
        (entitlementCheck req chosen message)) = .ok x ∧ x.1 = outcome := by
    rw [consumeEntitlements] at h
    split at h
    · obtain ⟨u, -, h⟩ := bind_eq_ok h
      obtain ⟨x, hconsume, h⟩ := bind_eq_ok h
      exact ⟨x, hconsume, (Prod.mk.inj (Except.ok.inj h)).1⟩
    · obtain ⟨x, hconsume, h⟩ := bind_eq_ok h
      exact ⟨x, hconsume, (Prod.mk.inj (Except.ok.inj h)).1⟩
  obtain ⟨⟨_, accounts⟩, hconsume, rfl⟩ := hpaid
  exact ⟨accounts, Stage.lift_ok hconsume⟩

/-! ## All of them -/

/-- Everything a message that was admitted from the stage `st` has passed. -/
structure Passed (env : SendEnv) (req : SendRequest) (digits : String) (st : Stage) (a : Admitted) :
    Prop where
  /-- No statement has failed. -/
  not_aborted : a.stage.client.aborted = false
  /-- The blocklist was asked about the destination of the request. -/
  allowed : (evaluateInClient st.client.store.blocklist digits req.customerId env.nowMs).allowed =
    true
  /-- The content filter was shown the request, and allows it on the bind that was chosen. -/
  filtered : (evaluateContent env.text env.regex
    (rulesInForce env st.client.store.contentRules st.progress.ruleCache).rules
    { filterContext req digits with smscId := some a.chosen.smscId }).allowed = true
  chosen : chooseBind env req st.client.store.routing digits (nextRotation st.progress.rotation) =
    .ok a.chosen
  not_dropped : (a.chosen.effect.getD .none).action = .route
  /-- The message is the request, rewritten by the rule. -/
  rewritten : a.message = (a.chosen.effect.getD .none).rewrite (originalMessage req digits)
  /-- The customer was checked with the rewritten message. -/
  entitled : ∃ accounts, consumeInClient env.messageDefaultCost st.client.store.routing
    st.client.store.accounts env.today (entitlementCheck req a.chosen a.message) =
      .ok (a.outcome, accounts)

/-- Either half of the content filter allows the request on the bind that is chosen. -/
theorem filter_ok {smscId : String} {st₁ st₂ st₃ st₄ : Stage}
    (hbefore : filterBeforeRouting env req set digits st₁ = .ok st₂)
    (hafter : filterAfterRouting env req set digits smscId st₃ = .ok st₄) :
    (evaluateContent env.text env.regex set.rules
      { filterContext req digits with smscId := some smscId }).allowed = true := by
  rw [filterBeforeRouting] at hbefore
  rw [filterAfterRouting] at hafter
  by_cases hscoped : set.hasSmscScopedRules = true
  · rw [if_pos hscoped] at hafter
    exact (filterContent_ok hafter).1
  · rw [if_neg hscoped] at hbefore
    have hscoped : set.hasSmscScopedRules = false := by simpa using hscoped
    rw [evaluateContent_smscId hscoped, ← evaluateContent_smscId hscoped _ none]
    exact (filterContent_ok hbefore).1

theorem filterBeforeRouting_client (h : filterBeforeRouting env req set digits st = .ok st') :
    st'.client = st.client ∧ st'.progress.rotation = st.progress.rotation := by
  rw [filterBeforeRouting] at h
  split at h
  · cases h
    exact ⟨rfl, rfl⟩
  · exact (filterContent_ok h).2

theorem filterAfterRouting_client {smscId : String}
    (h : filterAfterRouting env req set digits smscId st = .ok st') : st'.client = st.client := by
  rw [filterAfterRouting] at h
  split at h
  · exact (filterContent_ok h).2.1
  · rw [Except.ok.inj h]

/-- **An admitted message has passed every check.** -/
theorem admitMessage_passed (h : admitMessage env faults actor req digits st = .ok a) :
    Passed env req digits st a := by
  obtain ⟨u, -, h⟩ := bind_eq_ok h
  obtain ⟨st₁, hclaim, h⟩ := bind_eq_ok h
  obtain ⟨u, hblock, h⟩ := bind_eq_ok h
  obtain ⟨⟨set, st₂⟩, hload, h⟩ := bind_eq_ok h
  obtain ⟨st₃, hfirst, h⟩ := bind_eq_ok h
  obtain ⟨⟨chosen, st₄⟩, hbind, h⟩ := bind_eq_ok h
  obtain ⟨⟨message, st₅⟩, heffect, h⟩ := bind_eq_ok h
  obtain ⟨st₆, hsecond, h⟩ := bind_eq_ok h
  obtain ⟨⟨outcome, st₇⟩, hconsume, h⟩ := bind_eq_ok h
  obtain ⟨u, hdecision, h⟩ := bind_eq_ok h
  obtain ⟨db, -, hadmitted⟩ := bind_eq_ok h
  have hframe := claimDuplicate_frame hclaim
  obtain ⟨rfl, hclient₂, hrotation₂⟩ := loadInClient_ok hload
  obtain ⟨hclient₃, hrotation₃⟩ := filterBeforeRouting_client hfirst
  have hfiltered := filter_ok hfirst hsecond
  have hallowed := assertAllowedInClient_ok hblock
  obtain ⟨hchosen, hclient₄⟩ := chooseBindInClient_ok hbind
  obtain ⟨haction, hmessage, hclient₅⟩ := applyEffect_ok heffect
  have hentitled := consumeEntitlements_ok hconsume
  rw [hframe.contentRules, hframe.ruleCache] at hfiltered
  rw [hframe.blocklist] at hallowed
  rw [hclient₃, hrotation₃, hclient₂, hrotation₂, hframe.routing, hframe.rotation] at hchosen
  rw [filterAfterRouting_client hsecond, hclient₅, hclient₄, hclient₃, hclient₂, hframe.routing,
    hframe.accounts] at hentitled
  cases hadmitted
  exact ⟨(Stage.statement_ok hdecision).1, hallowed, hfiltered, hchosen, haction, hmessage,
    hentitled⟩

/-! ## What a send leaves of the spool -/

variable {ack : Ack} {sys : Sys}

/-- Where a send begins. -/
def initialStage (req : SendRequest) (sys : Sys) (digits : String) : Stage :=
  ⟨.begin sys.db, initialProgress req sys digits⟩

/-- The transaction of a send. -/
def transaction (env : SendEnv) (faults : Faults) (actor : Actor) (req : SendRequest) (ack : Ack)
    (sys : Sys) (digits : String) :
    Transaction.Script TenantDb Spool Failure (SendResult × Progress) Admitted SqlboxQueued :=
  script env faults actor req ack (initialProgress req sys digits) digits
    (normalizeMsisdn env.countryCode req.receiver).e164

theorem settleFilter_spool (progress : Progress) (sys : Sys) :
    (settleFilter env faults progress sys).spool = sys.spool := by
  rw [settleFilter]
  split
  · split <;> rfl
  · rfl

/-- The spool after a send is the one its transaction leaves. -/
theorem send_spool (hdigits : (normalizeMsisdn env.countryCode req.receiver).digits = some digits) :
    (send env faults actor req ack sys).2.spool =
      (Transaction.transact (transaction env faults actor req ack sys digits).body sys.db
        sys.spool).2.2 := by
  rw [send, hdigits, transaction]
  dsimp only
  split <;> exact settleFilter_spool _ _

theorem send_of_no_digits (h : (normalizeMsisdn env.countryCode req.receiver).digits = none) :
    send env faults actor req ack sys =
      (.error (.http 400 (describeMsisdnProblem (normalizeMsisdn env.countryCode req.receiver))),
        sys) := by
  rw [send, h]

/-- The transaction comes to the engine with an admitted message. -/
theorem transaction_before {c : Client TenantDb}
    (h : (transaction env faults actor req ack sys digits).before (.begin sys.db) = .ok (a, c)) :
    admitMessage env faults actor req digits (initialStage req sys digits) = .ok a ∧
      c = a.stage.client := by
  obtain ⟨a', hadmitted, h⟩ := bind_eq_ok h
  obtain ⟨rfl, rfl⟩ := Prod.mk.inj (Except.ok.inj h)
  exact ⟨hadmitted, rfl⟩

theorem transaction_before_of_admitted
    (h : admitMessage env faults actor req digits (initialStage req sys digits) = .ok a) :
    (transaction env faults actor req ack sys digits).before (.begin sys.db) =
      .ok (a, a.stage.client) := by
  rw [initialStage] at h
  simp only [transaction, script, h]
  rfl

/-- What a submission leaves of the spool does not depend on how its error is reported. -/
theorem submitAdmitted_spool {e164 : Option String} {spool : Spool} :
    (submitAdmitted env req ack digits e164 a spool).2 =
      (submit ack (env.nowMs / 1000) (submission env req digits e164 a.chosen a.message) spool).2 := by
  rw [submitAdmitted]
  split <;> next heq => rw [heq]

/-- A row is submitted to the engine by a send. -/
def Submits (env : SendEnv) (faults : Faults) (actor : Actor) (req : SendRequest) (ack : Ack)
    (sys : Sys) (row : SendSmsRow) : Prop :=
  row ∈ (send env faults actor req ack sys).2.spool.rows ∧ row ∉ sys.spool.rows

instance (row : SendSmsRow) : Decidable (Submits env faults actor req ack sys row) :=
  inferInstanceAs (Decidable (_ ∧ _))

/-- **A row a send submits is the submission of a message that has passed every check.** -/
theorem send_submits {row : SendSmsRow} (h : Submits env faults actor req ack sys row) :
    ∃ digits a, (normalizeMsisdn env.countryCode req.receiver).digits = some digits ∧
      Passed env req digits (initialStage req sys digits) a ∧
      row = rowOf sys.spool.nextSqlId (env.nowMs / 1000)
        (submission env req digits (some ("+" ++ digits)) a.chosen a.message) := by
  obtain ⟨hnew, hold⟩ := h
  cases hdigits : (normalizeMsisdn env.countryCode req.receiver).digits with
  | none =>
    rw [send_of_no_digits hdigits] at hnew
    exact absurd hnew hold
  | some digits =>
    rw [send_spool hdigits] at hnew
    rcases hbefore : (transaction env faults actor req ack sys digits).before (.begin sys.db) with
      e | ⟨a, c⟩
    · rw [Transaction.Script.transact_of_before_error hbefore] at hnew
      exact absurd hnew hold
    · rw [Transaction.Script.transact_outside hbefore] at hnew
      have hadmitted := (transaction_before hbefore).1
      refine ⟨digits, a, rfl, admitMessage_passed hadmitted, ?_⟩
      rw [← (normalizeMsisdn_canonical hdigits).2]
      exact submit_new_row (submitAdmitted_spool ▸ hnew) hold

end Jkannel.Messaging.Send
