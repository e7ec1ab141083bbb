import Jkannel.Messaging.Admission

/-!
# What a failed send leaves behind

The tenant's side of a send is one transaction, so a send that fails leaves the accounts as they
were and no decision but that of its refusal (`send_tenant_side`).  The engine's side is one insert
into another database, which no rollback undoes.  It is followed by the decision's reference, the
audit row, the stamp on the dedupe key and the caller's own part, and a failure of any of these
fails the send with its row in the spool.

* `Atomic` is that a send which fails leaves nothing on either side.
* `Completes` is that nothing which follows the insert fails.

A send is atomic exactly when an insert that takes effect is acknowledged and followed by nothing
that fails (`send_atomic_iff`).
-/

namespace Jkannel.Messaging.Send

open Jkannel.Routing
open Jkannel.Engine
open Transition (Ack)
open Transaction (bind_eq_ok)

variable {env : SendEnv} {faults : Faults} {actor : Actor} {req : SendRequest} {ack : Ack}
  {sys : Sys} {digits : String}

/-- The decision is one for a message that goes out. -/
def DecisionOutcome.Sent : DecisionOutcome → Prop
  | .routed | .explicit | .rerouted => True
  | .rejected | .dropped => False

/-- What a failed send leaves of the tenant's side: the accounts (quotas, balances, ledger) are
untouched, and no decision was added for a message that goes out. -/
structure TenantSide (db db' : TenantDb) : Prop where
  accounts : db'.accounts = db.accounts
  decisions : ∀ row ∈ db'.decisions, row.record.outcome.Sent → row ∈ db.decisions

/-- A send that fails leaves nothing behind. -/
def Atomic (env : SendEnv) (faults : Faults) (actor : Actor) (req : SendRequest) (ack : Ack)
    (sys : Sys) : Prop :=
  ∀ e, (send env faults actor req ack sys).1 = .error e →
    (send env faults actor req ack sys).2.spool = sys.spool ∧
      TenantSide sys.db (send env faults actor req ack sys).2.db

/-! ## The tenant's side -/

theorem TenantSide.refl (db : TenantDb) : TenantSide db db := ⟨rfl, fun _ hrow _ => hrow⟩

theorem releaseKey_side (failure : Failure) (db : TenantDb) :
    TenantSide db (releaseKey env faults failure db) := by
  rw [releaseKey]
  split
  · split
    · exact ⟨rfl, fun _ hrow _ => hrow⟩
    · exact .refl db
  · exact .refl db

theorem rejectionRecord_not_sent (failure : Failure) :
    ¬ (rejectionRecord failure).outcome.Sent := by
  have houtcome : (rejectionRecord failure).outcome =
      if failure.progress.forensic.outcome = .dropped then .dropped else .rejected := by
    rw [rejectionRecord]
  rw [houtcome]
  split <;> exact id

theorem recordRejection_side (failure : Failure) (db : TenantDb) :
    TenantSide db (recordRejection faults actor failure db) := by
  rw [recordRejection, insertDecision]
  split
  · split
    swap
    · exact .refl db
    refine ⟨rfl, fun row hrow hsent => ?_⟩
    rcases List.mem_append.mp hrow with hold | hnew
    · exact hold
    · obtain rfl := List.mem_singleton.mp hnew
      exact absurd hsent (rejectionRecord_not_sent failure)
  · exact .refl db

theorem settleFilter_side (progress : Progress) (sys : Sys) :
    TenantSide sys.db (settleFilter env faults progress sys).db := by
  rw [settleFilter]
  split
  · split
    · exact ⟨rfl, fun _ hrow _ => hrow⟩
    · exact .refl sys.db
  · exact .refl sys.db

theorem TenantSide.trans {db₁ db₂ db₃ : TenantDb} (h₁ : TenantSide db₁ db₂)
    (h₂ : TenantSide db₂ db₃) : TenantSide db₁ db₃ :=
  ⟨h₂.accounts.trans h₁.accounts,
    fun row hrow hsent => h₁.decisions row (h₂.decisions row hrow hsent) hsent⟩

/-- **A send that fails leaves no trace in the accounts**, and no decision but that of its
refusal. -/
theorem send_tenant_side {e : SendError} (h : (send env faults actor req ack sys).1 = .error e) :
    TenantSide sys.db (send env faults actor req ack sys).2.db := by
  cases hdigits : (normalizeMsisdn env.countryCode req.receiver).digits with
  | none =>
    rw [send_of_no_digits hdigits]
    exact .refl sys.db
  | some digits =>
    rw [send, hdigits] at h ⊢
    dsimp only at h ⊢
    split at h
    · cases h
    · next failure hfailed =>
      have hrolledBack := Transaction.transact_error hfailed
      rw [hrolledBack]
      have hcleanup : TenantSide sys.db
          (recordRejection faults actor failure (releaseKey env faults failure sys.db)) :=
        (releaseKey_side failure sys.db).trans (recordRejection_side failure _)
      exact hcleanup.trans (settleFilter_side failure.progress ⟨_, _, _, _⟩)

/-! ## The engine's side -/

/-- The stage the caller's part is run in. -/
def beforeOnSubmitted (env : SendEnv) (faults : Faults) (a : Admitted) (sqlId : Nat) : Stage :=
  stamp env faults sqlId ((a.stage.write (setMessageRef a.decisionId sqlId)).write
    (insertAudit sqlId))

/-- Nothing that follows the insert of `sqlId` fails: not the reference, not the audit row, and not
the caller's part, which a stamp that failed leaves an aborted transaction to. -/
def Completes (env : SendEnv) (faults : Faults) (req : SendRequest) (a : Admitted) (sqlId : Nat) :
    Prop :=
  faults .messageRef = none ∧ faults .audit = none ∧
    ∃ st, runOnSubmitted req sqlId a.decisionId (beforeOnSubmitted env faults a sqlId) = .ok st

variable {a : Admitted} {queued : SqlboxQueued} {e164 : Option String}

theorem finish_ok_iff (haborted : a.stage.client.aborted = false) :
    (∃ r, finish env faults req a queued a.stage = .ok r) ↔
      Completes env faults req a queued.sqlId := by
  constructor
  · rintro ⟨r, h⟩
    obtain ⟨u, href, h⟩ := bind_eq_ok h
    obtain ⟨u, haudit, h⟩ := bind_eq_ok h
    obtain ⟨st, hrun, -⟩ := bind_eq_ok h
    exact ⟨(Stage.statement_ok href).2, (Stage.statement_ok haudit).2, st, hrun⟩
  · rintro ⟨href, haudit, st, hrun⟩
    have href' : a.stage.statement faults .messageRef = .ok () :=
      Stage.statement_of_clean haborted href
    have haudit' : (a.stage.write (setMessageRef a.decisionId queued.sqlId)).statement faults
        .audit = .ok () := Stage.statement_of_clean haborted haudit
    rw [beforeOnSubmitted] at hrun
    refine ⟨(sendResult env req a queued, st), ?_⟩
    simp only [finish, href', haudit', hrun, bind, Except.bind, pure, Except.pure]

/-- The message an admitted send hands to the engine. -/
def Admitted.submission (a : Admitted) (env : SendEnv) (req : SendRequest) (digits : String) :
    SqlboxSubmission :=
  Send.submission env req digits (normalizeMsisdn env.countryCode req.receiver).e164 a.chosen
    a.message

/-- A row that is inserted is reported back unless the acknowledgement is lost. -/
theorem submitAdmitted_ok_iff {spool : Spool}
    (h : Inserts ack (Send.submission env req digits e164 a.chosen a.message)) :
    (∃ queued, (submitAdmitted env req ack digits e164 a spool).1 = .ok queued) ↔ ack = .ok := by
  obtain ⟨⟨priority, hpriority⟩, -⟩ := h
  rw [submitAdmitted, submit, hpriority]
  cases ack <;> simp

theorem submitAdmitted_sqlId {spool : Spool}
    (h : (submitAdmitted env req ack digits e164 a spool).1 = .ok queued) :
    queued.sqlId = spool.nextSqlId := by
  rw [submitAdmitted, submit] at h
  cases hpriority : parseMessagePriority
      (Send.submission env req digits e164 a.chosen a.message).priority with
  | error e =>
    rw [hpriority] at h
    cases e <;> cases h
  | ok priority =>
    rw [hpriority] at h
    cases ack with
    | ok => exact (Except.ok.inj h) ▸ rfl
    | lost error => cases h
    | refused error => cases h

/-- The transaction of a send that is admitted and inserts goes through exactly when the insert is
acknowledged and nothing after it fails. -/
theorem transaction_clean_iff (haborted : a.stage.client.aborted = false)
    (hinserts : Inserts ack (a.submission env req digits)) :
    (transaction env faults actor req ack sys digits).Clean a a.stage.client sys.spool ↔
      ack = .ok ∧ Completes env faults req a sys.spool.nextSqlId := by
  constructor
  · rintro ⟨queued, heffect, r, hafter⟩
    refine ⟨(submitAdmitted_ok_iff hinserts).mp ⟨queued, heffect⟩, ?_⟩
    rw [← submitAdmitted_sqlId heffect, ← finish_ok_iff haborted]
    obtain ⟨finished, hfinish, -⟩ := bind_eq_ok hafter
    exact ⟨finished, hfinish⟩
  · rintro ⟨hack, hcompletes⟩
    obtain ⟨queued, heffect⟩ := (submitAdmitted_ok_iff hinserts).mpr hack
    rw [← submitAdmitted_sqlId heffect, ← finish_ok_iff haborted] at hcompletes
    obtain ⟨finished, hfinish⟩ := hcompletes
    refine ⟨queued, heffect, ((finished.1, finished.2.progress), finished.2.client), ?_⟩
    simp only [transaction, script, hfinish, bind, Except.bind, pure, Except.pure]

/-- A send fails when its transaction does. -/
theorem send_error_iff (hdigits : (normalizeMsisdn env.countryCode req.receiver).digits = some digits) :
    (∃ e, (send env faults actor req ack sys).1 = .error e) ↔
      ∃ failure, (Transaction.transact (transaction env faults actor req ack sys digits).body sys.db
        sys.spool).1 = .error failure := by
  rw [send, hdigits, transaction]
  dsimp only
  split
  · next hok => rw [hok]; simp
  · next failure hfailed => exact iff_of_true ⟨_, rfl⟩ ⟨failure, hfailed⟩

/-- **When a send is atomic.**  It is, exactly if a message that is admitted and inserted into the
spool is acknowledged by the engine's database and nothing that follows the insert fails. -/
theorem send_atomic_iff :
    Atomic env faults actor req ack sys ↔
      ∀ digits a, (normalizeMsisdn env.countryCode req.receiver).digits = some digits →
        admitMessage env faults actor req digits (initialStage req sys digits) = .ok a →
        Inserts ack (a.submission env req digits) →
        ack = .ok ∧ Completes env faults req a sys.spool.nextSqlId := by
  cases hdigits : (normalizeMsisdn env.countryCode req.receiver).digits with
  | none =>
    refine iff_of_true (fun e herror => ⟨?_, send_tenant_side herror⟩)
      fun digits a hsome => nomatch hsome
    rw [send_of_no_digits hdigits]
  | some digits =>
    have hspool : Atomic env faults actor req ack sys ↔
        ∀ failure, (Transaction.transact (transaction env faults actor req ack sys digits).body
          sys.db sys.spool).1 = .error failure →
        (Transaction.transact (transaction env faults actor req ack sys digits).body sys.db
          sys.spool).2.2 = sys.spool := by
      rw [← send_spool hdigits]
      constructor
      · intro hatomic failure hfailed
        obtain ⟨e, herror⟩ := (send_error_iff hdigits).mpr ⟨failure, hfailed⟩
        exact (hatomic e herror).1
      · intro hspool e herror
        obtain ⟨failure, hfailed⟩ := (send_error_iff hdigits).mp ⟨e, herror⟩
        exact ⟨hspool failure hfailed, send_tenant_side herror⟩
    rw [hspool, Transaction.Script.atomic_iff]
    constructor
    · intro hall digits' a hsome hadmitted hinserts
      obtain rfl := Option.some.inj hsome
      have hchanges : (submitAdmitted env req ack digits
          (normalizeMsisdn env.countryCode req.receiver).e164 a sys.spool).2 ≠ sys.spool := by
        rw [submitAdmitted_spool]
        exact submit_changes_iff.mpr hinserts
      exact (transaction_clean_iff (admitMessage_passed hadmitted).not_aborted hinserts).mp
        (hall a a.stage.client (transaction_before_of_admitted hadmitted) hchanges)
    · intro hall a c hbefore hchanges
      obtain ⟨hadmitted, rfl⟩ := transaction_before hbefore
      have hinserts : Inserts ack (a.submission env req digits) := by
        rw [transaction, script, submitAdmitted_spool] at hchanges
        exact submit_changes_iff.mp hchanges
      exact (transaction_clean_iff (admitMessage_passed hadmitted).not_aborted hinserts).mpr
        (hall digits a rfl hadmitted hinserts)

/-- The audit row of a send that is otherwise in order cannot be written. -/
def auditFails : Faults := fun step => if step = .audit then some "disk full" else none

/-- The send fails, and its row stays in the spool. -/
theorem failed_send_stays_spooled :
    ¬ ∀ (env : SendEnv) (faults : Faults) (actor : Actor) (req : SendRequest) (ack : Ack)
        (sys : Sys), Atomic env faults actor req ack sys := by
  intro hall
  have hatomic := hall .plain auditFails ⟨"1", "operator"⟩
    (.console "+256772000001" "hello" (some "mtn")) .ok (.fresh (.oneBind true none))
  have hfails : (send .plain auditFails ⟨"1", "operator"⟩
      (.console "+256772000001" "hello" (some "mtn")) .ok (.fresh (.oneBind true none))).1 =
      .error (.other "disk full") := by rfl
  have hspool := congrArg (fun spool => spool.rows.length) (hatomic _ hfails).1
  revert hspool
  decide +kernel

end Jkannel.Messaging.Send
