import Jkannel.Platform.TenantTransaction
import Jkannel.Backups.Records
import Jkannel.Monitoring.Escalation

/-!
# What becomes of a statement whose error is swallowed

Two callers of `tenantTransaction` go on after a statement of theirs has failed: `failBackup`, when
it cannot open its alert, and the escalation tick, when it cannot mirror a delivery.  By then the
transaction is aborted.

* `failBackup` returns, and the `COMMIT` that follows is a rollback: nobody is told, and the record
  stays `running`.  `failBackup_run` says what it comes to.
* The tick has another statement to issue, which fails, and the tick with it
  (`brittle_runForTenant`).

A transaction is all or nothing exactly when its work does not return with an aborted transaction,
and its `COMMIT` is not lost (`atomic_iff`).
-/

namespace Jkannel.Platform

open Transaction Backups Monitoring

section FailBackup

variable (now : Nat) (actor : String) (id : Nat) (detail : String) (t : Catalog)

/-- The row that `failBackup` returns. -/
def failedRow : Option BackupRecord := (t.find id).map (·.fail now detail)

/-- The catalog with the record marked, and no alert. -/
def markedFailed : Catalog :=
  { t.set id (·.fail now detail) with
    auditLog := t.auditLog ++
      [⟨actor, "backup.failed", "backup", id, some [("detail", .text detail)]⟩] }

/-- The catalog after a backup has failed. -/
def alertedFailed : Catalog :=
  { markedFailed now actor id detail t with
    alerts := insertAlert now (failedAlert (failedRow now id detail t) id detail).toNew t.alerts }

variable {now actor id detail t} {ω : Type} {conn : Connection String} {o : ω}

/-- With the first two statements through, `failBackup` returns, whatever becomes of the third. -/
theorem failBackup_run (hupdate : conn.statement 0 = none) (haudit : conn.statement 1 = none) :
    worked conn (failBackup now actor id detail) t o =
      ⟨.ok (failedRow now id detail t),
        if conn.statement 2 = none then ⟨alertedFailed now actor id detail t, false⟩
        else ⟨markedFailed now actor id detail t, true⟩, o, 3⟩ := by
  cases halert : conn.statement 2 <;>
    simp [failBackup, audit, raiseAlert, Work.statement, Work.attempt, Work.bind, Work.run,
      Faults.refusal, Client.begin, hupdate, haudit, halert, updateBackup, insertAudit,
      insertBackupAlert, failedRow, markedFailed, alertedFailed, Catalog.set]

/-- **`failBackup` with its alert refused**: it resolves, and has done nothing. -/
theorem tenantTransaction_failBackup (hopened : conn.Opened) (hupdate : conn.statement 0 = none)
    (haudit : conn.statement 1 = none) (hcommit : conn.commit = .ok) :
    tenantTransaction conn (failBackup now actor id detail) t o =
      (.ok (failedRow now id detail t),
        if conn.statement 2 = none then alertedFailed now actor id detail t else t, o) := by
  have hrun : worked conn (failBackup now actor id detail) t o = _ := failBackup_run hupdate haudit
  have hresult : (worked conn (failBackup now actor id detail) t o).result =
      .ok (failedRow now id detail t) := by rw [hrun]
  rw [tenantTransaction_returns hopened hresult, hcommit, hrun]
  by_cases halert : conn.statement 2 = none
  · simp only [halert, if_true, Client.commit, Bool.false_eq_true, if_false]
  · simp only [halert, if_false, Client.commit, if_true]

end FailBackup

/-- **When a tenant transaction has committed what it did**: exactly when its work, if it returns
having changed something, meets a `COMMIT` that is answered and has left no statement failed, or a
`COMMIT` that is not answered and has left one, or one that is refused.  A `failBackup` whose alert
is refused is on the wrong side of it, while an escalation tick that meets a failed statement
rejects, and has committed nothing. -/
theorem resolved_means_committed {σ ω ε α : Type} (conn : Connection ε) (work : Work σ ω ε α)
    (s : σ) (o : ω) :
    (Atomic conn work s o ↔ Kept conn work s o) ∧
    (∀ {ω : Type} (conn : Connection String) (now : Nat) (actor : String) (id : Nat)
      (detail : String) (t : Catalog) (o : ω), conn.Opened → conn.statement 0 = none →
      conn.statement 1 = none → conn.commit = .ok →
      tenantTransaction conn (failBackup now actor id detail) t o =
        (.ok (failedRow now id detail t),
          if conn.statement 2 = none then alertedFailed now actor id detail t else t, o)) ∧
    ∀ (conn : Connection String) (now : Nat) (t : Tables) (o : Outside),
      (worked conn (runForTenant now) t o).client.aborted = true →
      ∃ e, (tenantTransaction conn (runForTenant now) t o).1 = .error e ∧
        (tenantTransaction conn (runForTenant now) t o).2.1 = t :=
  ⟨atomic_iff, fun _ _ _ _ _ _ _ hopened hupdate haudit hcommit =>
      tenantTransaction_failBackup hopened hupdate haudit hcommit,
    fun _ now _ _ haborted => undone_of_brittle (brittle_runForTenant now) haborted⟩

/-- A backup that is running. -/
def nightly : BackupRecord :=
  NewBackup.row ⟨"nightly", .full, .full, .daily, "/backups/nightly.dump.enc", none, none⟩
    "scheduler" 0 1000

def nightlyCatalog : Catalog := ⟨[nightly], [], [], 1⟩

/-- A connection that refuses its third statement. -/
def thirdRefused : Connection String where
  statement := fun n => if n = 2 then some "permission denied for table alert_instances" else none
  aborted := "current transaction is aborted, commands ignored until end of transaction block"
  free := true
  connect := none
  start := none
  setConfig := none
  commit := .ok
  rollback := none

theorem resolved_means_committed_nightly :
    (∃ row, (tenantTransaction thirdRefused (failBackup 2000 "scheduler" 0 "pg_dump exited 1")
        nightlyCatalog ()).1 = .ok (some row) ∧ row.status = .failed) ∧
      (tenantTransaction thirdRefused (failBackup 2000 "scheduler" 0 "pg_dump exited 1")
        nightlyCatalog ()).2.1 = nightlyCatalog := by
  have h := (resolved_means_committed thirdRefused (failBackup 2000 "scheduler" 0 "pg_dump exited 1")
    nightlyCatalog ()).2.1 thirdRefused 2000 "scheduler" 0 "pg_dump exited 1" nightlyCatalog ()
      ⟨rfl, rfl, rfl⟩ rfl rfl rfl
  rw [h]
  exact ⟨⟨_, rfl, rfl⟩, rfl⟩

/-- A transaction that resolves with a failed record, and leaves the record running. -/
theorem resolved_and_rolled_back :
    (∃ row, (tenantTransaction thirdRefused (failBackup 2000 "scheduler" 0 "pg_dump exited 1")
        nightlyCatalog ()).1 = .ok (some row) ∧ row.status = .failed) ∧
      ((tenantTransaction thirdRefused (failBackup 2000 "scheduler" 0 "pg_dump exited 1")
        nightlyCatalog ()).2.1.find 0).map BackupRecord.status = some .running ∧
      ¬ Atomic thirdRefused (failBackup 2000 "scheduler" 0 "pg_dump exited 1") nightlyCatalog
        () := by
  refine ⟨⟨_, rfl, rfl⟩, rfl, fun h => ?_⟩
  have hkept := h.resolved _ rfl
  revert hkept
  decide

end Jkannel.Platform
