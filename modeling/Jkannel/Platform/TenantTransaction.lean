import Jkannel.Lib.Work

/-!
# Tenant transactions

`tenantTransaction` hands a work function an open transaction, commits when the work returns, and
rolls back when it throws.  A transaction in which a statement has failed cannot be committed, and
`COMMIT` says nothing about it: it rolls back.

* `Connection` is everything that goes wrong with one, at any of the positions it can.
* `Atomic` is what a transaction is for: when it resolves, everything its statements wrote is in the
  store, and when it rejects, nothing is.
* `Kept` is the condition, and `atomic_iff` says that it is exact.
-/

namespace Jkannel.Platform

open Transaction

/-- How a `COMMIT` ends. -/
inductive Commit (ε : Type) where
  | ok
  /-- The server has carried it out, and the client sees an error. -/
  | lost (e : ε)
  /-- The server has not. -/
  | refused (e : ε)

/-- What goes wrong with a connection. -/
structure Connection (ε : Type) extends Faults ε where
  /-- The error there is no connection with, if there is none. -/
  connect : Option ε
  /-- The error of `BEGIN`. -/
  start : Option ε
  /-- The error of `set_config`. -/
  setConfig : Option ε
  commit : Commit ε
  /-- The error of `ROLLBACK`, which takes the place of the one it answers. -/
  rollback : Option ε

variable {σ ω ε α : Type}

/-- The work gets as far as being called. -/
def Connection.Opened (conn : Connection ε) : Prop :=
  conn.connect = none ∧ conn.start = none ∧ conn.setConfig = none

/-- Run a work function in a transaction on `s`. -/
def tenantTransaction (conn : Connection ε) (work : Work σ ω ε α) (s : σ) (o : ω) :
    Except ε α × σ × ω :=
  match conn.connect with
  | some e => (.error e, s, o)
  | none =>
    match conn.start with
    | some e => (.error (conn.rollback.getD e), s, o)
    | none =>
      match conn.setConfig with
      | some e => (.error (conn.rollback.getD e), s, o)
      | none =>
        match work.run conn.toFaults (.begin s) o 0 with
        | ⟨.error e, _, o', _⟩ => (.error (conn.rollback.getD e), s, o')
        | ⟨.ok a, c, o', _⟩ =>
          match conn.commit with
          | .ok => (.ok a, c.commit s, o')
          | .lost e => (.error (conn.rollback.getD e), c.commit s, o')
          | .refused e => (.error (conn.rollback.getD e), s, o')

/-- The run of the work. -/
abbrev worked (conn : Connection ε) (work : Work σ ω ε α) (s : σ) (o : ω) : Outcome σ ω ε α :=
  work.run conn.toFaults (.begin s) o 0

/-- **All or nothing**: a transaction that resolves has committed every effect of the statements of
its work, and one that rejects has committed none. -/
structure Atomic (conn : Connection ε) (work : Work σ ω ε α) (s : σ) (o : ω) : Prop where
  resolved : ∀ a, (tenantTransaction conn work s o).1 = .ok a →
    (tenantTransaction conn work s o).2.1 = (worked conn work s o).client.store
  rejected : ∀ e, (tenantTransaction conn work s o).1 = .error e →
    (tenantTransaction conn work s o).2.1 = s

/-- When work that changes something returns, then either the `COMMIT` is answered and no statement
of the work has failed, or it is not answered and one has, or it is refused. -/
def Kept (conn : Connection ε) (work : Work σ ω ε α) (s : σ) (o : ω) : Prop :=
  conn.Opened → ∀ a, (worked conn work s o).result = .ok a →
    (worked conn work s o).client.store ≠ s →
      match conn.commit with
      | .ok => (worked conn work s o).client.aborted = false
      | .lost _ => (worked conn work s o).client.aborted = true
      | .refused _ => True

/-! ## What a transaction comes to -/

variable {conn : Connection ε} {work : Work σ ω ε α} {s : σ} {o : ω} {Q : Except ε α → σ → Prop}

theorem tenantTransaction_unopened (h : ¬ conn.Opened) :
    ∃ e, tenantTransaction conn work s o = (.error e, s, o) := by
  rw [tenantTransaction]
  split
  · exact ⟨_, rfl⟩
  next hconnect =>
  split
  · exact ⟨_, rfl⟩
  next hstart =>
  split
  · exact ⟨_, rfl⟩
  next hconfig => exact absurd ⟨hconnect, hstart, hconfig⟩ h

/-- A transaction whose work throws leaves the store alone. -/
theorem tenantTransaction_throws (hopened : conn.Opened) {e : ε}
    (h : (worked conn work s o).result = .error e) :
    tenantTransaction conn work s o =
      (.error (conn.rollback.getD e), s, (worked conn work s o).outside) := by
  obtain ⟨hconnect, hstart, hconfig⟩ := hopened
  rw [worked] at h ⊢
  simp only [tenantTransaction, hconnect, hstart, hconfig]
  generalize work.run conn.toFaults (.begin s) o 0 = run at h ⊢
  obtain ⟨result, c, o', n⟩ := run
  dsimp only at h
  rw [h]

theorem tenantTransaction_returns (hopened : conn.Opened) {a : α}
    (h : (worked conn work s o).result = .ok a) :
    tenantTransaction conn work s o =
      match conn.commit with
      | .ok => (.ok a, (worked conn work s o).client.commit s, (worked conn work s o).outside)
      | .lost e => (.error (conn.rollback.getD e), (worked conn work s o).client.commit s,
          (worked conn work s o).outside)
      | .refused e => (.error (conn.rollback.getD e), s, (worked conn work s o).outside) := by
  obtain ⟨hconnect, hstart, hconfig⟩ := hopened
  rw [worked] at h ⊢
  simp only [tenantTransaction, hconnect, hstart, hconfig]
  generalize work.run conn.toFaults (.begin s) o 0 = run at h ⊢
  obtain ⟨result, c, o', n⟩ := run
  dsimp only at h
  rw [h]

/-- What a transaction that resolves has returned. -/
theorem ok_of_ends (h : work.Ends Q s) {a : α}
    (hok : (tenantTransaction conn work s o).1 = .ok a) : ∃ t, Q (.ok a) t := by
  by_cases hopened : conn.Opened
  · have hends : Q (worked conn work s o).result (worked conn work s o).client.store := h.run
    cases hresult : (worked conn work s o).result with
    | error e =>
      rw [tenantTransaction_throws hopened hresult] at hok
      cases hok
    | ok b =>
      rw [tenantTransaction_returns hopened hresult] at hok
      rw [hresult] at hends
      cases hcommit : conn.commit with
      | ok =>
        rw [hcommit] at hok
        cases hok
        exact ⟨_, hends⟩
      | lost e | refused e =>
        rw [hcommit] at hok
        cases hok
  · obtain ⟨e, heq⟩ := tenantTransaction_unopened hopened
    rw [heq] at hok
    cases hok

/-- What it leaves: what was there, or what its work ended with. -/
theorem store_of_ends (h : work.Ends Q s) :
    (tenantTransaction conn work s o).2.1 = s ∨
      ∃ a, Q (.ok a) (tenantTransaction conn work s o).2.1 := by
  by_cases hopened : conn.Opened
  · have hends : Q (worked conn work s o).result (worked conn work s o).client.store := h.run
    cases hresult : (worked conn work s o).result with
    | error e =>
      rw [tenantTransaction_throws hopened hresult]
      exact .inl rfl
    | ok a =>
      rw [tenantTransaction_returns hopened hresult]
      rw [hresult] at hends
      have hcommit : (worked conn work s o).client.commit s = s ∨
          Q (.ok a) ((worked conn work s o).client.commit s) := by
        rw [Client.commit]
        split
        · exact .inl rfl
        · exact .inr hends
      cases conn.commit with
      | ok | lost e => exact hcommit.imp_right fun hq => ⟨a, hq⟩
      | refused e => exact .inl rfl
  · obtain ⟨e, heq⟩ := tenantTransaction_unopened hopened
    rw [heq]
    exact .inl rfl

theorem commit_eq_store {c : Client σ} : c.commit s = c.store ↔ c.aborted = false ∨ c.store = s := by
  rw [Client.commit]
  cases c.aborted with
  | false => simp
  | true => simp [eq_comm]

theorem commit_eq_old {c : Client σ} : c.commit s = s ↔ c.aborted = true ∨ c.store = s := by
  rw [Client.commit]
  cases c.aborted with
  | false | true => simp

/-- **When a transaction is all or nothing.** -/
theorem atomic_iff : Atomic conn work s o ↔ Kept conn work s o := by
  by_cases hopened : conn.Opened
  · cases hresult : (worked conn work s o).result with
    | error e =>
      have heq := tenantTransaction_throws hopened hresult
      refine ⟨fun _ _ a ha => ?_, fun _ => ⟨fun a ha => ?_, fun e' _ => ?_⟩⟩
      · rw [hresult] at ha
        cases ha
      · rw [heq] at ha
        cases ha
      · rw [heq]
    | ok a =>
      have heq := tenantTransaction_returns hopened hresult
      have hkept : Kept conn work s o ↔ ((worked conn work s o).client.store ≠ s →
          match conn.commit with
          | .ok => (worked conn work s o).client.aborted = false
          | .lost _ => (worked conn work s o).client.aborted = true
          | .refused _ => True) :=
        ⟨fun h => h hopened a hresult, fun h _ _ _ => h⟩
      rw [hkept]
      cases hcommit : conn.commit with
      | ok =>
        rw [hcommit] at heq
        simp only [ne_eq, ← or_iff_not_imp_left]
        rw [or_comm, ← commit_eq_store]
        refine ⟨fun h => ?_, fun h => ⟨fun a' _ => ?_, fun e he => ?_⟩⟩
        · have := h.resolved a (by rw [heq])
          rwa [heq] at this
        · rwa [heq]
        · rw [heq] at he
          cases he
      | lost e =>
        rw [hcommit] at heq
        simp only [ne_eq, ← or_iff_not_imp_left]
        rw [or_comm, ← commit_eq_old]
        refine ⟨fun h => ?_, fun h => ⟨fun a' ha => ?_, fun e' _ => ?_⟩⟩
        · have := h.rejected _ (by rw [heq])
          rwa [heq] at this
        · rw [heq] at ha
          cases ha
        · rwa [heq]
      | refused e =>
        rw [hcommit] at heq
        refine ⟨fun _ _ => trivial, fun _ => ⟨fun a' ha => ?_, fun e' _ => ?_⟩⟩
        · rw [heq] at ha
          cases ha
        · rw [heq]
  · obtain ⟨e, heq⟩ : ∃ e, tenantTransaction conn work s o = (.error e, s, o) :=
      tenantTransaction_unopened hopened
    refine ⟨fun _ h => absurd h hopened, fun _ => ⟨fun a ha => ?_, fun e' _ => ?_⟩⟩
    · rw [heq] at ha
      cases ha
    · rw [heq]

/-- **A brittle work function in which a statement has failed is undone.** -/
theorem undone_of_brittle (hbrittle : work.Brittle)
    (haborted : (worked conn work s o).client.aborted = true) :
    ∃ e, (tenantTransaction conn work s o).1 = .error e ∧
      (tenantTransaction conn work s o).2.1 = s := by
  by_cases hopened : conn.Opened
  · obtain ⟨e, he⟩ := hbrittle.run rfl haborted
    rw [tenantTransaction_throws hopened he]
    exact ⟨_, rfl, rfl⟩
  · obtain ⟨e, heq⟩ : ∃ e, tenantTransaction conn work s o = (.error e, s, o) :=
      tenantTransaction_unopened hopened
    rw [heq]
    exact ⟨e, rfl, rfl⟩

/-- A brittle work function whose transaction resolves has left what it ended with. -/
theorem stored_of_ok (hbrittle : work.Brittle) (h : work.Ends Q s)
    {a : α} (hok : (tenantTransaction conn work s o).1 = .ok a) :
    Q (.ok a) (tenantTransaction conn work s o).2.1 := by
  by_cases hopened : conn.Opened
  · have hends : Q (worked conn work s o).result (worked conn work s o).client.store := h.run
    have haborted : (worked conn work s o).client.aborted = false := by
      by_contra habort
      obtain ⟨e, he, -⟩ := undone_of_brittle hbrittle (eq_true_of_ne_false habort)
      rw [he] at hok
      cases hok
    cases hresult : (worked conn work s o).result with
    | error e =>
      rw [tenantTransaction_throws hopened hresult] at hok
      cases hok
    | ok b =>
      rw [tenantTransaction_returns hopened hresult] at hok ⊢
      rw [hresult] at hends
      cases hcommit : conn.commit with
      | ok =>
        rw [hcommit] at hok
        cases hok
        exact (commit_eq_store.mpr (.inl haborted)).symm ▸ hends
      | lost e | refused e =>
        rw [hcommit] at hok
        cases hok
  · obtain ⟨e, heq⟩ : ∃ e, tenantTransaction conn work s o = (.error e, s, o) :=
      tenantTransaction_unopened hopened
    rw [heq] at hok
    cases hok

end Jkannel.Platform
