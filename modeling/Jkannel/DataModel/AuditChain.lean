import Jkannel.Lib.Chain
import Jkannel.Lib.Transition
import Jkannel.Lib.Updates
import Jkannel.Platform.Grid

/-!
# The audit chain

Every row of the audit log carries a hash of itself and of the row before it.  A trigger signs each
row as it is inserted, under a lock that the transaction keeps to its end; a function walks a
tenant's rows and looks whether each names the hash of the one before it.

* `audit_log_sign` is the trigger and `data_model_verify_audit_chain` the walk, both over
  `data_model_audit_row_hash`.
* `step` is the database: any number of transactions, each of which inserts rows for any tenants.  A
  row gets its id before it waits for the lock, and its time is that of its transaction's start.
* `chain_verifies` is the promise, for transactions that commit `InOrder`: signing takes the latest
  row by the time its transaction began, so a transaction that began earlier and commits later
  breaks the chain (`chain_breaks`).
-/

namespace Jkannel.DataModel.AuditChain

open List
open Platform.Grid (civilDate padded)

/-- `encode(sha256(convert_to(text, 'UTF8')), 'hex')`. -/
structure Setting where
  sha256 : String → String

/-- What an INSERT names. -/
structure Entry where
  uuid : String
  tenantId : Nat
  actorId : String
  action : String
  entityType : String
  entityId : Option String
  /-- A jsonb, as text. -/
  oldValue : Option String
  newValue : Option String
  reason : Option String
  deriving DecidableEq

/-- A row of `audit_log`. -/
structure AuditRow extends Entry where
  id : Nat
  /-- In microseconds. -/
  createdAt : Int
  prevHash : Option String
  rowHash : Option String
  deriving DecidableEq

/-! ## Signing and verifying -/

/-- `to_char(… AT TIME ZONE 'UTC', 'YYYY-MM-DD"T"HH24:MI:SS.US"Z"')`. -/
def toChar (createdAt : Int) : String :=
  let (year, month, day) := civilDate (createdAt.fdiv 86400000000)
  let time := (createdAt.fmod 86400000000).toNat
  padded 4 year.natAbs ++ "-" ++ padded 2 month ++ "-" ++ padded 2 day ++ "T" ++
    padded 2 (time / 3600000000) ++ ":" ++ padded 2 (time / 60000000 % 60) ++ ":" ++
      padded 2 (time / 1000000 % 60) ++ "." ++ padded 6 (time % 1000000) ++ "Z"

/-- The canonical hash of a row, given the hash of the row before it.  The fields are joined with
the record separator, so that no value can forge a boundary. -/
def data_model_audit_row_hash (env : Setting) (p_prev : Option String) (row : AuditRow) : String :=
  env.sha256 ("\x1e".intercalate [
    p_prev.getD "",
    toString row.tenantId,
    row.actorId,
    row.action,
    row.entityType,
    row.entityId.getD "",
    row.oldValue.getD "",
    row.newValue.getD "",
    row.reason.getD "",
    toChar row.createdAt])

/-- What rows are ordered by. -/
def AuditRow.place (row : AuditRow) : Int ×ₗ Nat := toLex (row.createdAt, row.id)

/-- A tenant's signed rows. -/
def signedRows (p_tenant : Nat) (rows : List AuditRow) : List AuditRow :=
  rows.filter fun r => r.tenantId = p_tenant ∧ r.rowHash.isSome

/-- The trigger, over the rows that its SELECT sees. -/
def audit_log_sign (env : Setting) (audit_log : List AuditRow) (NEW : AuditRow) : AuditRow :=
  let v_prev := (Chain.latest AuditRow.place (signedRows NEW.tenantId audit_log)).bind
    AuditRow.rowHash
  { NEW with
    prevHash := v_prev
    rowHash := some (data_model_audit_row_hash env v_prev NEW) }

/-- What the walk returns. -/
structure Verdict where
  ok : Bool
  checkedRows : Nat
  firstBrokenId : Option Nat
  firstBrokenUuid : Option String
  reason : Option String

/-- The loop, after `n` rows. -/
def verifyLoop (env : Setting) : List AuditRow → Option String → Nat → Verdict
  | [], _, n => ⟨true, n, none, none, none⟩
  | r :: rest, expected_prev, n =>
    if expected_prev ≠ r.prevHash then
      ⟨false, n + 1, some r.id, some r.uuid, some "prev_hash mismatch"⟩
    else if some (data_model_audit_row_hash env r.prevHash r) ≠ r.rowHash then
      ⟨false, n + 1, some r.id, some r.uuid, some "row_hash mismatch"⟩
    else verifyLoop env rest r.rowHash (n + 1)

/-- Walk a tenant's rows in the order of their times and ids. -/
def data_model_verify_audit_chain (env : Setting) (audit_log : List AuditRow) (p_tenant : Nat) :
    Verdict :=
  verifyLoop env (Chain.ascending AuditRow.place (signedRows p_tenant audit_log)) none 0

/-- The report of the service. -/
structure AuditChainReport where
  ok : Bool
  checkedRows : Nat
  firstBrokenId : Option String
  firstBrokenUuid : Option String
  reason : Option String

/-- The verifier's report for a tenant. -/
def verifyChain (env : Setting) (audit_log : List AuditRow) (tenantId : Nat) : AuditChainReport :=
  let row := data_model_verify_audit_chain env audit_log tenantId
  ⟨row.ok, row.checkedRows, row.firstBrokenId.map toString, row.firstBrokenUuid, row.reason⟩

/-! ## The database -/

/-- A transaction. -/
structure Tx where
  /-- `now()`, for as long as it lasts. -/
  start : Int
  /-- What it has inserted, in this order. -/
  rows : List AuditRow
  /-- The row it is inserting, with its id and its time: the trigger has yet to run. -/
  inserting : Option AuditRow

/-- The table, the transactions, the locks. -/
structure State where
  /-- The committed rows. -/
  table : List AuditRow
  tx : Nat → Option Tx
  /-- The transaction that holds the advisory lock of a tenant. -/
  lock : Nat → Option Nat
  /-- What the sequence gives out next. -/
  next : Nat

/-- A row from the time before there was a chain. -/
def unsigned (row : AuditRow) : AuditRow := { row with prevHash := none, rowHash := none }

def init (legacy : List AuditRow) (next : Nat) : State where
  table := legacy.map unsigned
  tx := fun _ => none
  lock := fun _ => none
  next := next

/-- One statement of one transaction. -/
inductive Action where
  | begin (t : Nat) (now : Int)
  /-- An INSERT computes its defaults. -/
  | insert (t : Nat) (entry : Entry)
  /-- The trigger gets its lock and signs the row, and the row is in. -/
  | sign (t : Nat)
  | commit (t : Nat)
  | rollback (t : Nat)

/-- The row of an INSERT, as its trigger sees it. -/
def newRow (entry : Entry) (id : Nat) (now : Int) : AuditRow where
  toEntry := entry
  id := id
  createdAt := now
  prevHash := none
  rowHash := none

/-- What `bigint` to `int` makes an error of. -/
def INT_RANGE : Nat := 2 ^ 31

def State.setTx (s : State) (t : Nat) (x : Option Tx) : State :=
  { s with tx := Function.update s.tx t x }

/-- The end of a transaction, which gives its locks back. -/
def State.endTx (s : State) (t : Nat) : State :=
  { s.setTx t none with lock := fun tenant => if s.lock tenant = some t then none else s.lock tenant }

/-- What one action does. -/
def step (env : Setting) (s : State) : Action → Option State
  | .begin t now =>
    match s.tx t with
    | none => some (s.setTx t (some ⟨now, [], none⟩))
    | some _ => none
  | .insert t entry =>
    match s.tx t with
    | some ⟨start, rows, none⟩ => some
        { s.setTx t (some ⟨start, rows, some (newRow entry s.next start)⟩) with next := s.next + 1 }
    | _ => none
  | .sign t =>
    match s.tx t with
    | some ⟨start, rows, some NEW⟩ =>
      if NEW.tenantId < INT_RANGE ∧ (s.lock NEW.tenantId = none ∨ s.lock NEW.tenantId = some t) then
        -- the trigger's SELECT sees what is committed, and what its own transaction has inserted
        let signed := audit_log_sign env (s.table ++ rows) NEW
        some { s.setTx t (some ⟨start, rows ++ [signed], none⟩) with
          lock := Function.update s.lock NEW.tenantId (some t) }
      else none
    | _ => none
  | .commit t =>
    match s.tx t with
    | some ⟨_, rows, none⟩ => some { s.endTx t with table := s.table ++ rows }
    | _ => none
  | .rollback t => (s.tx t).map fun _ => s.endTx t

/-- The audit log as a transition system. -/
def auditing (env : Setting) : Transition.System State Action := ⟨step env⟩

/-- **The condition.**  When a transaction commits, its rows come behind every signed row of their
tenants: those transactions had started earlier. -/
def InOrder (s : State) : Action → Prop
  | .commit t => ∀ x ∈ s.tx t, ∀ r ∈ x.rows, ∀ q ∈ signedRows r.tenantId s.table, q.place < r.place
  | _ => True

instance (s : State) (a : Action) : Decidable (InOrder s a) := by
  cases a <;> unfold InOrder <;> infer_instance

/-! ## What a walk finds -/

variable {env : Setting} {rows : List AuditRow}

/-- A row carries its own hash. -/
def Genuine (env : Setting) (r : AuditRow) : Prop :=
  r.rowHash = some (data_model_audit_row_hash env r.prevHash r)

/-- **A walk finds nothing** exactly when the rows are linked and each carries its own hash. -/
theorem verifyLoop_ok_iff {expected : Option String} {n : Nat} :
    (verifyLoop env rows expected n).ok = true ↔
      Chain.Linked AuditRow.prevHash AuditRow.rowHash expected rows ∧ ∀ r ∈ rows, Genuine env r := by
  induction rows generalizing expected n with
  | nil => simp [verifyLoop, Chain.Linked]
  | cons r rest ih =>
    rw [verifyLoop, Chain.Linked, forall_mem_cons]
    split
    · rename_i hprev
      exact ⟨fun h => (by cases h), fun h => absurd h.1.1.symm hprev⟩
    · rename_i hprev
      split
      · rename_i hhash
        exact ⟨fun h => (by cases h), fun h => absurd h.2.1.symm hhash⟩
      · rename_i hhash
        rw [ih]
        refine ⟨fun h => ⟨⟨?_, h.1⟩, ?_, h.2⟩, fun h => ⟨h.1.2, h.2.2⟩⟩
        · exact (not_not.mp hprev).symm
        · exact (not_not.mp hhash).symm

theorem signedRows_append (tenant : Nat) (rows rows' : List AuditRow) :
    signedRows tenant (rows ++ rows') = signedRows tenant rows ++ signedRows tenant rows' :=
  filter_append ..

theorem mem_signedRows {tenant : Nat} {r : AuditRow} :
    r ∈ signedRows tenant rows ↔ r ∈ rows ∧ r.tenantId = tenant ∧ r.rowHash.isSome := by
  simp [signedRows]

/-! ## The invariant

Committed rows are signed under the tenant's lock, each after the latest there was. -/

/-- A tenant's chain is what the walk wants it to be. -/
structure Sound (env : Setting) (table : List AuditRow) (tenant : Nat) : Prop where
  strict : Chain.Strict AuditRow.place (signedRows tenant table)
  linked : Chain.Linked AuditRow.prevHash AuditRow.rowHash none (signedRows tenant table)

/-- What is known of a transaction: its rows are in the order of their ids, under its locks, and
each was linked to the latest there was. -/
structure TxOk (env : Setting) (s : State) (t : Nat) (x : Tx) : Prop where
  started : ∀ r ∈ x.rows, r.createdAt = x.start
  ids : (x.rows.map AuditRow.id).Pairwise (· < ·)
  fresh : ∀ r ∈ x.rows, r.id < s.next
  genuine : ∀ r ∈ x.rows, Genuine env r
  locked : ∀ r ∈ x.rows, s.lock r.tenantId = some t
  signed : ∀ tenant, Chain.Signed AuditRow.place AuditRow.prevHash AuditRow.rowHash
    (signedRows tenant s.table) (signedRows tenant x.rows)
  inserting : ∀ r ∈ x.inserting, r.createdAt = x.start ∧ r.id < s.next ∧ ∀ q ∈ x.rows, q.id < r.id

/-- What a step of the log keeps. -/
structure Inv (env : Setting) (s : State) : Prop where
  sound : ∀ tenant, Sound env s.table tenant
  genuine : ∀ r ∈ s.table, r.rowHash.isSome → Genuine env r
  txs : ∀ t x, s.tx t = some x → TxOk env s t x

theorem inv_init (legacy : List AuditRow) (next : Nat) : Inv env (init legacy next) := by
  have hnone : ∀ tenant, signedRows tenant (init legacy next).table = [] := by
    intro tenant
    refine filter_eq_nil_iff.mpr fun r hr => ?_
    obtain ⟨q, -, rfl⟩ := mem_map.mp hr
    simp [unsigned]
  refine ⟨fun tenant => ⟨?_, ?_⟩, fun r hr hsigned => ?_, fun t x hx => by cases hx⟩
  · rw [hnone]
    exact List.Pairwise.nil
  · rw [hnone]
    trivial
  · obtain ⟨q, -, rfl⟩ := mem_map.mp hr
    cases hsigned

/-- A chain that is sound verifies. -/
theorem Inv.verifies {s : State} (h : Inv env s) (tenant : Nat) :
    (verifyChain env s.table tenant).ok = true := by
  have hwalk : Chain.ascending AuditRow.place (signedRows tenant s.table) =
      signedRows tenant s.table := Chain.ascending_of_strict (h.sound tenant).strict
  rw [verifyChain, data_model_verify_audit_chain, hwalk]
  refine verifyLoop_ok_iff.mpr ⟨(h.sound tenant).linked, fun r hr => ?_⟩
  obtain ⟨hmem, -, hsigned⟩ := mem_signedRows.mp hr
  exact h.genuine r hmem hsigned

/-! ## Each action keeps it -/

section Steps

variable {s : State} {t : Nat}

/-- The rows of a transaction are in order. -/
theorem TxOk.strict {x : Tx} (h : TxOk env s t x) (tenant : Nat) :
    Chain.Strict AuditRow.place (signedRows tenant x.rows) := by
  have hrows : x.rows.Pairwise fun a b => a.place < b.place := by
    refine List.Pairwise.imp_of_mem (fun {a b} ha hb hlt => ?_) (pairwise_map.mp h.ids)
    refine Prod.Lex.toLex_lt_toLex.mpr (.inr ⟨?_, hlt⟩)
    exact (h.started a ha).trans (h.started b hb).symm
  exact hrows.sublist filter_sublist

/-- A transaction that has only begun. -/
theorem TxOk.begun (now : Int) : TxOk env s t ⟨now, [], none⟩ where
  started _ hr := by cases hr
  ids := List.Pairwise.nil
  fresh _ hr := by cases hr
  genuine _ hr := by cases hr
  locked _ hr := by cases hr
  signed _ := trivial
  inserting _ hr := by cases hr

/-- Others do not see what becomes of the ids. -/
theorem TxOk.mono {x : Tx} (h : TxOk env s t x) {s' : State} (htable : s'.table = s.table)
    (hnext : s.next ≤ s'.next) (hlock : ∀ r ∈ x.rows, s'.lock r.tenantId = s.lock r.tenantId) :
    TxOk env s' t x where
  __ := h
  fresh r hr := (h.fresh r hr).trans_le hnext
  locked r hr := (hlock r hr).trans (h.locked r hr)
  signed tenant := by rw [htable]; exact h.signed tenant
  inserting r hr :=
    have ⟨hstart, hfresh, hbehind⟩ := h.inserting r hr
    ⟨hstart, hfresh.trans_le hnext, hbehind⟩

/-- Another's transaction keeps what is known of it when this one's ends. -/
theorem TxOk.outlives {x : Tx} (h : TxOk env s t x) {u : Nat} (hne : t ≠ u) (rows : List AuditRow)
    (hlocked : ∀ r ∈ rows, s.lock r.tenantId = some u) :
    TxOk env { s.endTx u with table := s.table ++ rows } t x where
  __ := h
  locked r hr := by
    have := h.locked r hr
    change (if s.lock r.tenantId = some u then none else s.lock r.tenantId) = some t
    rw [if_neg, this]
    rw [this]
    exact fun heq => hne (Option.some.inj heq)
  signed tenant := by
    by_cases hnil : signedRows tenant x.rows = []
    · rw [hnil]
      trivial
    · -- the other holds no lock of a tenant that this one has rows of
      obtain ⟨r, hr⟩ := exists_mem_of_ne_nil _ hnil
      obtain ⟨hmem, rfl, -⟩ := mem_signedRows.mp hr
      have hnone : signedRows r.tenantId rows = [] := by
        refine filter_eq_nil_iff.mpr fun q hq hkey => hne ?_
        have htenant : q.tenantId = r.tenantId := by simpa using (of_decide_eq_true hkey).1
        have := hlocked q hq
        rw [htenant, h.locked r hmem] at this
        exact Option.some.inj this
      rw [signedRows_append, hnone, append_nil]
      exact h.signed r.tenantId

/-- The trigger runs. -/
theorem Inv.sign (h : Inv env s) {start : Int} {NEW : AuditRow}
    (hx : s.tx t = some ⟨start, rows, some NEW⟩)
    (hlock : s.lock NEW.tenantId = none ∨ s.lock NEW.tenantId = some t) :
    Inv env { s.setTx t (some ⟨start, rows ++ [audit_log_sign env (s.table ++ rows) NEW], none⟩) with
      lock := Function.update s.lock NEW.tenantId (some t) } := by
  have hok := h.txs t _ hx
  obtain ⟨hstart, hfresh, hbehind⟩ := hok.inserting NEW rfl
  have hlast : ∀ q ∈ [audit_log_sign env (s.table ++ rows) NEW],
      q = audit_log_sign env (s.table ++ rows) NEW := fun q hq => mem_singleton.mp hq
  refine ⟨h.sound, h.genuine, fun u y hu => ?_⟩
  rcases Updates.update_eq_some hu with ⟨rfl, rfl⟩ | ⟨hne, hu⟩
  · refine ⟨fun r hr => ?_, ?_, fun r hr => ?_, fun r hr => ?_, fun r hr => ?_, fun tenant => ?_,
      fun r hr => by cases hr⟩
    · rcases mem_append.mp hr with hr | hr
      · exact hok.started r hr
      · rw [hlast r hr]
        exact hstart
    · rw [map_append]
      refine pairwise_append.mpr ⟨hok.ids, pairwise_singleton .., fun a ha b hb => ?_⟩
      obtain ⟨q, hq, rfl⟩ := mem_map.mp ha
      obtain rfl := mem_singleton.mp hb
      exact hbehind q hq
    · rcases mem_append.mp hr with hr | hr
      · exact hok.fresh r hr
      · rw [hlast r hr]
        exact hfresh
    · rcases mem_append.mp hr with hr | hr
      · exact hok.genuine r hr
      · rw [hlast r hr]
        rfl
    · change Function.update s.lock NEW.tenantId (some u) r.tenantId = some u
      by_cases heq : r.tenantId = NEW.tenantId
      · rw [heq, Function.update_self]
      · rw [Function.update_of_ne heq]
        rcases mem_append.mp hr with hr | hr
        · exact hok.locked r hr
        · rw [hlast r hr] at heq
          exact absurd rfl heq
    · rw [signedRows_append]
      by_cases heq : NEW.tenantId = tenant
      · subst heq
        have hself : signedRows NEW.tenantId [audit_log_sign env (s.table ++ rows) NEW] =
            [audit_log_sign env (s.table ++ rows) NEW] := by
          simp [signedRows, audit_log_sign]
        rw [hself, Chain.signed_append, ← signedRows_append]
        exact ⟨hok.signed NEW.tenantId, rfl⟩
      · have hnone : signedRows tenant [audit_log_sign env (s.table ++ rows) NEW] = [] := by
          simp [signedRows, audit_log_sign, heq]
        rw [hnone, append_nil]
        exact hok.signed tenant
  · refine (h.txs u y hu).mono rfl (Nat.le_refl _) fun r hr => ?_
    -- the lock was free, or this transaction's already
    have hlocked := (h.txs u y hu).locked r hr
    refine Function.update_of_ne (fun heq => ?_) ..
    rw [heq] at hlocked
    rcases hlock with hlock | hlock
    · rw [hlocked] at hlock
      cases hlock
    · rw [hlocked] at hlock
      exact hne (Option.some.inj hlock)

/-- A transaction commits in order. -/
theorem Inv.commit (h : Inv env s) {start : Int} (hx : s.tx t = some ⟨start, rows, none⟩)
    (horder : ∀ r ∈ rows, ∀ q ∈ signedRows r.tenantId s.table, q.place < r.place) :
    Inv env { s.endTx t with table := s.table ++ rows } := by
  have hok := h.txs t _ hx
  refine ⟨fun tenant => ?_, fun r hr hsigned => ?_, fun u y hu => ?_⟩
  · have hstrict : Chain.Strict AuditRow.place
        (signedRows tenant s.table ++ signedRows tenant rows) := by
      refine pairwise_append.mpr ⟨(h.sound tenant).strict, hok.strict tenant, ?_⟩
      intro q hq r hr
      obtain ⟨hmem, rfl, -⟩ := mem_signedRows.mp hr
      exact horder r hmem q hq
    refine ⟨?_, ?_⟩
    · rw [signedRows_append]
      exact hstrict
    · rw [signedRows_append]
      exact (hok.signed tenant).linked (h.sound tenant).linked hstrict
  · rcases mem_append.mp hr with hr | hr
    · exact h.genuine r hr hsigned
    · exact hok.genuine r hr
  · obtain ⟨hne, hu⟩ := Updates.erase_eq_some hu
    exact (h.txs u y hu).outlives hne rows hok.locked

/-- A transaction is undone. -/
theorem Inv.rollback (h : Inv env s) (t : Nat) : Inv env (s.endTx t) := by
  refine ⟨h.sound, h.genuine, fun u y hu => ?_⟩
  obtain ⟨hne, hu⟩ := Updates.erase_eq_some hu
  have houtlives := (h.txs u y hu).outlives hne [] fun r hr => by cases hr
  rwa [append_nil] at houtlives

/-- **One step.** -/
theorem inv_step {s' : State} {a : Action} (h : Inv env s) (ho : InOrder s a)
    (hs : step env s a = some s') : Inv env s' := by
  cases a with
  | begin t now =>
    rw [step] at hs
    split at hs
    · cases hs
      refine ⟨h.sound, h.genuine, fun u y hu => ?_⟩
      rcases Updates.update_eq_some hu with ⟨rfl, rfl⟩ | ⟨-, hu⟩
      · exact TxOk.begun now
      · exact (h.txs u y hu).mono rfl (Nat.le_refl _) fun _ _ => rfl
    · cases hs
  | insert t entry =>
    rw [step] at hs
    split at hs
    · rename_i start rows hx
      cases hs
      have hok := h.txs t _ hx
      refine ⟨h.sound, h.genuine, fun u y hu => ?_⟩
      rcases Updates.update_eq_some hu with ⟨rfl, rfl⟩ | ⟨-, hu⟩
      · refine ⟨hok.started, hok.ids, fun r hr => (hok.fresh r hr).trans (Nat.lt_succ_self _),
          hok.genuine, hok.locked, hok.signed, fun r hr => ?_⟩
        cases hr
        exact ⟨rfl, Nat.lt_succ_self _, hok.fresh⟩
      · exact (h.txs u y hu).mono rfl (Nat.le_succ _) fun _ _ => rfl
    · cases hs
  | sign t =>
    rw [step] at hs
    split at hs
    · rename_i start rows NEW hx
      split at hs
      · rename_i hlock
        cases hs
        exact h.sign hx hlock.2
      · cases hs
    · cases hs
  | commit t =>
    rw [step] at hs
    split at hs
    · rename_i start rows hx
      cases hs
      exact h.commit hx (ho _ hx)
    · cases hs
  | rollback t =>
    obtain ⟨x, -, rfl⟩ := Option.map_eq_some_iff.mp hs
    exact h.rollback t

end Steps

/-- **An audit chain verifies after every run** of transactions that commit in order. -/
theorem chain_verifies (env : Setting) (legacy : List AuditRow) (next : Nat) (actions : List Action)
    (s : State) (horder : (auditing env).Along InOrder (init legacy next) actions)
    (hrun : (auditing env).run (init legacy next) actions = some s) (tenantId : Nat) :
    (verifyChain env s.table tenantId).ok = true :=
  ((auditing env).invariant_along (fun _ _ _ hi ho hs => inv_step hi ho hs) (inv_init legacy next)
    horder hrun).verifies tenantId

/-! ### Two transactions that overlap -/

/-- A sign-in is audited. -/
def signedIn (uuid actor : String) : Entry :=
  ⟨uuid, 1, actor, "auth.login", "user", some actor, none, none, none⟩

/-- The one that began first commits first. -/
def firstFirst : List Action :=
  [.begin 0 100, .begin 1 200, .insert 1 (signedIn "b" "bea"), .insert 0 (signedIn "a" "ann"), .sign 0,
    .insert 0 (signedIn "c" "ann"), .sign 0, .commit 0, .sign 1, .commit 1]

theorem chain_verifies_firstFirst :
    ∃ s, (auditing ⟨fun text => text⟩).run (init [] 0) firstFirst = some s ∧
      (verifyChain ⟨fun text => text⟩ s.table 1).ok = true :=
  ⟨_, rfl, chain_verifies ⟨fun text => text⟩ [] 0 firstFirst _
    ((auditing _).along_of_check InOrder (by decide +kernel)) rfl 1⟩

/-- The one that began first commits last. -/
def firstLast : List Action :=
  [.begin 0 100, .begin 1 200, .insert 1 (signedIn "b" "bea"), .sign 1, .commit 1,
    .insert 0 (signedIn "a" "ann"), .sign 0, .commit 0]

/-- **The chain breaks**, whatever the hash function is: the row that was signed last is walked
first, and names the hash of the row behind it. -/
theorem chain_breaks : ¬ ∃ env, ∀ s, (auditing env).run (init [] 0) firstLast = some s →
    (verifyChain env s.table 1).ok = true := by
  rintro ⟨env, h⟩
  cases h _ rfl

end Jkannel.DataModel.AuditChain

