import Jkannel.DataModel.AuditChain
import Mathlib.Data.List.TakeWhile

/-!
# Archiving the audit log

Audit rows are never deleted, so retention only copies them into an archive, a batch at a time, and
keeps a watermark of how far it has come.

* `archiveCopyOnly` is the loop over the batches: each takes the oldest rows at or after the
  watermark, and then leaves out those that are in the archive already.
* `step` is a retention run, one transaction under a lock, or a row that is written meanwhile.
* `Inv` is what every run keeps: the rows below the watermark are all in the archive.
* `archived_once`: no row is in it twice, and the total that is reported is their number.
* `archiving_progresses_iff` says when a run gets on: when its first batch reads past the rows that
  are archived already.  A batch of those ends the run, and as nothing has changed it ends every
  later one (`archiving_stalls`).
-/

namespace Jkannel.DataModel.Retention

open List
open AuditChain (AuditRow Entry audit_log_sign newRow)
open Platform.Grid (toISOString)
open Transition (Ack)

/-! ## Settings -/

def DAY_MS : Int := 86400000

/-- `DATA_MODEL_RETENTION_BATCH_SIZE`, if it is an integer. -/
def batchSize (raw : Option Int) : Nat :=
  match raw with
  | some n => if 0 < n then n.toNat else 5000
  | none => 5000

/-- `DATA_MODEL_RETENTION_MAX_BATCHES`, if it is an integer. -/
def maxBatches (raw : Option Int) : Nat :=
  match raw with
  | some n => if 0 < n then n.toNat else 20
  | none => 20

/-- `DATA_MODEL_RETENTION_AUDIT_LOG_DAYS`, if it is an integer, or the policy's own window. -/
def effectiveRetentionDays (raw : Option Int) : Int :=
  match raw with
  | some n => if 0 < n then n else 365
  | none => 365

/-- The cutoff, in milliseconds: rows that are strictly older are to be archived. -/
def retentionCutoff (raw : Option Int) (now : Int) : Int := now - effectiveRetentionDays raw * DAY_MS

/-- What a run finds in its environment, and what the database makes of it. -/
structure Run where
  tenantId : Nat
  userId : String
  /-- The process's clock, in milliseconds. -/
  now : Int
  days : Option Int
  size : Option Int
  batches : Option Int
  /-- How the database orders rows of one timestamp, in each batch. -/
  ties : Nat → AuditRow → Nat
  /-- The start of the transaction, in microseconds. -/
  start : Int
  /-- What the row that records the run gets from its defaults. -/
  id : Nat
  uuid : String

def Run.cutoff (p : Run) : Int := retentionCutoff p.days p.now

def Run.limit (p : Run) : Nat := batchSize p.size

/-! ## The loop -/

/-- Whether a row is older than the cutoff, which is in milliseconds. -/
def older (cutoff : Int) (r : AuditRow) : Bool := r.createdAt < cutoff * 1000

/-- And not below the watermark, if there is one. -/
def eligible (cutoff : Int) (newest : Option Int) (r : AuditRow) : Bool :=
  older cutoff r && newest.all fun w => w * 1000 ≤ r.createdAt

/-- `ORDER BY created_at ASC`, with the database's own choice between equal ones. -/
def byAge (tie : AuditRow → Nat) (a b : AuditRow) : Bool :=
  a.createdAt < b.createdAt || (a.createdAt = b.createdAt && tie a ≤ tie b)

/-- The rows a batch reads, before the LIMIT. -/
def candidates (tie : AuditRow → Nat) (audit_log : List AuditRow) (cutoff : Int)
    (newest : Option Int) : List AuditRow :=
  (audit_log.filter (eligible cutoff newest)).insertionSort (byAge tie · ·)

/-- `ON CONFLICT (uuid) DO NOTHING RETURNING`: the rows that were not in the archive. -/
def inserted : List String → List AuditRow → List AuditRow
  | _, [] => []
  | archive, r :: rest =>
    if r.uuid ∈ archive then inserted archive rest else r :: inserted (r.uuid :: archive) rest

/-- `new Date(…)` of a timestamp, which keeps whole milliseconds. -/
def toDate (createdAt : Int) : Int := createdAt.fdiv 1000

/-- The later of the newest so far and a row's time. -/
def newer (newest : Option Int) (r : AuditRow) : Option Int :=
  match newest with
  | none => some (toDate r.createdAt)
  | some w => if w < toDate r.createdAt then some (toDate r.createdAt) else some w

/-- What the loop carries. -/
structure Pass where
  archive : List AuditRow
  newest : Option Int
  archived : Nat

/-- The ids of the rows. -/
def uuids (rows : List AuditRow) : List String := rows.map fun r => r.uuid

/-- What a batch inserts. -/
def batch (tie : AuditRow → Nat) (limit : Nat) (audit_log : List AuditRow) (cutoff : Int)
    (p : Pass) : List AuditRow :=
  inserted (uuids p.archive) ((candidates tie audit_log cutoff p.newest).take limit)

/-- A pass after one more batch. -/
def Pass.add (p : Pass) (rows : List AuditRow) : Pass where
  archive := p.archive ++ rows
  newest := rows.foldl newer p.newest
  archived := p.archived + rows.length

/-- The loop, from batch `i`: it ends with the batches, or at the first that is short. -/
def archiveBatches (ties : Nat → AuditRow → Nat) (limit : Nat) (audit_log : List AuditRow)
    (cutoff : Int) : Nat → Nat → Pass → Pass
  | 0, _, p => p
  | left + 1, i, p =>
    let rows := batch (ties i) limit audit_log cutoff p
    if rows.length < limit then p.add rows
    else archiveBatches ties limit audit_log cutoff left (i + 1) (p.add rows)

/-! ## The run -/

/-- The row of `data_model_retention_state`. -/
structure RetentionState where
  /-- In milliseconds: it is only ever written from a `Date`. -/
  watermark : Option Int
  lastRunAt : Int
  lastArchived : Nat
  totalArchived : Nat

/-- The log, its archive and the watermark. -/
structure State where
  audit_log : List AuditRow
  archive : List AuditRow
  retention : Option RetentionState
  /-- The process's clock, as of the last run. -/
  clock : Option Int

def State.watermark (s : State) : Option Int := s.retention.bind RetentionState.watermark

/-- The whole pass of a run. -/
def archiveCopyOnly (p : Run) (s : State) : Pass :=
  archiveBatches p.ties p.limit s.audit_log p.cutoff (maxBatches p.batches) 0
    ⟨s.archive, s.watermark, 0⟩

/-- The UPDATE of the watermark, of a row that may not be there yet. -/
def updateWatermark (newest : Option Int) (retention : Option RetentionState) :
    Option RetentionState :=
  retention.map fun row =>
    match newest with
    | none => row
    | some w => if row.watermark.all (· < w) then { row with watermark := some w } else row

/-- The state row after a run. -/
def recordState (start : Int) (archived : Nat) : Option RetentionState → Option RetentionState
  | none => some ⟨none, start, archived, archived⟩
  | some row => some { row with
      lastRunAt := start
      lastArchived := archived
      totalArchived := row.totalArchived + archived }

/-- What the run writes to the audit log about itself. -/
def ran (p : Run) (archived : Nat) : Entry where
  uuid := p.uuid
  tenantId := p.tenantId
  actorId := p.userId
  action := "data_model.retention.ran"
  entityType := "audit_log"
  entityId := none
  oldValue := none
  newValue := some ("\x7b\"mode\": \"copy-only\", \"cutoff\": \"" ++ toISOString p.cutoff ++
    "\", \"deleted\": 0, \"archived\": " ++ toString archived ++ ", \"retentionDays\": " ++
      toString (effectiveRetentionDays p.days) ++ "\x7d")
  reason := none

/-- The policy of the audit log, applied in its transaction. -/
def applyPolicy (env : AuditChain.Setting) (p : Run) (s : State) : State :=
  let pass := archiveCopyOnly p s
  { audit_log := s.audit_log ++
      [audit_log_sign env s.audit_log (newRow (ran p pass.archived) p.id p.start)]
    archive := pass.archive
    retention := recordState p.start pass.archived (updateWatermark pass.newest s.retention)
    clock := some p.now }

/-- A write to the log, or a retention run. -/
inductive Action where
  /-- Another row is written to the audit log. -/
  | insert (row : AuditRow)
  /-- A retention run, whose transaction may be undone. -/
  | run (p : Run) (ack : Ack)

/-- A row is stamped with the start of its transaction, and none lasts as long as a day. -/
def Stamped (clock : Option Int) (createdAt : Int) : Prop :=
  ∀ now ∈ clock, (now - DAY_MS) * 1000 ≤ createdAt

instance (clock : Option Int) (createdAt : Int) : Decidable (Stamped clock createdAt) := by
  unfold Stamped
  infer_instance

/-- The default of `uuid` gives out no value twice. -/
def Fresh (audit_log : List AuditRow) (uuid : String) : Prop := uuid ∉ uuids audit_log

instance (audit_log : List AuditRow) (uuid : String) : Decidable (Fresh audit_log uuid) := by
  unfold Fresh
  infer_instance

/-- What one action does. -/
def step (env : AuditChain.Setting) (s : State) : Action → Option State
  | .insert row =>
    if Fresh s.audit_log row.uuid ∧ Stamped s.clock row.createdAt then
      some { s with audit_log := s.audit_log ++ [row] }
    else none
  | .run p ack =>
    if Fresh s.audit_log p.uuid ∧ Stamped (some p.now) p.start ∧ ∀ now ∈ s.clock, now ≤ p.now then
      some (if ack.committed then applyPolicy env p s else { s with clock := some p.now })
    else none

/-- Retention as a transition system. -/
def retaining (env : AuditChain.Setting) : Transition.System State Action := ⟨step env⟩

/-- What an audit log holds before the first run. -/
structure Contents where
  rows : List AuditRow
  distinct : (uuids rows).Nodup

def init (contents : Contents) : State where
  audit_log := contents.rows
  archive := []
  retention := none
  clock := none

/-! ## What is promised -/

/-- Nothing below the watermark is missing from the archive. -/
def Complete (s : State) : Prop :=
  ∀ w ∈ s.watermark, ∀ r ∈ s.audit_log, r.createdAt < w * 1000 → r ∈ s.archive

/-- A row that a run is to archive. -/
def Waiting (s : State) (p : Run) (r : AuditRow) : Prop :=
  r ∈ s.audit_log ∧ older p.cutoff r = true ∧ r ∉ s.archive

/-- A run copies a row that was waiting, or leaves none that is. -/
def Progress (s s' : State) (p : Run) : Prop :=
  (∃ r, Waiting s p r ∧ r ∈ s'.archive) ∨ ∀ r, ¬ Waiting s' p r

/-- **The condition.**  When a row is waiting, fewer than a batch of rows that are in the archive
already stand before the first that is not, in the order in which the first batch reads them. -/
def Roomy (s : State) (p : Run) : Prop :=
  (∃ r, Waiting s p r) →
    ((candidates (p.ties 0) s.audit_log p.cutoff s.watermark).takeWhile (· ∈ s.archive)).length <
      p.limit

/-! ## Batches -/

section Batches

variable {tie : AuditRow → Nat} {limit : Nat} {audit_log : List AuditRow} {cutoff : Int}
  {newest : Option Int} {archive : List String} {rows : List AuditRow} {p : Pass} {r : AuditRow}

theorem inserted_subset : inserted archive rows ⊆ rows := by
  induction rows generalizing archive with
  | nil => exact List.Subset.refl _
  | cons r rest ih =>
    rw [inserted]
    split
    · exact fun q hq => mem_cons_of_mem _ (ih hq)
    · exact cons_subset_cons _ ih

/-- After a batch, everything it read is archived. -/
theorem inserted_covers (archive : List String) (hr : r ∈ rows) :
    r.uuid ∈ archive ∨ r.uuid ∈ uuids (inserted archive rows) := by
  induction rows generalizing archive with
  | nil => cases hr
  | cons q rest ih =>
    rw [inserted]
    rcases mem_cons.mp hr with rfl | hr
    · split
      · rename_i h
        exact .inl h
      · exact .inr (mem_cons_self ..)
    · split
      · exact ih archive hr
      · rcases ih (q.uuid :: archive) hr with h | h
        · rcases mem_cons.mp h with h | h
          · exact .inr (by rw [h]; exact mem_cons_self ..)
          · exact .inl h
        · exact .inr (mem_cons_of_mem _ h)

/-- A batch of rows that are archived inserts nothing. -/
theorem inserted_eq_nil (h : ∀ r ∈ rows, r.uuid ∈ archive) : inserted archive rows = [] := by
  induction rows with
  | nil => rfl
  | cons r rest ih =>
    rw [inserted, if_pos (h r (mem_cons_self ..))]
    exact ih fun q hq => h q (mem_cons_of_mem _ hq)

instance (tie : AuditRow → Nat) : Std.Total fun a b => byAge tie a b = true where
  total a b := by
    simp only [byAge, Bool.or_eq_true, Bool.and_eq_true, decide_eq_true_eq]
    omega

instance (tie : AuditRow → Nat) : IsTrans AuditRow fun a b => byAge tie a b = true where
  trans a b c := by
    simp only [byAge, Bool.or_eq_true, Bool.and_eq_true, decide_eq_true_eq]
    omega

theorem mem_candidates :
    r ∈ candidates tie audit_log cutoff newest ↔
      r ∈ audit_log ∧ older cutoff r = true ∧ ∀ w ∈ newest, w * 1000 ≤ r.createdAt := by
  rw [candidates, (perm_insertionSort _ _).mem_iff, mem_filter, eligible]
  cases newest with
  | none | some _ => simp

/-- A batch reads every candidate that is older than one it reads. -/
theorem mem_take_of_older {q r : AuditRow}
    (hq : q ∈ (candidates tie audit_log cutoff newest).take limit)
    (hr : r ∈ candidates tie audit_log cutoff newest) (hlt : r.createdAt < q.createdAt) :
    r ∈ (candidates tie audit_log cutoff newest).take limit := by
  have hsorted := List.pairwise_insertionSort (byAge tie · ·)
    (audit_log.filter (eligible cutoff newest))
  rw [← candidates, ← take_append_drop limit (candidates tie audit_log cutoff newest)] at hsorted
  rw [← take_append_drop limit (candidates tie audit_log cutoff newest)] at hr
  refine (mem_append.mp hr).resolve_right fun hdrop => ?_
  have := (pairwise_append.mp hsorted).2.2 q hq r hdrop
  simp only [byAge, Bool.or_eq_true, Bool.and_eq_true, decide_eq_true_eq] at this
  omega

/-- The newest time after some rows is that of one of them, or the one there was. -/
theorem foldl_newer {w : Int} (h : w ∈ rows.foldl newer newest) :
    w ∈ newest ∨ ∃ r ∈ rows, w = toDate r.createdAt := by
  induction rows generalizing newest with
  | nil => exact .inl h
  | cons r rest ih =>
    rcases ih h with h | ⟨q, hq, heq⟩
    · simp only [newer] at h
      split at h
      · exact .inr ⟨r, mem_cons_self .., (Option.some.inj h).symm⟩
      · split at h
        · exact .inr ⟨r, mem_cons_self .., (Option.some.inj h).symm⟩
        · exact .inl h
    · exact .inr ⟨q, mem_cons_of_mem _ hq, heq⟩

theorem toDate_le (createdAt : Int) : toDate createdAt * 1000 ≤ createdAt := by
  have := Int.mul_fdiv_add_fmod createdAt 1000
  have := Int.fmod_nonneg_of_pos createdAt (by decide : (0 : Int) < 1000)
  rw [toDate]
  omega

end Batches

/-! ## The invariant -/

/-- What a run keeps between its batches: the archive is of rows of the log, everything below the
newest time is in it, and that time is before the cutoff. -/
structure PassOk (audit_log : List AuditRow) (bound : Int) (p : Pass) : Prop where
  copies : p.archive ⊆ audit_log
  complete : ∀ w ∈ p.newest, ∀ r ∈ audit_log, r.createdAt < w * 1000 → r ∈ p.archive
  bounded : ∀ w ∈ p.newest, w * 1000 ≤ bound

section Loop

variable {tie : AuditRow → Nat} {ties : Nat → AuditRow → Nat} {limit : Nat}
  {audit_log : List AuditRow} {cutoff bound : Int} {p : Pass} {r : AuditRow}

theorem eq_of_uuid (hd : (uuids audit_log).Nodup) {q r : AuditRow} (hq : q ∈ audit_log)
    (hr : r ∈ audit_log) (h : q.uuid = r.uuid) : q = r :=
  inj_on_of_nodup_map hd hq hr h

/-- A row of the log is archived exactly when its uuid is. -/
theorem PassOk.uuid_mem (h : PassOk audit_log bound p) (hd : (uuids audit_log).Nodup)
    (hr : r ∈ audit_log) : r.uuid ∈ uuids p.archive ↔ r ∈ p.archive := by
  refine ⟨fun hmem => ?_, fun hmem => mem_map_of_mem hmem⟩
  obtain ⟨q, hq, heq⟩ := mem_map.mp hmem
  exact eq_of_uuid hd (h.copies hq) hr heq ▸ hq

theorem batch_subset : batch tie limit audit_log cutoff p ⊆
    (candidates tie audit_log cutoff p.newest).take limit := inserted_subset

theorem mem_of_mem_batch (h : r ∈ batch tie limit audit_log cutoff p) :
    r ∈ audit_log ∧ older cutoff r = true :=
  have hr := mem_candidates.mp (mem_of_mem_take (batch_subset h))
  ⟨hr.1, hr.2.1⟩

/-- **A batch keeps it.** -/
theorem PassOk.add (h : PassOk audit_log bound p) (hd : (uuids audit_log).Nodup)
    (hbound : cutoff * 1000 ≤ bound) :
    PassOk audit_log bound (p.add (batch tie limit audit_log cutoff p)) where
  copies := append_subset.mpr ⟨h.copies, fun r hr => (mem_of_mem_batch hr).1⟩
  complete := by
    intro w hw r hr hlt
    rcases foldl_newer hw with hold | ⟨q, hq, rfl⟩
    · exact mem_append_left _ (h.complete w hold r hr hlt)
    · -- the row is older than one the batch read, so the batch read it, or it lies below
      have hlt' : r.createdAt < q.createdAt := hlt.trans_le (toDate_le q.createdAt)
      have hread := batch_subset hq
      have hqolder : q.createdAt < cutoff * 1000 := by simpa [older] using (mem_of_mem_batch hq).2
      by_cases hbelow : ∀ w ∈ p.newest, w * 1000 ≤ r.createdAt
      · have hmem : r ∈ (candidates tie audit_log cutoff p.newest).take limit :=
          mem_take_of_older hread (mem_candidates.mpr ⟨hr, decide_eq_true (hlt'.trans hqolder),
            hbelow⟩) hlt'
        rcases inserted_covers (uuids p.archive) hmem with hin | hin
        · exact mem_append_left _ ((h.uuid_mem hd hr).mp hin)
        · obtain ⟨r', hr', heq⟩ := mem_map.mp hin
          exact mem_append_right _ (eq_of_uuid hd (mem_of_mem_batch hr').1 hr heq ▸ hr')
      · push Not at hbelow
        obtain ⟨w, hw, hwlt⟩ := hbelow
        exact mem_append_left _ (h.complete w hw r hr hwlt)
  bounded := by
    intro w hw
    rcases foldl_newer hw with hold | ⟨q, hq, rfl⟩
    · exact h.bounded w hold
    · have hqolder : q.createdAt < cutoff * 1000 := by simpa [older] using (mem_of_mem_batch hq).2
      have := toDate_le q.createdAt
      omega

/-- **So does the loop**, and what was archived stays. -/
theorem PassOk.loop (h : PassOk audit_log bound p) (hd : (uuids audit_log).Nodup)
    (hbound : cutoff * 1000 ≤ bound) (left i : Nat) :
    PassOk audit_log bound (archiveBatches ties limit audit_log cutoff left i p) ∧
      p.archive ⊆ (archiveBatches ties limit audit_log cutoff left i p).archive := by
  induction left generalizing i p with
  | zero => exact ⟨h, List.Subset.refl _⟩
  | succ left ih =>
    rw [archiveBatches]
    have hadd : PassOk audit_log bound (p.add (batch (ties i) limit audit_log cutoff p)) :=
      h.add hd hbound
    split
    · exact ⟨hadd, subset_append_left _ _⟩
    · obtain ⟨hok, hsub⟩ := ih hadd (i + 1)
      exact ⟨hok, fun r hr => hsub (mem_append_left _ hr)⟩

end Loop

/-- What a step of retention keeps. -/
structure Inv (s : State) : Prop where
  distinct : (uuids s.audit_log).Nodup
  copies : s.archive ⊆ s.audit_log
  complete : Complete s
  bounded : ∀ w ∈ s.watermark, ∃ now ∈ s.clock, w * 1000 ≤ (now - DAY_MS) * 1000

theorem inv_init (contents : Contents) : Inv (init contents) where
  distinct := contents.distinct
  copies _ hr := by cases hr
  complete _ hw := by cases hw
  bounded _ hw := by cases hw

theorem cutoff_le (p : Run) : p.cutoff ≤ p.now - DAY_MS := by
  have hdays : 1 ≤ effectiveRetentionDays p.days := by
    unfold effectiveRetentionDays
    split
    · split <;> omega
    · omega
  simp only [Run.cutoff, retentionCutoff, DAY_MS]
  omega

theorem limit_pos (p : Run) : 0 < p.limit := by
  unfold Run.limit batchSize
  split
  · split <;> omega
  · omega

theorem maxBatches_pos (raw : Option Int) : 0 < maxBatches raw := by
  unfold maxBatches
  split
  · split <;> omega
  · omega

theorem uuids_append (rows : List AuditRow) (r : AuditRow) :
    uuids (rows ++ [r]) = uuids rows ++ [r.uuid] := map_append ..

theorem uuids_nodup_append {rows : List AuditRow} {r : AuditRow} (h : (uuids rows).Nodup)
    (hfresh : Fresh rows r.uuid) : (uuids (rows ++ [r])).Nodup := by
  rw [uuids_append]
  exact nodup_append.mpr ⟨h, nodup_singleton _, fun a ha b hb heq => by
    rw [mem_singleton.mp hb] at heq
    exact hfresh (heq ▸ ha)⟩

section Steps

variable {s : State} {p : Run}

/-- A row that is written later is stamped after every watermark. -/
theorem Inv.after (h : Inv s) {createdAt : Int} (hstamped : Stamped s.clock createdAt) :
    ∀ w ∈ s.watermark, w * 1000 ≤ createdAt := by
  intro w hw
  obtain ⟨now, hnow, hle⟩ := h.bounded w hw
  exact hle.trans (hstamped now hnow)

theorem Inv.insert (h : Inv s) {row : AuditRow} (hfresh : Fresh s.audit_log row.uuid)
    (hstamped : Stamped s.clock row.createdAt) :
    Inv { s with audit_log := s.audit_log ++ [row] } where
  distinct := uuids_nodup_append h.distinct hfresh
  copies := fun _ hr => mem_append_left _ (h.copies hr)
  complete := by
    intro w hw r hr hlt
    rcases mem_append.mp hr with hr | hr
    · exact h.complete w hw r hr hlt
    · rw [mem_singleton.mp hr] at hlt
      exact absurd (h.after hstamped w hw) (not_le_of_gt hlt)
  bounded := h.bounded

/-- What a run starts from. -/
theorem Inv.start (h : Inv s) (hclock : ∀ now ∈ s.clock, now ≤ p.now) :
    PassOk s.audit_log ((p.now - DAY_MS) * 1000) ⟨s.archive, s.watermark, 0⟩ where
  __ := h
  bounded := by
    intro w hw
    obtain ⟨now, hnow, hle⟩ := h.bounded w hw
    have := hclock now hnow
    omega

theorem Inv.pass (h : Inv s) (hclock : ∀ now ∈ s.clock, now ≤ p.now) :
    PassOk s.audit_log ((p.now - DAY_MS) * 1000) (archiveCopyOnly p s) ∧
      s.archive ⊆ (archiveCopyOnly p s).archive := by
  have hbound : p.cutoff * 1000 ≤ (p.now - DAY_MS) * 1000 := by
    have := cutoff_le p
    omega
  exact (h.start hclock).loop h.distinct hbound _ 0

/-- The watermark that a run leaves is the one it found or the newest time it saw. -/
theorem watermark_recorded {newest : Option Int} {retention : Option RetentionState} {start : Int}
    {archived : Nat} {w : Int}
    (h : w ∈ (recordState start archived (updateWatermark newest retention)).bind
      RetentionState.watermark) :
    w ∈ newest ∨ w ∈ retention.bind RetentionState.watermark := by
  cases retention with
  | none => cases h
  | some row =>
    cases newest with
    | none => exact .inr h
    | some v =>
      simp only [updateWatermark, Option.map_some, recordState] at h
      split at h
      · exact .inl h
      · exact .inr h

/-- **A run keeps the invariant.** -/
theorem Inv.run (h : Inv s) (env : AuditChain.Setting) (hfresh : Fresh s.audit_log p.uuid)
    (hstamped : Stamped (some p.now) p.start) (hclock : ∀ now ∈ s.clock, now ≤ p.now) :
    Inv (applyPolicy env p s) := by
  obtain ⟨hpass, hsub⟩ := h.pass hclock
  have hstart : (p.now - DAY_MS) * 1000 ≤ p.start := hstamped p.now rfl
  have hbounded : ∀ w ∈ (applyPolicy env p s).watermark, w * 1000 ≤ (p.now - DAY_MS) * 1000 := by
    intro w hw
    rcases watermark_recorded hw with hw | hw
    · exact hpass.bounded w hw
    · exact (h.start hclock).bounded w hw
  refine ⟨uuids_nodup_append h.distinct hfresh, fun r hr => ?_, fun w hw r hr hlt => ?_, fun w hw =>
    ⟨p.now, rfl, hbounded w hw⟩⟩
  · exact mem_append_left _ (hpass.copies hr)
  · rcases mem_append.mp hr with hr | hr
    · rcases watermark_recorded hw with hw | hw
      · exact hpass.complete w hw r hr hlt
      · exact hsub (h.complete w hw r hr hlt)
    · -- the run's own row is younger than any watermark
      rw [mem_singleton.mp hr] at hlt
      have := hbounded w hw
      change p.start < w * 1000 at hlt
      omega

theorem inv_step (env : AuditChain.Setting) {s' : State} {a : Action} (h : Inv s)
    (hs : step env s a = some s') : Inv s' := by
  cases a with
  | insert row =>
    rw [step] at hs
    split at hs
    · rename_i hrow
      cases hs
      exact h.insert hrow.1 hrow.2
    · cases hs
  | run p ack =>
    rw [step] at hs
    split at hs
    · rename_i hrun
      obtain ⟨hfresh, hstamped, hclock⟩ := hrun
      cases hs
      split
      · exact h.run env hfresh hstamped hclock
      · refine ⟨h.distinct, h.copies, h.complete, fun w hw => ⟨p.now, rfl, ?_⟩⟩
        exact (h.start hclock).bounded w hw
    · cases hs

/-! ## What is counted -/

/-- How many rows the tenant is told have been archived. -/
def State.totalArchived (s : State) : Nat := s.retention.elim 0 RetentionState.totalArchived

/-- The archive has no row twice, and as many as have been counted. -/
def Counted (archive : List AuditRow) (total : Nat) : Prop :=
  (uuids archive).Nodup ∧ archive.length = total

section Counting

variable {rows : List AuditRow} {p : Pass} {s' : State}

theorem inserted_nodup {archive : List String} (h : archive.Nodup) :
    (archive ++ uuids (inserted archive rows)).Nodup := by
  induction rows generalizing archive with
  | nil => rwa [inserted, uuids, map_nil, append_nil]
  | cons r rest ih =>
    rw [inserted]
    split
    · exact ih h
    · next hr => exact nodup_middle.mpr (ih (nodup_cons.mpr ⟨hr, h⟩))

theorem Counted.loop {ties : Nat → AuditRow → Nat} {limit n : Nat} {audit_log : List AuditRow}
    {cutoff : Int} (h : Counted p.archive (n + p.archived)) (left i : Nat) :
    let q := archiveBatches ties limit audit_log cutoff left i p
    Counted q.archive (n + q.archived) := by
  induction left generalizing i p with
  | zero => exact h
  | succ left ih =>
    have hadd : Counted (p.add (batch (ties i) limit audit_log cutoff p)).archive
        (n + (p.add (batch (ties i) limit audit_log cutoff p)).archived) := by
      refine ⟨?_, ?_⟩
      · rw [uuids, Pass.add, map_append]
        exact inserted_nodup h.1
      · rw [Pass.add, length_append, h.2, Nat.add_assoc]
    simp only [archiveBatches]
    split
    · exact hadd
    · exact ih hadd (i + 1)

theorem Counted.step {env : AuditChain.Setting} {a : Action}
    (h : Counted s.archive s.totalArchived) (hs : step env s a = some s') :
    Counted s'.archive s'.totalArchived := by
  cases a with
  | insert row =>
    rw [Retention.step] at hs
    split at hs <;> cases hs
    exact h
  | run p ack =>
    rw [Retention.step] at hs
    split at hs <;> cases hs
    split
    · have hloop : Counted (archiveCopyOnly p s).archive
          (s.totalArchived + (archiveCopyOnly p s).archived) :=
        Counted.loop (p := ⟨s.archive, s.watermark, 0⟩) h ..
      have htotal : (applyPolicy env p s).totalArchived =
          s.totalArchived + (archiveCopyOnly p s).archived := by
        rw [State.totalArchived, State.totalArchived, applyPolicy]
        cases hretention : s.retention with
        | none => simp [updateWatermark, recordState]
        | some row =>
          cases hnewest : (archiveCopyOnly p s).newest with
          | none => rfl
          | some w =>
            simp only [updateWatermark, Option.map_some]
            split <;> rfl
      exact htotal ▸ hloop
    · exact h

end Counting

section Reading

variable {α : Type} {f : α → Bool} {rows : List α} {limit : Nat}

theorem take_of_le_takeWhile (h : limit ≤ (rows.takeWhile f).length) :
    ∀ x ∈ rows.take limit, f x = true := by
  intro x hx
  rw [← takeWhile_append_dropWhile (p := f) (l := rows), take_append_of_le_length h] at hx
  exact mem_takeWhile_imp (mem_of_mem_take hx)

theorem exists_mem_take (h : (rows.takeWhile f).length < limit) (hex : ∃ x ∈ rows, f x = false) :
    ∃ x ∈ rows.take limit, f x = false := by
  induction rows generalizing limit with
  | nil =>
    obtain ⟨x, hx, -⟩ := hex
    cases hx
  | cons y rest ih =>
    obtain ⟨k, rfl⟩ := Nat.exists_eq_succ_of_ne_zero (Nat.ne_zero_of_lt h)
    rw [take_succ_cons]
    cases hy : f y with
    | false => exact ⟨y, mem_cons_self .., hy⟩
    | true =>
      rw [takeWhile_cons_of_pos hy, length_cons, Nat.succ_lt_succ_iff] at h
      obtain ⟨x, hx, hfx⟩ := hex
      rcases mem_cons.mp hx with rfl | hx
      · rw [hy] at hfx
        cases hfx
      · obtain ⟨z, hz, hfz⟩ := ih h ⟨x, hx, hfx⟩
        exact ⟨z, mem_cons_of_mem _ hz, hfz⟩

end Reading

/-- The rows a run reads first. -/
def firstCandidates (s : State) (p : Run) : List AuditRow :=
  candidates (p.ties 0) s.audit_log p.cutoff s.watermark

/-- The rows it inserts first. -/
def firstBatch (s : State) (p : Run) : List AuditRow :=
  batch (p.ties 0) p.limit s.audit_log p.cutoff ⟨s.archive, s.watermark, 0⟩

/-- A run whose first batch inserts nothing leaves the archive as it is. -/
theorem archive_of_nil (h : firstBatch s p = []) : (archiveCopyOnly p s).archive = s.archive := by
  obtain ⟨m, hm⟩ := Nat.exists_eq_succ_of_ne_zero (Nat.ne_zero_of_lt (maxBatches_pos p.batches))
  have hshort : (firstBatch s p).length < p.limit := by
    rw [h]
    exact limit_pos p
  rw [archiveCopyOnly, hm, archiveBatches]
  change (if (firstBatch s p).length < p.limit then Pass.add _ (firstBatch s p) else _ : Pass).archive = _
  rw [if_pos hshort, h]
  exact append_nil _

/-- What the first batch inserts is in the archive at the end. -/
theorem Inv.first_archived (h : Inv s) (hclock : ∀ now ∈ s.clock, now ≤ p.now) :
    firstBatch s p ⊆ (archiveCopyOnly p s).archive := by
  have hbound : p.cutoff * 1000 ≤ (p.now - DAY_MS) * 1000 := by
    have := cutoff_le p
    omega
  obtain ⟨m, hm⟩ := Nat.exists_eq_succ_of_ne_zero (Nat.ne_zero_of_lt (maxBatches_pos p.batches))
  have hadd : PassOk s.audit_log ((p.now - DAY_MS) * 1000)
      (Pass.add ⟨s.archive, s.watermark, 0⟩ (firstBatch s p)) := (h.start hclock).add h.distinct hbound
  rw [archiveCopyOnly, hm, archiveBatches]
  split
  · exact subset_append_right _ _
  · exact fun r hr => (hadd.loop h.distinct hbound m 1).2 (mem_append_right _ hr)

/-- A row that waits is one the first batch may read. -/
theorem Inv.waiting (h : Inv s) {r : AuditRow} (hr : Waiting s p r) : r ∈ firstCandidates s p := by
  obtain ⟨hmem, holder, hnot⟩ := hr
  refine mem_candidates.mpr ⟨hmem, holder, fun w hw => ?_⟩
  by_contra hlt
  exact hnot (h.complete w hw r hmem (not_le.mp hlt))

/-- **When a run gets on.** -/
theorem Inv.progress_iff (h : Inv s) (env : AuditChain.Setting)
    (hstamped : Stamped (some p.now) p.start) (hclock : ∀ now ∈ s.clock, now ≤ p.now) :
    Progress s (applyPolicy env p s) p ↔ Roomy s p := by
  constructor
  · rintro hprogress ⟨r, hr⟩
    by_contra hfull
    -- the first batch is of rows that are archived, so the run changes nothing
    have hread := take_of_le_takeWhile (not_lt.mp hfull)
    have hnil : firstBatch s p = [] := by
      refine inserted_eq_nil fun q hq => mem_map_of_mem ?_
      exact of_decide_eq_true (hread q hq)
    have hsame : (applyPolicy env p s).archive = s.archive := archive_of_nil hnil
    rcases hprogress with ⟨q, hq, hin⟩ | hnone
    · rw [hsame] at hin
      exact hq.2.2 hin
    · refine hnone r ⟨mem_append_left _ hr.1, hr.2.1, ?_⟩
      rw [hsame]
      exact hr.2.2
  · intro hroomy
    by_cases hex : ∃ r, Waiting s p r
    · obtain ⟨r, hr⟩ := hex
      obtain ⟨q, hq, hnot⟩ := exists_mem_take (hroomy ⟨r, hr⟩)
        ⟨r, h.waiting hr, decide_eq_false hr.2.2⟩
      have hqmem := mem_candidates.mp (mem_of_mem_take hq)
      have hqnot : q ∉ s.archive := of_decide_eq_false hnot
      refine .inl ⟨q, ⟨hqmem.1, hqmem.2.1, hqnot⟩, h.first_archived hclock ?_⟩
      rcases inserted_covers (uuids s.archive) hq with hin | hin
      · exact absurd (((h.start hclock).uuid_mem h.distinct hqmem.1).mp hin) hqnot
      · obtain ⟨q', hq', heq⟩ := mem_map.mp hin
        change q' ∈ firstBatch s p at hq'
        exact eq_of_uuid h.distinct (mem_of_mem_batch hq').1 hqmem.1 heq ▸ hq'
    · refine .inr fun r hr => ?_
      obtain ⟨hmem, holder, hnot⟩ := hr
      rcases mem_append.mp hmem with hmem | hmem
      · exact hex ⟨r, hmem, holder, fun hin => hnot ((h.pass hclock).2 hin)⟩
      · -- the run's own row is younger than the cutoff
        rw [mem_singleton.mp hmem] at holder
        have hlt : p.start < p.cutoff * 1000 := of_decide_eq_true holder
        have hstart : (p.now - DAY_MS) * 1000 ≤ p.start := hstamped p.now rfl
        have := cutoff_le p
        omega

end Steps

/-- **Archiving**: in every state that runs of retention and writing of rows lead to, nothing below
the watermark is missing from the archive, and the next run copies a row or leaves none waiting if
and only if its first batch has room. -/
theorem archiving_progresses_iff (env : AuditChain.Setting) (contents : Contents)
    (actions : List Action) (s : State)
    (hrun : (retaining env).run (init contents) actions = some s) :
    Complete s ∧ ∀ p s', step env s (.run p .ok) = some s' → (Progress s s' p ↔ Roomy s p) := by
  have hinv : Inv s := (retaining env).invariant_run (fun _ _ _ hi hs => inv_step env hi hs)
    (inv_init contents) hrun
  refine ⟨hinv.complete, fun p s' hs => ?_⟩
  rw [step] at hs
  split at hs
  · rename_i hp
    obtain rfl := Option.some.inj hs
    exact hinv.progress_iff env hp.2.1 hp.2.2
  · cases hs

/-! ### A first run, and a second that stalls -/

/-- A sign-in, at a time in microseconds. -/
def signIn (id : Nat) (uuid : String) (createdAt : Int) : AuditRow :=
  newRow (AuditChain.signedIn uuid "ann") id createdAt

/-- Two rows of one millisecond. -/
def twoRows : Contents where
  rows := [signIn 1 "a" 1000100, signIn 2 "b" 1000200]
  distinct := by decide

/-- A run two years later, with batches of one row, and one batch. -/
def nightly (uuid : String) (night : Int) : Run where
  tenantId := 1
  userId := "system"
  now := 63072000000 + night * DAY_MS
  days := none
  size := some 1
  batches := some 1
  ties := fun _ r => r.id
  start := (63072000000 + night * DAY_MS) * 1000
  id := 10 + night.toNat
  uuid := uuid

theorem archiving_progresses_iff_twoRows :
    ∃ s, (retaining ⟨fun text => text⟩).run (init twoRows) [.run (nightly "r0" 0) .ok] = some s ∧
      Complete s ∧ ∀ p s', step ⟨fun text => text⟩ s (.run p .ok) = some s' →
        (Progress s s' p ↔ Roomy s p) :=
  ⟨_, rfl, archiving_progresses_iff ⟨fun text => text⟩ twoRows [.run (nightly "r0" 0) .ok] _ rfl⟩

/-- **Archiving stalls.**  The first run copies one row, and finds no row to keep its watermark in.
The second reads that row again, which is a short batch, and the other row stays behind. -/
theorem archiving_stalls :
    ∃ s s', (retaining ⟨fun text => text⟩).run (init twoRows) [.run (nightly "r0" 0) .ok] = some s ∧
      step ⟨fun text => text⟩ s (.run (nightly "r1" 1) .ok) = some s' ∧
      ¬ Progress s s' (nightly "r1" 1) := by
  refine ⟨_, _, rfl, rfl, ?_⟩
  rintro (⟨r, hr, hin⟩ | hnone)
  · exact hr.2.2 hin
  · exact hnone (signIn 2 "b" 1000200) ⟨by decide +kernel, by decide +kernel, by decide +kernel⟩

end Jkannel.DataModel.Retention

