import Jkannel.Engine.Paging
import Jkannel.Messaging.DlrForward

/-!
# Receipts are forwarded once

What forwarding keeps up in every orderly run: `receipts_forwarded`.

* `candidates_mem` and `candidates_of_newest` are what a sweep reads: rows of the log, and every
  receipt among the newest 200 of the window.
* `Inv` is the invariant.  An attempt that is not delivered has at most one job that can run, and a
  worker that has read it is on that job alone; so nobody else can call, or write what it read.
* `Inv.turn` is a step of a worker, `Inv.statement` one of the queue, `Inv.creates` a new job, and
  `Inv.claim` a sweep's transaction.
* `receipts_go_astray` are the runs that break the promise.
-/

namespace Jkannel.Messaging.Dlr

open Option (bind_some map_eq_some_iff some.inj)
open List
open Function (update update_self update_of_ne)
open Engine (SqlboxRow ClassifiedRow)
open Platform (JobRow Grip Holds updateJob onOf)
open Transition (Ack)
open Execution (grip)
open Updates (update_eq_some)
open Engine (selectList classify orderBy filters)
open Platform (live_of_running updateJob_eq_none updateJob_self updateJob_of_ne live_of_queued
  insert_spec exhausted completeJob_spec reportProgress_spec)

/-! ## What a sweep reads -/

section Candidates

variable {env : Setting} {log : List LogRow} {now : Int} {r : LogRow}

/-- What a sweep asks of the log. -/
def sweepOptions (now : Int) : Engine.SqlboxListOptions where
  direction := some "DLR"
  fromEpoch := some (now - SWEEP_LOOKBACK_SECONDS)
  limit := some 200

/-- The receipts of the window, as the log has them. -/
def windowRows (log : List LogRow) (now : Int) : List SqlboxRow :=
  (log.map LogRow.row).filter fun r =>
    r.momt = some "DLR" && r.time.any (now - SWEEP_LOOKBACK_SECONDS ≤ ·)

theorem selectList_sweep :
    selectList env.text (log.map LogRow.row) (sweepOptions now) [] none =
      ((windowRows log now).map (classify false (log.map LogRow.row))).insertionSort
        (orderBy env.text [] · ·) := by
  have hwhere : Engine.whereAll (filters env.text (sweepOptions now)) (log.map LogRow.row) =
      windowRows log now := by
    refine filter_congr fun r _ => ?_
    simp [sweepOptions, filters, Engine.clause, Engine.cursorClause, Engine.queryClause,
      Engine.legacyStatusClause, Text.truthy]
  rw [selectList, hwhere]
  rfl

theorem receipts_eq :
    receipts env log now = (((windowRows log now).map
      (classify false (log.map LogRow.row))).insertionSort
        (orderBy env.text [] · ·)).take 200 := by
  have hparse : Engine.parseSqlboxSort (sweepOptions now).sort = .ok [] := rfl
  have hstatus : Engine.resolveDeliveryStatuses env.text
      (Engine.statusExpr (sweepOptions now)) = .ok none := rfl
  have hlist := Engine.list_keyset (log.map LogRow.row) hparse rfl rfl hstatus
  rw [selectList_sweep] at hlist
  rw [receipts, ← sweepOptions, hlist]
  rfl

theorem receipts_mem {item : ClassifiedRow} (h : item ∈ receipts env log now) :
    ∃ r ∈ log, r.row = item.row := by
  rw [receipts_eq] at h
  have hmem := (perm_insertionSort _ _).mem_iff.mp (mem_of_mem_take h)
  obtain ⟨m, hm, rfl⟩ := mem_map.mp hmem
  obtain ⟨r, hr, rfl⟩ := mem_map.mp (mem_filter.mp hm).1
  exact ⟨r, hr, rfl⟩

/-- A sweep finds rows of the log. -/
theorem candidates_mem {c : Candidate} (h : c ∈ candidates env log now) :
    ∃ r ∈ log, r.row.sqlId = c.sqlId := by
  obtain ⟨item, hitem, hc⟩ := mem_filterMap.mp h
  obtain ⟨url, -, rfl⟩ := map_eq_some_iff.mp hc
  obtain ⟨r, hr, hrow⟩ := receipts_mem hitem
  exact ⟨r, hr, by rw [hrow]⟩

/-- What the log may rely on the engine for: its key. -/
structure Keyed (log : List LogRow) : Prop where
  distinct : (log.map fun r => r.row.sqlId).Nodup
  serial : ∀ r ∈ log, 0 < r.row.sqlId

/-- A sweep finds every receipt among the newest. -/
theorem receipts_of_newest (env : Setting) (hkey : Keyed log) (hr : r ∈ log)
    (hwindow : inWindow now r = true) (hnewest : Newest now log r) :
    ∃ item ∈ receipts env log now, item.row = r.row := by
  have hpos := hkey.serial r hr
  have hin : r.row ∈ windowRows log now := by
    refine mem_filter.mpr ⟨mem_map_of_mem hr, ?_⟩
    simp only [inWindow, Bool.and_eq_true] at hwindow
    simpa using hwindow.1
  have hkeys : (((windowRows log now).map (classify false (log.map LogRow.row))).map
      ClassifiedRow.key).Nodup := by
    have hrows : ((windowRows log now).map SqlboxRow.sqlId).Nodup := by
      refine List.Nodup.sublist (filter_sublist.map _) ?_
      rw [map_map]
      exact hkey.distinct
    rwa [map_map]
  have horder : ∀ a b, orderBy env.text [] a b = true ↔ b.key ≤ a.key := fun a b =>
    Engine.orderBy_default rfl a b
  have hdesc := Keyset.descending_insertionSort horder hkeys
  have hperm := perm_insertionSort (orderBy env.text [] · ·)
    ((windowRows log now).map (classify false (log.map LogRow.row)))
  have hsize : ((((windowRows log now).map (classify false (log.map
      LogRow.row))).insertionSort (orderBy env.text [] · ·)).filter
        fun x => decide (r.row.sqlId - 1 < x.key)).length ≤ 200 := by
    refine Nat.le_trans (Nat.le_of_eq ?_) hnewest
    rw [(hperm.filter _).length_eq, filter_map, length_map, windowRows, filter_filter,
      filter_map, length_map]
    congr 1
    refine filter_congr fun other _ => ?_
    have hmark : (r.row.sqlId - 1 < other.row.sqlId) ↔ r.row.sqlId ≤ other.row.sqlId := by omega
    simp only [Function.comp_apply, ClassifiedRow.key, Engine.classify_row, hmark, Bool.and_comm]
  have htake := hdesc.filter_above_take hsize
  refine ⟨classify false (log.map LogRow.row) r.row, ?_, rfl⟩
  have hmem : classify false (log.map LogRow.row) r.row ∈
      (((windowRows log now).map (classify false (log.map LogRow.row))).insertionSort
        (orderBy env.text [] · ·)).filter fun x => decide (r.row.sqlId - 1 < x.key) := by
    refine mem_filter.mpr ⟨hperm.mem_iff.mpr (mem_map_of_mem hin), ?_⟩
    exact decide_eq_true (Nat.sub_lt hpos Nat.one_pos)
  rw [← htake] at hmem
  rw [receipts_eq]
  exact (mem_filter.mp hmem).1

/-- The URL that the log has on a row is the row's. -/
theorem urlOn_eq (hkey : Keyed log) (hr : r ∈ log) :
    urlOn log r.row.sqlId = Text.truthy r.dlrUrl := by
  have hfind : log.find? (fun other => other.row.sqlId = r.row.sqlId) = some r := by
    induction log with
    | nil => cases hr
    | cons x log ih =>
      obtain ⟨hhead, htail⟩ := nodup_cons.mp hkey.distinct
      rcases mem_cons.mp hr with rfl | hr'
      · rw [find?_cons_of_pos (by simp)]
      · have hne : x.row.sqlId ≠ r.row.sqlId := fun heq =>
          hhead (mem_map.mpr ⟨r, hr', heq.symm⟩)
        rw [find?_cons_of_neg (by simpa using hne)]
        exact ih ⟨htail, fun y hy => hkey.serial y (mem_cons_of_mem _ hy)⟩ hr'
  rw [urlOn, hfind, bind_some]

/-- A sweep finds every receipt with a URL that is among the newest of the window. -/
theorem candidates_of_newest (hkey : Keyed log) (hr : r ∈ log)
    (hwindow : inWindow now r = true) (hnewest : Newest now log r) :
    ∃ c ∈ candidates env log now, c.sqlId = r.row.sqlId := by
  obtain ⟨item, hitem, hrow⟩ := receipts_of_newest env hkey hr hwindow hnewest
  have hurl : (Text.truthy r.dlrUrl).isSome = true := by
    simp only [inWindow, Bool.and_eq_true] at hwindow
    exact hwindow.2
  obtain ⟨url, hurl⟩ := Option.isSome_iff_exists.mp hurl
  refine ⟨⟨item.row.sqlId, url, item.row.dlrMask.getD 0⟩, mem_filterMap.mpr
    ⟨item, hitem, ?_⟩, by rw [hrow]⟩
  rw [hrow, urlOn_eq hkey hr, hurl, Option.map_some]

end Candidates

/-! ## The invariant

A receipt has one attempt; one that is not terminal has a live job, or a sweep that is about to
insert it. -/

/-- A worker has read an attempt, and has not written what became of it. -/
def Hand.engaged : Hand → Bool
  | .found _ | .closing _ _ _ | .calling _ _ _ | .answered _ _ _ _ | .recording _ => true
  | _ => false

/-- The attempt as a worker has read it. -/
def Hand.record : Hand → Option AttemptRow
  | .found record | .calling record _ _ | .answered record _ _ _ => some record
  | _ => none

/-- What a worker on an attempt may rely on: it has not been delivered, and its receipt has not
been answered with success, unless that is the answer the worker holds. -/
def Engaged (s : State) (x : Execution) : Prop :=
  ∃ (i : Nat) (a : AttemptRow), s.subject x.id = some i ∧ s.attempts[i]? = some a ∧
    a.status ≠ .delivered ∧
    (∀ record, x.hand.record = some record → record.engineSqlId = a.engineSqlId) ∧
    (a.engineSqlId ∈ s.succeeded → x.hand.won = true)

/-- What a step of the forwards keeps. -/
structure Inv (env : Setting) (s : State) : Prop where
  written : Keyed s.written
  right : ∀ a ∈ s.attempts, ∃ r ∈ s.written, r.row.sqlId = a.engineSqlId ∧
    r.row.smscId.bind env.tenantOf = some a.tenant
  once : ∀ (i j : Nat) (a b : AttemptRow), s.attempts[i]? = some a → s.attempts[j]? = some b →
    a.engineSqlId = b.engineSqlId → i = j
  owned : ∀ tenant sqlId, (tenant, sqlId) ∈ s.due → owns s.attempts tenant sqlId = true
  /-- What a sweep has found is its tenant's, and all its tenant does not have yet. -/
  found : ∀ p tenant found window, s.sweep p = some (.listed tenant found window) →
    (∀ c ∈ found, ∃ r ∈ s.written, r.row.sqlId = c.sqlId ∧
      r.row.smscId.bind env.tenantOf = some tenant) ∧
    ∀ r ∈ window, r.row.smscId.bind env.tenantOf = some tenant →
      owns s.attempts tenant r.row.sqlId = true ∨ ∃ c ∈ found, c.sqlId = r.row.sqlId
  fresh : ∀ n, s.next ≤ n → s.job n = none ∧ s.subject n = none
  subject : ∀ n i, s.subject n = some i → i < s.attempts.length
  keys : ∀ i n, s.keyed i = some n → s.subject n = some i
  /-- What waits for its job has none, and no other sweep has it. -/
  waiting : ∀ p tenant ids, s.sweep p = some (.enqueuing tenant ids) → ids.Nodup ∧
    ∀ i ∈ ids, (∃ a : AttemptRow, s.attempts[i]? = some a ∧ a.status ≠ .delivered) ∧
      ∀ n, s.subject n ≠ some i
  apart : ∀ p q tenant tenant' ids ids' i, s.sweep p = some (.enqueuing tenant ids) →
    s.sweep q = some (.enqueuing tenant' ids') → i ∈ ids → i ∈ ids' → p = q
  holds : Holds s.job (onOf grip s.execution)
  unique : ∀ (i : Nat) (a : AttemptRow) n m, s.attempts[i]? = some a → a.status ≠ .delivered →
    LiveJob s n i → LiveJob s m i → n = m
  live : ∀ (i : Nat) (a : AttemptRow), s.attempts[i]? = some a → a.status.terminal = false →
    (∃ n, LiveJob s n i) ∨ Enqueuing s i
  engaged : ∀ w x, s.execution w = some x → x.hand.engaged = true → Engaged s x
  returned : ∀ w x result, s.execution w = some x → x.hand = .returned result →
    ∀ (i : Nat) (a : AttemptRow), s.subject x.id = some i → s.attempts[i]? = some a →
      a.status = .delivered
  /-- A success is recorded, or in the hands of the worker that is about to record it. -/
  settled : ∀ (i : Nat) (a : AttemptRow), s.attempts[i]? = some a → a.engineSqlId ∈ s.succeeded →
    a.status = .delivered ∨ ∃ w x, s.execution w = some x ∧ x.hand.won = true ∧
      s.subject x.id = some i
  known : ∀ e ∈ s.succeeded, ∃ a ∈ s.attempts, a.engineSqlId = e
  quiet : s.repeated = []

theorem inv_init (env : Setting) : Inv env init where
  written := ⟨nodup_nil, fun _ h => by cases h⟩
  right := fun _ h => by cases h
  once := fun _ _ _ _ h => by cases h
  owned := fun _ _ h => by cases h
  found := fun _ _ _ _ h => by cases h
  fresh := fun _ _ => ⟨rfl, rfl⟩
  subject := fun _ _ h => by cases h
  keys := fun _ _ h => by cases h
  waiting := fun _ _ _ h => by cases h
  apart := fun _ _ _ _ _ _ _ h => by cases h
  holds := Holds.empty
  unique := fun _ _ _ _ h => by cases h
  live := fun _ _ h => by cases h
  engaged := fun _ _ h => by cases h
  returned := fun _ _ _ h => by cases h
  settled := fun _ _ h => by cases h
  known := fun _ h => by cases h
  quiet := rfl

/-- The promise, from the invariant. -/
theorem Inv.forwarded {env : Setting} {s : State} (h : Inv env s) : Forwarded env s where
  __ := h

section Steps

variable {env : Setting} {s : State}

theorem Hand.grip_of_engaged {hand : Hand} (h : hand.engaged = true) :
    hand.grip = some .running := by
  cases hand <;> first | rfl | cases h

theorem Hand.engaged_of_won {hand : Hand} (h : hand.won = true) : hand.engaged = true := by
  cases hand <;> first | rfl | cases h

variable {w i n tenant sqlId p : Nat} {x : Execution} {row' row job : JobRow} {a : AttemptRow}
  {attempts : List AttemptRow} {f : AttemptRow → AttemptRow} {ids : List Nat}

/-- The job of a worker that is on an attempt is running. -/
theorem Inv.liveJob (h : Inv env s) (hx : s.execution w = some x) (hengaged : x.hand.engaged = true)
    (hsubject : s.subject x.id = some i) : LiveJob s x.id i := by
  have hgrip : x.grip = some (x.id, .running) := by
    rw [grip, Hand.grip_of_engaged hengaged]
    rfl
  obtain ⟨row, hrow, -, hrunning⟩ := h.holds.held w x.id .running
    (Platform.onOf_eq.mpr ⟨x, hx, hgrip⟩)
  exact ⟨hsubject, row, hrow, live_of_running (hrunning rfl)⟩

/-- **Two workers are not on one attempt.** -/
theorem Inv.alone (h : Inv env s) {v : Nat} {y : Execution} (hx : s.execution w = some x)
    (hy : s.execution v = some y) (hxe : x.hand.engaged = true) (hye : y.hand.engaged = true)
    (hxi : s.subject x.id = some i) (hyi : s.subject y.id = some i) : w = v := by
  obtain ⟨j, a, hj, ha, hstatus, -⟩ := h.engaged w x hx hxe
  obtain rfl := some.inj (hj.symm.trans hxi)
  have hsame : x.id = y.id := h.unique j a _ _ ha hstatus (h.liveJob hx hxe hxi)
    (h.liveJob hy hye hyi)
  refine h.holds.alone w v x.id .running .running (Platform.onOf_eq.mpr ⟨x, hx, ?_⟩)
    (Platform.onOf_eq.mpr ⟨y, hy, ?_⟩)
  · rw [grip, Hand.grip_of_engaged hxe]
    rfl
  · rw [grip, Hand.grip_of_engaged hye, hsame]
    rfl

/-! ### The queue

These steps move rows of the queue only: what they have to show is that no job comes back to
life. -/

/-- **The queue moves on**: a job that could not run cannot afterwards, one that could can unless its
attempt is terminal, and no worker comes to be on an attempt. -/
theorem Inv.queue (h : Inv env s) {job : Nat → Option JobRow}
    {execution : Nat → Option Execution} (hholds : Holds job (onOf grip execution))
    (hback : ∀ n row', job n = some row' → row'.live = true →
      ∃ row, s.job n = some row ∧ row.live = true)
    (hkept : ∀ n row, s.job n = some row → row.live = true →
      (∃ row', job n = some row' ∧ row'.live = true) ∨ Settled s n)
    (hnone : ∀ n, s.job n = none → job n = none)
    (hexecution : ∀ w x, execution w = some x → s.execution w = some x ∨
      (x.hand.engaged = false ∧ ∀ result, x.hand ≠ .returned result))
    (hwon : ∀ w x, s.execution w = some x → x.hand.won = true → execution w = some x) :
    Inv env { s with job := job, execution := execution } where
  __ := h
  fresh := fun n hn => ⟨hnone n (h.fresh n hn).1, (h.fresh n hn).2⟩
  holds := hholds
  unique := by
    rintro i a n m ha hstatus ⟨hn, row, hrow, hlive⟩ ⟨hm, row', hrow', hlive'⟩
    exact h.unique i a n m ha hstatus ⟨hn, hback n row hrow hlive⟩ ⟨hm, hback m row' hrow' hlive'⟩
  live := by
    intro i a ha hterminal
    rcases h.live i a ha hterminal with ⟨n, hn, row, hrow, hlive⟩ | hwaiting
    · rcases hkept n row hrow hlive with hrow' | hsettled
      · exact .inl ⟨n, hn, hrow'⟩
      · rw [hsettled i a hn ha] at hterminal
        cases hterminal
    · exact .inr hwaiting
  engaged := by
    intro w x hx hengaged
    rcases hexecution w x hx with hx | ⟨hnot, -⟩
    · exact h.engaged w x hx hengaged
    · rw [hnot] at hengaged
      cases hengaged
  returned := by
    intro w x result hx hhand
    rcases hexecution w x hx with hx | ⟨-, hnot⟩
    · exact h.returned w x result hx hhand
    · exact absurd hhand (hnot result)
  settled := by
    intro i a ha he
    rcases h.settled i a ha he with hdone | ⟨w, x, hx, hw, hi⟩
    · exact .inl hdone
    · exact .inr ⟨w, x, hwon w x hx hw, hw, hi⟩

/-- A job that can run after a statement could before. -/
theorem live_before {job : Nat → Option JobRow} {m : Nat} {f : JobRow → Option JobRow}
    (hf : ∀ row row', f row = some row' → Platform.Statement row row')
    (hrow' : updateJob job n f m = some row') (hlive : row'.live = true) :
    ∃ row, job m = some row ∧ row.live = true := by
  by_cases hm : m = n
  · subst hm
    cases hrow : job m with
    | none =>
      rw [(updateJob_eq_none job m f m).mpr hrow] at hrow'
      cases hrow'
    | some row =>
      rw [updateJob_self f hrow] at hrow'
      refine ⟨row, rfl, ?_⟩
      cases hfrow : f row with
      | none =>
        rw [hfrow] at hrow'
        cases hrow'
        exact hlive
      | some row'' => exact (hf row row'' hfrow).was_live
  · rw [updateJob_of_ne job f hm] at hrow'
    exact ⟨row', hrow', hlive⟩

/-- A job that could run before a statement can afterwards, or it is the one that ended. -/
theorem live_after {m : Nat} {f : JobRow → Option JobRow}
    (hlive : ∀ row row', s.job n = some row → f row = some row' → row'.live = true ∨ Settled s n)
    (hrow : s.job m = some row) (hl : row.live = true) :
    (∃ row', updateJob s.job n f m = some row' ∧ row'.live = true) ∨ Settled s m := by
  by_cases hm : m = n
  · subst hm
    rw [updateJob_self f hrow]
    cases hfrow : f row with
    | none => exact .inl ⟨row, rfl, hl⟩
    | some row' => exact (hlive row row' hrow hfrow).imp_left fun hl' => ⟨row', rfl, hl'⟩
  · exact .inl ⟨row, by rw [updateJob_of_ne s.job f hm]; exact hrow, hl⟩

/-- A statement of the queue on one job. -/
theorem Inv.statement (h : Inv env s) {f : JobRow → Option JobRow}
    (hf : ∀ row row', f row = some row' → Platform.Statement row row')
    (hstatus : ∀ row row', s.job n = some row → f row = some row' →
      row'.status = row.status ∨ ∀ w g, onOf grip s.execution w ≠ some (n, g))
    (hlive : ∀ row row', s.job n = some row → f row = some row' → row'.live = true ∨ Settled s n) :
    Inv env { s with job := updateJob s.job n f } :=
  h.queue (h.holds.updateJob hstatus) (fun _ _ hrow' hl => live_before hf hrow' hl)
    (fun _ _ hrow hl => live_after hlive hrow hl)
    (fun m hm => (updateJob_eq_none s.job n f m).mpr hm) (fun _ _ hx => .inl hx)
    fun _ _ hx _ => hx

/-- A worker claims a job. -/
theorem Inv.claimJob (h : Inv env s) (hw : s.execution w = none) (hrow : s.job n = some row)
    {workerId : String} {now : Int} (hclaim : Platform.claimOn now workerId row = some row') :
    Inv env { s with
      job := update s.job n (some row')
      execution := update s.execution w (some ⟨n, row', .claimed⟩) } := by
  obtain ⟨-, -, hqueued, hrunning⟩ := Platform.claimOn_spec hclaim
  refine h.queue (h.holds.begin ⟨n, row', .claimed⟩ hrow hqueued hrunning rfl) ?_ ?_ ?_ ?_ ?_
  · intro m r hr hlive
    by_cases hm : m = n
    · subst hm
      exact ⟨row, hrow, live_of_queued hqueued⟩
    · rw [update_of_ne hm] at hr
      exact ⟨r, hr, hlive⟩
  · intro m r hr hlive
    refine .inl ?_
    by_cases hm : m = n
    · subst hm
      exact ⟨row', update_self .., live_of_running hrunning⟩
    · exact ⟨r, by rw [update_of_ne hm]; exact hr, hlive⟩
  · intro m hm
    have hne : m ≠ n := by
      rintro rfl
      rw [hrow] at hm
      cases hm
    rw [update_of_ne hne]
    exact hm
  · intro v x hx
    rcases update_eq_some hx with ⟨-, rfl⟩ | ⟨-, hx⟩
    · exact .inr ⟨rfl, fun _ heq => by cases heq⟩
    · exact .inl hx
  · intro v x hx _
    have hv : v ≠ w := by
      rintro rfl
      rw [hw] at hx
      cases hx
    rw [update_of_ne hv]
    exact hx

/-- A worker whose handler is over writes to the queue, and is done or has thrown. -/
theorem Inv.release (h : Inv env s) (hx : s.execution w = some x) (hlate : x.hand.grip = some .late)
    {hand : Hand} (hhand : hand = .ended ∨ ∃ message permanent, hand = .threw message permanent)
    {f : JobRow → Option JobRow} (hf : ∀ row row', f row = some row' → Platform.Statement row row')
    (hqueued : ∀ row row', f row = some row' → hand = .ended ∨ row'.status ≠ .queued)
    (hlive : ∀ row row', s.job x.id = some row → f row = some row' →
      row'.live = true ∨ Settled s x.id) (committed : Bool) :
    Inv env ({ s with job := if committed then updateJob s.job x.id f else s.job }.setHand w x
      hand) := by
  have hgrip : x.grip = some (x.id, .late) := by rw [grip, hlate]; rfl
  have hover : hand.engaged = false ∧ (∀ result, hand ≠ .returned result) ∧
      hand.grip ≠ some .running := by
    rcases hhand with rfl | ⟨message, permanent, rfl⟩
    all_goals exact ⟨rfl, fun _ heq => (by cases heq), fun heq => by cases heq⟩
  obtain ⟨row, hrow, hq, -⟩ := h.holds.held w x.id .late (Platform.onOf_eq.mpr ⟨x, hx, hgrip⟩)
  refine h.queue (h.holds.hand hx hgrip (fun m hm => ?_) fun m g hg => ?_) ?_ ?_ ?_ ?_ ?_
  · split
    · exact updateJob_of_ne s.job f hm
    · rfl
  · obtain ⟨g', hg', heq⟩ := map_eq_some_iff.mp hg
    obtain ⟨rfl, rfl⟩ := Prod.mk.inj heq
    refine ⟨rfl, ?_⟩
    have hrunning : g' ≠ .running := fun hr => hover.2.2 (hr ▸ hg')
    cases committed with
    | false => exact ⟨row, hrow, hq, fun hr => absurd hr hrunning⟩
    | true =>
      refine ⟨_, updateJob_self f hrow, ?_, fun hr => absurd hr hrunning⟩
      cases hfrow : f row with
      | none => exact hq
      | some row' =>
        rcases hqueued row row' hfrow with rfl | hnot
        · cases hg'
        · exact hnot
  · intro m r hr hl
    cases committed with
    | false => exact ⟨r, hr, hl⟩
    | true => exact live_before hf hr hl
  · intro m r hr hl
    cases committed with
    | false => exact .inl ⟨r, hr, hl⟩
    | true => exact live_after hlive hr hl
  · intro m hm
    cases committed with
    | false => exact hm
    | true => exact (updateJob_eq_none s.job x.id f m).mpr hm
  · intro v y hy
    rcases update_eq_some hy with ⟨-, rfl⟩ | ⟨-, hy⟩
    · exact .inr ⟨hover.1, hover.2.1⟩
    · exact .inl hy
  · intro v y hy hwon
    have hv : v ≠ w := by
      rintro rfl
      obtain rfl := some.inj (hx.symm.trans hy)
      rw [Hand.grip_of_engaged (Hand.engaged_of_won hwon)] at hlate
      cases hlate
    rw [update_of_ne hv]
    exact hy

/-! ### Workers -/

/-- What is left of a worker's hold on its job when it goes from one hand to another. -/
theorem Inv.hand (h : Inv env s) (hx : s.execution w = some x) {hand : Hand}
    (hhand : hand = .ended ∨ x.hand.grip = some .running) :
    Holds s.job (onOf grip (update s.execution w (some { x with hand := hand }))) := by
  rcases hhand with rfl | hrunning
  · exact h.holds.letGo _ rfl
  · have hgrip : x.grip = some (x.id, .running) := by rw [grip, hrunning]; rfl
    obtain ⟨row, hrow, hq, hr⟩ := h.holds.held w x.id .running (Platform.onOf_eq.mpr ⟨x, hx, hgrip⟩)
    refine h.holds.hand hx hgrip (fun _ _ => rfl) fun m g hg => ?_
    obtain ⟨g', -, heq⟩ := map_eq_some_iff.mp hg
    obtain ⟨rfl, rfl⟩ := Prod.mk.inj heq
    exact ⟨rfl, row, hrow, hq, fun _ => hr rfl⟩

/-- A worker that is not on an attempt goes on. -/
theorem Inv.moves (h : Inv env s) (hx : s.execution w = some x) (hidle : x.hand.engaged = false)
    {hand : Hand} (hhand : hand = .ended ∨ x.hand.grip = some .running)
    (hengaged : hand.engaged = true → Engaged s { x with hand := hand })
    (hreturned : ∀ result, hand = .returned result → ∀ (i : Nat) (a : AttemptRow),
      s.subject x.id = some i → s.attempts[i]? = some a → a.status = .delivered) :
    Inv env (s.setHand w x hand) where
  __ := h
  holds := h.hand hx hhand
  engaged := by
    intro v y hy hye
    rcases update_eq_some hy with ⟨rfl, rfl⟩ | ⟨-, hy⟩
    · exact hengaged hye
    · exact h.engaged v y hy hye
  returned := by
    intro v y result hy hhand'
    rcases update_eq_some hy with ⟨rfl, rfl⟩ | ⟨-, hy⟩
    · exact hreturned result hhand'
    · exact h.returned v y result hy hhand'
  settled := by
    intro i a ha he
    rcases h.settled i a ha he with hdone | ⟨v, y, hy, hwon, hi⟩
    · exact .inl hdone
    · have hv : v ≠ w := by
        rintro rfl
        obtain rfl := some.inj (hx.symm.trans hy)
        rw [Hand.engaged_of_won hwon] at hidle
        cases hidle
      exact .inr ⟨v, y, (update_of_ne hv ..).trans hy, hwon, hi⟩

/-- What a worker reads, it finds unanswered. -/
theorem Inv.unanswered (h : Inv env s) (hx : s.execution w = some x)
    (hidle : x.hand.engaged = false) (hrunning : x.hand.grip = some .running)
    (hi : s.subject x.id = some i) (ha : s.attempts[i]? = some a)
    (hstatus : a.status ≠ .delivered) : a.engineSqlId ∉ s.succeeded := by
  intro he
  rcases h.settled i a ha he with hdone | ⟨v, y, hy, hwon, hyi⟩
  · exact hstatus hdone
  · have hye := Hand.engaged_of_won hwon
    have hgrip : x.grip = some (x.id, .running) := by rw [grip, hrunning]; rfl
    have hon := Platform.onOf_eq.mpr ⟨x, hx, hgrip⟩
    obtain ⟨row, hrow, -, hr⟩ := h.holds.held w x.id .running hon
    have hsame : y.id = x.id := h.unique i a _ _ ha hstatus (h.liveJob hy hye hyi)
      ⟨hi, row, hrow, live_of_running (hr rfl)⟩
    have hon' : onOf grip s.execution v = some (x.id, .running) := by
      refine Platform.onOf_eq.mpr ⟨y, hy, ?_⟩
      rw [grip, Hand.grip_of_engaged hye, hsame]
      rfl
    obtain rfl := h.holds.alone v w x.id .running .running hon' hon
    obtain rfl := some.inj (hx.symm.trans hy)
    rw [hidle] at hye
    cases hye

theorem owns_iff :
    owns attempts tenant sqlId = true ↔
      ∃ a ∈ attempts, a.tenant = tenant ∧ a.engineSqlId = sqlId := by
  simp [owns, any_eq_true]

/-- An UPDATE that leaves alone what an attempt is of. -/
def Leaves (f : AttemptRow → AttemptRow) : Prop :=
  ∀ a, (f a).tenant = a.tenant ∧ (f a).engineSqlId = a.engineSqlId

theorem mem_modify (hf : Leaves f) {a' : AttemptRow} (h : a' ∈ attempts.modify i f) :
    ∃ a ∈ attempts, a'.tenant = a.tenant ∧ a'.engineSqlId = a.engineSqlId := by
  obtain ⟨n, hn⟩ := getElem?_of_mem h
  rw [getElem?_modify] at hn
  obtain ⟨a, ha, rfl⟩ := map_eq_some_iff.mp hn
  refine ⟨a, mem_of_getElem? ha, ?_⟩
  split
  · exact hf a
  · exact ⟨rfl, rfl⟩

theorem owns_modify (hf : Leaves f) (h : owns attempts tenant sqlId = true) :
    owns (attempts.modify i f) tenant sqlId = true := by
  obtain ⟨a, ha, ht, hs⟩ := owns_iff.mp h
  obtain ⟨n, hn⟩ := getElem?_of_mem ha
  have hget : (attempts.modify i f)[n]? = some (if i = n then f a else a) := by
    rw [getElem?_modify, hn]
    rfl
  refine owns_iff.mpr ⟨_, mem_of_getElem? hget, ?_⟩
  split
  · exact ⟨(hf a).1.trans ht, (hf a).2.trans hs⟩
  · exact ⟨ht, hs⟩

theorem modify_self (ha : attempts[i]? = some a) : (attempts.modify i f)[i]? = some (f a) := by
  rw [getElem?_modify, ha]
  exact congrArg some (if_pos rfl)

theorem modify_of_ne {j : Nat} (hj : j ≠ i) : (attempts.modify i f)[j]? = attempts[j]? := by
  rw [getElem?_modify]
  cases attempts[j]? with
  | none => rfl
  | some a => exact congrArg some (if_neg (Ne.symm hj))

/-- **A worker that is on an attempt does something**: it changes the attempt's row, and may have
been answered with success. -/
theorem Inv.turn (h : Inv env s) (hx : s.execution w = some x) (hxe : x.hand.engaged = true)
    (hi : s.subject x.id = some i) (ha : s.attempts[i]? = some a) (hf : Leaves f) (hand : Hand)
    (succeeded : List Nat)
    (hnew : ∀ e ∈ succeeded, e ∈ s.succeeded ∨ e = a.engineSqlId)
    (hsettled : a.engineSqlId ∈ succeeded → (f a).status = .delivered ∨ hand.won = true)
    (hengaged : hand.engaged = true → (f a).status ≠ .delivered ∧
      (∀ record, hand.record = some record → record.engineSqlId = a.engineSqlId) ∧
      (a.engineSqlId ∈ succeeded → hand.won = true))
    (hreturned : ∀ result, hand = .returned result → (f a).status = .delivered) :
    Inv env { s.setHand w x hand with
      attempts := s.attempts.modify i f
      succeeded := succeeded } := by
  have hstatus : a.status ≠ .delivered := by
    obtain ⟨j, b, hj, hb, hstatus, -⟩ := h.engaged w x hx hxe
    obtain rfl := some.inj (hj.symm.trans hi)
    obtain rfl := some.inj (hb.symm.trans ha)
    exact hstatus
  have hself : (s.attempts.modify i f)[i]? = some (f a) := modify_self ha
  -- what is said about the attempts, row by row
  have hrow : ∀ (j : Nat) (b : AttemptRow), (s.attempts.modify i f)[j]? = some b →
      (j = i ∧ b = f a) ∨ (j ≠ i ∧ s.attempts[j]? = some b) := by
    intro j b hb
    by_cases hj : j = i
    · subst hj
      exact .inl ⟨rfl, some.inj (hb.symm.trans hself)⟩
    · rw [modify_of_ne hj] at hb
      exact .inr ⟨hj, hb⟩
  have hkey : ∀ (j : Nat) (b : AttemptRow), (s.attempts.modify i f)[j]? = some b →
      ∃ b', s.attempts[j]? = some b' ∧ b'.engineSqlId = b.engineSqlId := by
    intro j b hb
    rcases hrow j b hb with ⟨rfl, rfl⟩ | ⟨-, hb⟩
    · exact ⟨a, ha, (hf a).2.symm⟩
    · exact ⟨b, hb, rfl⟩
  refine {
    __ := h
    right := ?_
    once := ?_
    owned := fun tenant sqlId hdue => owns_modify hf (h.owned tenant sqlId hdue)
    found := ?_
    subject := fun n j hj => by rw [length_modify]; exact h.subject n j hj
    waiting := ?_
    holds := h.hand hx (.inr (Hand.grip_of_engaged hxe))
    unique := ?_
    live := ?_
    engaged := ?_
    returned := ?_
    settled := ?_
    known := ?_
    quiet := h.quiet }
  · intro b hb
    obtain ⟨b', hb', ht, hs⟩ := mem_modify hf hb
    rw [ht, hs]
    exact h.right b' hb'
  · intro j k b c hb hc heq
    obtain ⟨b', hb', hbs⟩ := hkey j b hb
    obtain ⟨c', hc', hcs⟩ := hkey k c hc
    exact h.once j k b' c' hb' hc' (hbs.trans (heq.trans hcs.symm))
  · intro p tenant found window hp
    obtain ⟨hfound, hwindow⟩ := h.found p tenant found window hp
    exact ⟨hfound, fun r hr hcarrier => (hwindow r hr hcarrier).imp_left (owns_modify hf)⟩
  · intro p tenant ids hp
    obtain ⟨hnodup, hids⟩ := h.waiting p tenant ids hp
    refine ⟨hnodup, fun j hj => ?_⟩
    obtain ⟨⟨b, hb, hbs⟩, hnone⟩ := hids j hj
    have hne : j ≠ i := by
      rintro rfl
      exact hnone x.id hi
    exact ⟨⟨b, (modify_of_ne hne).trans hb, hbs⟩, hnone⟩
  · intro j b n m hb hbs
    rcases hrow j b hb with ⟨rfl, rfl⟩ | ⟨-, hb⟩
    · exact h.unique j a n m ha hstatus
    · exact h.unique j b n m hb hbs
  · intro j b hb hterminal
    rcases hrow j b hb with ⟨rfl, rfl⟩ | ⟨-, hb⟩
    · exact .inl ⟨x.id, h.liveJob hx hxe hi⟩
    · exact h.live j b hb hterminal
  · intro v y hy hye
    rcases update_eq_some hy with ⟨rfl, rfl⟩ | ⟨hv, hy'⟩
    · obtain ⟨hnot, hrecord, hanswered⟩ := hengaged hye
      refine ⟨i, f a, hi, hself, hnot, fun record hr => ?_, fun he => hanswered ?_⟩
      · rw [(hf a).2]
        exact hrecord record hr
      · rwa [(hf a).2] at he
    · obtain ⟨j, b, hj, hb, hbs, hrecord, hanswered⟩ := h.engaged v y hy' hye
      have hne : j ≠ i := by
        rintro rfl
        exact hv (h.alone hy' hx hye hxe hj hi)
      refine ⟨j, b, hj, (modify_of_ne hne).trans hb, hbs, hrecord, fun he => hanswered ?_⟩
      refine (hnew _ he).resolve_right fun heq => ?_
      exact hne (h.once j i b a hb ha heq)
  · intro v y result hy hhand j b hj hb
    rcases update_eq_some hy with ⟨rfl, rfl⟩ | ⟨-, hy'⟩
    · obtain rfl := some.inj (hj.symm.trans hi)
      obtain rfl := some.inj (hb.symm.trans hself)
      exact hreturned result hhand
    · rcases hrow j b hb with ⟨rfl, -⟩ | ⟨-, hb⟩
      · exact absurd (h.returned v y result hy' hhand j a hj ha) hstatus
      · exact h.returned v y result hy' hhand j b hj hb
  · intro j b hb he
    have hmoved : update s.execution w (some { x with hand := hand }) w =
        some { x with hand := hand } := update_self ..
    rcases hrow j b hb with ⟨rfl, rfl⟩ | ⟨hj, hb⟩
    · rw [(hf a).2] at he
      exact (hsettled he).imp_right fun hwon => ⟨w, _, hmoved, hwon, hi⟩
    · rcases hnew _ he with he | heq
      · rcases h.settled j b hb he with hdone | ⟨v, y, hy, hwon, hyj⟩
        · exact .inl hdone
        · have hv : v ≠ w := by
            rintro rfl
            obtain rfl := some.inj (hx.symm.trans hy)
            exact hj (some.inj (hyj.symm.trans hi))
          exact .inr ⟨v, y, (update_of_ne hv ..).trans hy, hwon, hyj⟩
      · exact absurd (h.once j i b a hb ha heq) hj
  · intro e he
    rcases hnew e he with he | rfl
    · obtain ⟨b, hb, rfl⟩ := h.known e he
      obtain ⟨n, hn⟩ := getElem?_of_mem hb
      have hget : (s.attempts.modify i f)[n]? = some (if i = n then f b else b) := by
        rw [getElem?_modify, hn]
        rfl
      refine ⟨_, mem_of_getElem? hget, ?_⟩
      split
      · exact (hf b).2
      · rfl
    · exact ⟨f a, mem_of_getElem? hself, (hf a).2⟩

/-! ### New jobs -/

/-- A job that is there is not the next. -/
theorem Inv.not_next (h : Inv env s) (hn : s.subject n = some i) : n ≠ s.next := by
  rintro rfl
  rw [(h.fresh s.next (Nat.le_refl _)).2] at hn
  cases hn

theorem Inv.on_not_next (h : Inv env s) {g : Grip}
    (hw : onOf grip s.execution w = some (n, g)) : n ≠ s.next := by
  rintro rfl
  exact h.holds.nobody_of_none (h.fresh s.next (Nat.le_refl _)).1 w g hw

/-- **A job is made**, for an attempt that has none that can run, or has been delivered. -/
theorem Inv.creates (h : Inv env s) (hqueued : row.status = .queued) (subject : Option Nat)
    (hbound : ∀ i, subject = some i → i < s.attempts.length)
    (hfree : ∀ (i : Nat) (a : AttemptRow), subject = some i → s.attempts[i]? = some a →
      a.status = .delivered ∨ ∀ n, ¬ LiveJob s n i) (keyed : Nat → Option Nat)
    (hkeyed : ∀ i n, keyed i = some n → s.keyed i = some n ∨ (n = s.next ∧ subject = some i))
    (sweep : Nat → Option Sweep)
    (hlisted : ∀ p tenant found window, sweep p = some (.listed tenant found window) →
      s.sweep p = some (.listed tenant found window))
    (hsweep : ∀ p tenant ids, sweep p = some (.enqueuing tenant ids) →
      ∃ ids₀, s.sweep p = some (.enqueuing tenant ids₀) ∧ ids.Sublist ids₀ ∧
        ∀ i, subject = some i → i ∉ ids) (hkept : ∀ i, Enqueuing s i → subject = some i ∨
      ∃ p tenant ids, sweep p = some (.enqueuing tenant ids) ∧ i ∈ ids) :
    Inv env { s with
      job := update s.job s.next (some row)
      next := s.next + 1
      subject := update s.subject s.next subject
      keyed := keyed
      sweep := sweep } := by
  have hsubject : ∀ n i, update s.subject s.next subject n = some i →
      (n = s.next ∧ subject = some i) ∨ (n ≠ s.next ∧ s.subject n = some i) := by
    intro n i hn
    by_cases heq : n = s.next
    · subst heq
      rw [update_self] at hn
      exact .inl ⟨rfl, hn⟩
    · rw [update_of_ne heq] at hn
      exact .inr ⟨heq, hn⟩
  have hold : ∀ n i, s.subject n = some i →
      update s.subject s.next subject n = some i := fun n i hn =>
    (update_of_ne (h.not_next hn) ..).trans hn
  refine {
    __ := h
    found := fun p tenant found window hp => h.found p tenant found window
      (hlisted p tenant found window hp)
    fresh := ?_
    subject := ?_
    keys := ?_
    waiting := ?_
    apart := ?_
    holds := ?_
    unique := ?_
    live := ?_
    engaged := ?_
    returned := ?_
    settled := ?_
    quiet := h.quiet }
  · intro n hn
    have hne : n ≠ s.next := Nat.ne_of_gt hn
    exact ⟨(update_of_ne hne ..).trans (h.fresh n (Nat.le_of_succ_le hn)).1,
      (update_of_ne hne ..).trans (h.fresh n (Nat.le_of_succ_le hn)).2⟩
  · intro n i hn
    rcases hsubject n i hn with ⟨-, hi⟩ | ⟨-, hn⟩
    · exact hbound i hi
    · exact h.subject n i hn
  · intro i n hn
    rcases hkeyed i n hn with hn | ⟨rfl, hi⟩
    · exact hold n i (h.keys i n hn)
    · exact (update_self ..).trans hi
  · intro p tenant ids hp
    obtain ⟨ids₀, hp₀, hsub, hnot⟩ := hsweep p tenant ids hp
    obtain ⟨hnodup, hids⟩ := h.waiting p tenant ids₀ hp₀
    refine ⟨hnodup.sublist hsub, fun i hi => ⟨(hids i (hsub.subset hi)).1, fun n hn => ?_⟩⟩
    rcases hsubject n i hn with ⟨-, hsi⟩ | ⟨-, hn⟩
    · exact hnot i hsi hi
    · exact (hids i (hsub.subset hi)).2 n hn
  · intro p q tenant tenant' ids ids' i hp hq hi hi'
    obtain ⟨ids₀, hp₀, hsub, -⟩ := hsweep p tenant ids hp
    obtain ⟨ids₁, hq₀, hsub', -⟩ := hsweep q tenant' ids' hq
    exact h.apart p q tenant tenant' ids₀ ids₁ i hp₀ hq₀ (hsub.subset hi) (hsub'.subset hi')
  · exact h.holds.frame fun w n g hw => update_of_ne (h.on_not_next hw) ..
  · rintro i a n m ha hstatus ⟨hn, r, hr, hl⟩ ⟨hm, r', hr', hl'⟩
    have hnone : subject = some i → ∀ k, ¬ LiveJob s k i := fun hi =>
      (hfree i a hi ha).resolve_left hstatus
    rcases hsubject n i hn with ⟨rfl, hi⟩ | ⟨hne, hn⟩ <;>
      rcases hsubject m i hm with ⟨rfl, hi'⟩ | ⟨hne', hm⟩
    · rfl
    · exact absurd ⟨hm, r', (update_of_ne hne' ..).symm.trans hr', hl'⟩ (hnone hi m)
    · exact absurd ⟨hn, r, (update_of_ne hne ..).symm.trans hr, hl⟩ (hnone hi' n)
    · exact h.unique i a n m ha hstatus
        ⟨hn, r, (update_of_ne hne ..).symm.trans hr, hl⟩
        ⟨hm, r', (update_of_ne hne' ..).symm.trans hr', hl'⟩
  · intro i a ha hterminal
    have hnew : subject = some i → ∃ n, update s.subject s.next subject n = some i ∧
        ∃ r, update s.job s.next (some row) n = some r ∧ r.live = true := fun hi =>
      ⟨s.next, (update_self ..).trans hi, row, update_self .., live_of_queued hqueued⟩
    rcases h.live i a ha hterminal with ⟨n, hn, r, hr, hl⟩ | hwaiting
    · exact .inl ⟨n, hold n i hn, r, (update_of_ne (h.not_next hn) ..).trans hr, hl⟩
    · rcases hkept i hwaiting with hi | hkept
      · exact .inl (hnew hi)
      · exact .inr hkept
  · intro w x hx hxe
    obtain ⟨i, a, hi, hrest⟩ := h.engaged w x hx hxe
    exact ⟨i, a, hold x.id i hi, hrest⟩
  · intro w x result hx hhand i a hi ha
    have hon : onOf grip s.execution w = some (x.id, .late) := by
      refine Platform.onOf_eq.mpr ⟨x, hx, ?_⟩
      rw [grip, hhand]
      rfl
    rcases hsubject x.id i hi with ⟨heq, -⟩ | ⟨-, hi⟩
    · exact absurd heq (h.on_not_next hon)
    · exact h.returned w x result hx hhand i a hi ha
  · intro i a ha he
    rcases h.settled i a ha he with hdone | ⟨w, x, hx, hwon, hi⟩
    · exact .inl hdone
    · exact .inr ⟨w, x, hx, hwon, hold x.id i hi⟩

/-! ### Sweeps

A sweep may insert long after it has read; the key of the attempts decides what is new. -/

/-- A sweep reads the log, or leaves having nothing left to enqueue. -/
theorem Inv.sweeps (h : Inv env s) {sweep : Sweep}
    (hlisted : ∀ tenant found window, sweep = .listed tenant found window →
      (∀ c ∈ found, ∃ r ∈ s.written, r.row.sqlId = c.sqlId ∧
        r.row.smscId.bind env.tenantOf = some tenant) ∧
      ∀ r ∈ window, r.row.smscId.bind env.tenantOf = some tenant →
        owns s.attempts tenant r.row.sqlId = true ∨ ∃ c ∈ found, c.sqlId = r.row.sqlId)
    (hnot : ∀ tenant ids, sweep ≠ .enqueuing tenant ids)
    (hdone : ∀ tenant ids, s.sweep p = some (.enqueuing tenant ids) → ids = []) :
    Inv env (s.setSweep p sweep) := by
  have hsweep : ∀ q tenant ids, update s.sweep p (some sweep) q =
      some (.enqueuing tenant ids) → s.sweep q = some (.enqueuing tenant ids) := by
    intro q tenant ids hq
    rcases update_eq_some hq with ⟨-, heq⟩ | ⟨-, hq⟩
    · exact absurd heq.symm (hnot tenant ids)
    · exact hq
  refine { h with
    found := ?_
    waiting := fun q tenant ids hq => h.waiting q tenant ids (hsweep q tenant ids hq)
    apart := fun q q' tenant tenant' ids ids' i hq hq' => h.apart q q' tenant tenant' ids ids' i
      (hsweep q tenant ids hq) (hsweep q' tenant' ids' hq')
    live := ?_ }
  · intro q tenant found window hq
    rcases update_eq_some hq with ⟨-, heq⟩ | ⟨-, hq⟩
    · exact hlisted tenant found window heq.symm
    · exact h.found q tenant found window hq
  · intro i a ha hterminal
    refine (h.live i a ha hterminal).imp_right ?_
    rintro ⟨q, tenant, ids, hq, hi⟩
    have hne : q ≠ p := by
      rintro rfl
      rw [hdone tenant ids hq] at hi
      cases hi
    exact ⟨q, tenant, ids, (update_of_ne hne ..).trans hq, hi⟩

/-- What the transaction of a sweep adds: one pending attempt for each receipt it found and its
tenant does not have, and it answers their ids. -/
structure Claimed (tenant : Nat) (found : List Candidate) (attempts : List AttemptRow)
    (rows : List AttemptRow) : Prop where
  ofTenant : ∀ a ∈ rows, a.tenant = tenant
  pending : ∀ a ∈ rows, a.status = .pending
  candidate : ∀ a ∈ rows, ∃ c ∈ found, c.sqlId = a.engineSqlId
  new : ∀ a ∈ rows, owns attempts tenant a.engineSqlId = false
  distinct : (rows.map AttemptRow.engineSqlId).Nodup
  all : ∀ c ∈ found, owns (attempts ++ rows) tenant c.sqlId = true

theorem owns_append {rows : List AttemptRow} :
    owns (attempts ++ rows) tenant sqlId =
      (owns attempts tenant sqlId || owns rows tenant sqlId) := by
  rw [owns, any_append]
  rfl

theorem claimReceipts_spec (env : Setting) (tenant : Nat) (found : List Candidate)
    (attempts : List AttemptRow) :
    ∃ rows, Claimed tenant found attempts rows ∧
      claimReceipts env tenant found attempts =
        (attempts ++ rows, (List.range rows.length).map (attempts.length + ·)) := by
  induction found generalizing attempts with
  | nil =>
    refine ⟨[], ⟨?_, ?_, ?_, ?_, nodup_nil, ?_⟩, ?_⟩
    · exact fun _ h => by cases h
    · exact fun _ h => by cases h
    · exact fun _ h => by cases h
    · exact fun _ h => by cases h
    · exact fun _ h => by cases h
    · rw [claimReceipts, append_nil]
      rfl
  | cons c rest ih =>
    by_cases howns : owns attempts tenant c.sqlId = true
    · obtain ⟨rows, hclaimed, heq⟩ := ih attempts
      refine ⟨rows, { hclaimed with candidate := ?_, all := ?_ }, by rw [claimReceipts, if_pos howns,
        heq]⟩
      · intro a ha
        obtain ⟨c', hc', hs⟩ := hclaimed.candidate a ha
        exact ⟨c', mem_cons_of_mem _ hc', hs⟩
      · intro c' hc'
        rcases mem_cons.mp hc' with rfl | hc'
        · rw [owns_append, howns, Bool.true_or]
        · exact hclaimed.all c' hc'
    · obtain ⟨rows, hclaimed, heq⟩ := ih (attempts ++ [newAttempt env tenant c])
      have hnew : ∀ a ∈ rows, owns attempts tenant a.engineSqlId = false ∧
          a.engineSqlId ≠ c.sqlId := by
        intro a ha
        have hnot := hclaimed.new a ha
        rw [owns_append, Bool.or_eq_false_iff] at hnot
        refine ⟨hnot.1, fun hs => ?_⟩
        have hone := hnot.2
        rw [hs] at hone
        simp [owns, newAttempt] at hone
      refine ⟨newAttempt env tenant c :: rows, ⟨?_, ?_, ?_, ?_, ?_, ?_⟩, ?_⟩
      · exact fun a ha => (mem_cons.mp ha).elim (fun h => h ▸ rfl) (hclaimed.ofTenant a)
      · exact fun a ha => (mem_cons.mp ha).elim (fun h => h ▸ rfl) (hclaimed.pending a)
      · intro a ha
        rcases mem_cons.mp ha with rfl | ha
        · exact ⟨c, mem_cons_self, rfl⟩
        · obtain ⟨c', hc', hs⟩ := hclaimed.candidate a ha
          exact ⟨c', mem_cons_of_mem _ hc', hs⟩
      · intro a ha
        rcases mem_cons.mp ha with rfl | ha
        · exact Bool.eq_false_iff.mpr howns
        · exact (hnew a ha).1
      · refine nodup_cons.mpr ⟨fun hmem => ?_, hclaimed.distinct⟩
        obtain ⟨a, ha, hs⟩ := mem_map.mp hmem
        exact (hnew a ha).2 hs
      · intro c' hc'
        rcases mem_cons.mp hc' with rfl | hc'
        · refine owns_iff.mpr ⟨_, mem_append_right _ mem_cons_self, rfl, rfl⟩
        · have hall := hclaimed.all c' hc'
          rwa [append_assoc] at hall
      · rw [claimReceipts, if_neg howns, heq]
        simp only [length_append, length_cons, length_nil, append_assoc,
          singleton_append, range_succ_eq_map, map_cons, map_map, Nat.add_zero]
        refine congrArg (Prod.mk _) (congrArg (List.cons _) (map_congr_left fun n _ => ?_))
        simp only [Function.comp_apply]
        omega

/-- Every row of the log has a key of its own. -/
theorem Inv.same_row (h : Inv env s) {r r' : LogRow} (hr : r ∈ s.written) (hr' : r' ∈ s.written)
    (heq : r.row.sqlId = r'.row.sqlId) : r = r' :=
  inj_on_of_nodup_map h.written.distinct hr hr' heq

/-- A receipt its tenant has no attempt for has none at all. -/
theorem Inv.unowned (h : Inv env s) {r : LogRow} (hr : r ∈ s.written)
    (hcarrier : r.row.smscId.bind env.tenantOf = some tenant)
    (hnew : owns s.attempts tenant r.row.sqlId = false) {b : AttemptRow} (hb : b ∈ s.attempts) :
    b.engineSqlId ≠ r.row.sqlId := by
  intro heq
  obtain ⟨r', hr', hs, hcarrier'⟩ := h.right b hb
  obtain rfl := h.same_row hr' hr (hs.trans heq)
  have hsame : b.tenant = tenant := some.inj (hcarrier'.symm.trans hcarrier)
  rw [owns_iff.mpr ⟨b, hb, hsame, heq⟩] at hnew
  cases hnew

section Claim

variable {rows : List AttemptRow} {found : List Candidate} {window : List LogRow}


/-- A new attempt is of a receipt of the tenant's, which has no other. -/
theorem Inv.carried (h : Inv env s) (hclaimed : Claimed tenant found s.attempts rows)
    (hp : s.sweep p = some (.listed tenant found window)) (ha : a ∈ rows) :
    (∃ r ∈ s.written, r.row.sqlId = a.engineSqlId ∧
      r.row.smscId.bind env.tenantOf = some tenant) ∧
    ∀ b ∈ s.attempts, b.engineSqlId ≠ a.engineSqlId := by
  obtain ⟨c, hc, hs⟩ := hclaimed.candidate a ha
  obtain ⟨r, hr, hrs, hcarrier⟩ := (h.found p tenant found window hp).1 c hc
  have hsame := hrs.trans hs
  refine ⟨⟨r, hr, hsame, hcarrier⟩, fun b hb => ?_⟩
  rw [← hsame]
  exact h.unowned hr hcarrier (hsame ▸ hclaimed.new a ha) hb

theorem append_row (ha : (s.attempts ++ rows)[i]? = some a) :
    s.attempts[i]? = some a ∨ (s.attempts.length ≤ i ∧ rows[i - s.attempts.length]? = some a) := by
  by_cases hi : i < s.attempts.length
  · rw [getElem?_append_left hi] at ha
    exact .inl ha
  · rw [getElem?_append_right (Nat.not_lt.mp hi)] at ha
    exact .inr ⟨Nat.not_lt.mp hi, ha⟩

theorem old_row (ha : s.attempts[i]? = some a) :
    (s.attempts ++ rows)[i]? = some a :=
  (getElem?_append_left (List.getElem?_eq_some_iff.mp ha).1).trans ha

/-- The numbers of the new attempts. -/
def newRows (s : State) (rows : List AttemptRow) : List Nat :=
  (List.range rows.length).map (s.attempts.length + ·)

theorem mem_newRows : i ∈ newRows s rows ↔
    s.attempts.length ≤ i ∧ i < s.attempts.length + rows.length := by
  simp only [newRows, mem_map, mem_range]
  exact ⟨fun ⟨n, hn, hi⟩ => by omega, fun hi => ⟨i - s.attempts.length, by omega, by omega⟩⟩

theorem Inv.nobody (h : Inv env s) (hi : s.attempts.length ≤ i) (n : Nat) :
    s.subject n ≠ some i :=
  fun hn => absurd (h.subject n i hn) (Nat.not_lt.mpr hi)

theorem Inv.claim_once (h : Inv env s) (hclaimed : Claimed tenant found s.attempts rows)
    (hfirst : ∀ a ∈ rows, ∀ b ∈ s.attempts, b.engineSqlId ≠ a.engineSqlId) {i j : Nat}
    {a b : AttemptRow} (ha : (s.attempts ++ rows)[i]? = some a)
    (hb : (s.attempts ++ rows)[j]? = some b) (hsame : a.engineSqlId = b.engineSqlId) : i = j := by
  rcases append_row ha with ha | ⟨hi, ha⟩ <;> rcases append_row hb with hb | ⟨hj, hb⟩
  · exact h.once i j a b ha hb hsame
  · exact absurd hsame (hfirst b (mem_of_getElem? hb) a (mem_of_getElem? ha))
  · exact absurd hsame.symm (hfirst a (mem_of_getElem? ha) b (mem_of_getElem? hb))
  · have hlt : i - s.attempts.length < rows.length := (List.getElem?_eq_some_iff.mp ha).1
    have hpos : i - s.attempts.length = j - s.attempts.length := by
      refine (getElem?_inj (by rwa [length_map]) hclaimed.distinct).mp ?_
      rw [getElem?_map, getElem?_map, ha, hb]
      exact congrArg some hsame
    omega

/-- Who is enqueuing after a claim: the sweep that claims, and those before. -/
theorem enqueuing_cases {q tenant' : Nat}
    (hq : update s.sweep p (some (.enqueuing tenant (newRows s rows))) q =
      some (.enqueuing tenant' ids)) :
    (q = p ∧ ids = newRows s rows) ∨ (q ≠ p ∧ s.sweep q = some (.enqueuing tenant' ids)) := by
  rcases update_eq_some hq with ⟨rfl, hsame⟩ | hq
  · cases hsame
    exact .inl ⟨rfl, rfl⟩
  · exact .inr hq

theorem Inv.claim_waiting (h : Inv env s) (hclaimed : Claimed tenant found s.attempts rows)
    {q tenant' : Nat}
    (hq : update s.sweep p (some (.enqueuing tenant (newRows s rows))) q =
      some (.enqueuing tenant' ids)) :
    ids.Nodup ∧ ∀ i ∈ ids, (∃ a, (s.attempts ++ rows)[i]? = some a ∧ a.status ≠ .delivered) ∧
      ∀ n, s.subject n ≠ some i := by
  rcases enqueuing_cases hq with ⟨-, rfl⟩ | ⟨-, hq⟩
  · refine ⟨nodup_range.map fun n m hnm => by simpa using hnm, fun i hi => ?_⟩
    obtain ⟨hi, hlt⟩ := mem_newRows.mp hi
    have hget : rows[i - s.attempts.length]? = some rows[i - s.attempts.length] :=
      getElem?_eq_getElem (by omega)
    refine ⟨⟨rows[i - s.attempts.length], ?_, ?_⟩, h.nobody hi⟩
    · rw [getElem?_append_right hi]
      exact hget
    · rw [hclaimed.pending _ (mem_of_getElem? hget)]
      exact fun hd => by cases hd
  · obtain ⟨hnodup, hwait⟩ := h.waiting q tenant' ids hq
    refine ⟨hnodup, fun i hi => ?_⟩
    obtain ⟨⟨a, ha, hstatus⟩, hnone⟩ := hwait i hi
    exact ⟨⟨a, old_row ha, hstatus⟩, hnone⟩

theorem Inv.claim_apart (h : Inv env s) {q q' tenant' tenant'' i : Nat} {ids ids' : List Nat}
    (hq : update s.sweep p (some (.enqueuing tenant (newRows s rows))) q =
      some (.enqueuing tenant' ids))
    (hq' : update s.sweep p (some (.enqueuing tenant (newRows s rows))) q' =
      some (.enqueuing tenant'' ids')) (hi : i ∈ ids) (hi' : i ∈ ids') : q = q' := by
  have hwaiting : ∀ q tenant' ids, s.sweep q = some (.enqueuing tenant' ids) → ∀ i ∈ ids,
      ¬ s.attempts.length ≤ i := by
    intro q tenant' ids hq i hi
    obtain ⟨⟨a, ha, -⟩, -⟩ := (h.waiting q tenant' ids hq).2 i hi
    exact Nat.not_le.mpr (List.getElem?_eq_some_iff.mp ha).1
  rcases enqueuing_cases hq with ⟨hqp, rfl⟩ | ⟨-, hold⟩ <;>
    rcases enqueuing_cases hq' with ⟨hqp', rfl⟩ | ⟨-, hold'⟩
  · rw [hqp, hqp']
  · exact absurd (mem_newRows.mp hi).1 (hwaiting q' tenant'' ids' hold' i hi')
  · exact absurd (mem_newRows.mp hi').1 (hwaiting q tenant' ids hold i hi)
  · exact h.apart q q' tenant' tenant'' ids ids' i hold hold' hi hi'

/-- **A sweep commits its claim.** -/
theorem Inv.claim (h : Inv env s) (hp : s.sweep p = some (.listed tenant found window)) :
    Inv env { s.setSweep p (.enqueuing tenant (claimReceipts env tenant found s.attempts).2) with
      attempts := (claimReceipts env tenant found s.attempts).1
      due := (window.filter fun r => r.row.smscId.bind env.tenantOf = some tenant).map
        (fun r => (tenant, r.row.sqlId)) ++ s.due } := by
  obtain ⟨rows, hclaimed, heq⟩ := claimReceipts_spec env tenant found s.attempts
  have hwindow := (h.found p tenant found window hp).2
  have hcarried := fun a ha => (h.carried hclaimed hp (a := a) ha).1
  have hfirst := fun a ha => (h.carried hclaimed hp (a := a) ha).2
  rw [heq]
  refine {
    __ := h
    right := ?_
    once := fun i j a b => h.claim_once hclaimed hfirst
    owned := ?_
    found := ?_
    subject := fun n i hn => by
      rw [length_append]
      exact Nat.lt_of_lt_of_le (h.subject n i hn) (Nat.le_add_right _ _)
    waiting := fun q tenant' ids => h.claim_waiting hclaimed
    apart := fun q q' tenant' tenant'' ids ids' i => h.claim_apart
    unique := ?_
    live := ?_
    engaged := ?_
    returned := ?_
    settled := ?_
    known := ?_
    quiet := h.quiet }
  · intro a ha
    rcases mem_append.mp ha with ha | ha
    · exact h.right a ha
    · rw [hclaimed.ofTenant a ha]
      exact hcarried a ha
  · intro tenant' sqlId hdue
    rcases mem_append.mp hdue with hdue | hdue
    · obtain ⟨r, hr, hpair⟩ := mem_map.mp hdue
      obtain ⟨rfl, rfl⟩ := Prod.mk.inj hpair
      obtain ⟨hr, hcarrier⟩ := mem_filter.mp hr
      rcases hwindow r hr (of_decide_eq_true hcarrier) with howns | ⟨c, hc, hs⟩
      · rw [owns_append, howns, Bool.true_or]
      · rw [← hs]
        exact hclaimed.all c hc
    · rw [owns_append, h.owned tenant' sqlId hdue, Bool.true_or]
  · intro q tenant' found' window' hq
    rcases update_eq_some hq with ⟨-, hsame⟩ | ⟨-, hq⟩
    · cases hsame
    · obtain ⟨hfound', hwindow'⟩ := h.found q tenant' found' window' hq
      refine ⟨hfound', fun r hr hcarrier => (hwindow' r hr hcarrier).imp_left fun howns => ?_⟩
      rw [owns_append, howns, Bool.true_or]
  · intro i a n m ha hstatus hn hm
    rcases append_row ha with ha | ⟨hi, -⟩
    · exact h.unique i a n m ha hstatus hn hm
    · exact absurd hn.1 (h.nobody hi n)
  · intro i a ha hterminal
    rcases append_row ha with ha | ⟨hi, ha⟩
    · refine (h.live i a ha hterminal).imp_right ?_
      rintro ⟨q, tenant', ids, hq, hmem⟩
      have hne : q ≠ p := by
        rintro rfl
        rw [hp] at hq
        cases hq
      exact ⟨q, tenant', ids, (update_of_ne hne ..).trans hq, hmem⟩
    · have hlt := (List.getElem?_eq_some_iff.mp ha).1
      exact .inr ⟨p, tenant, _, update_self .., mem_newRows.mpr ⟨hi, by omega⟩⟩
  · intro w x hx hxe
    obtain ⟨i, a, hi, ha, hrest⟩ := h.engaged w x hx hxe
    exact ⟨i, a, hi, old_row ha, hrest⟩
  · intro w x result hx hhand i a hi ha
    rcases append_row ha with ha | ⟨hle, -⟩
    · exact h.returned w x result hx hhand i a hi ha
    · exact absurd hi (h.nobody hle x.id)
  · intro i a ha he
    rcases append_row ha with ha | ⟨-, ha⟩
    · exact h.settled i a ha he
    · obtain ⟨b, hb, hsame⟩ := h.known _ he
      exact absurd hsame (hfirst a (mem_of_getElem? ha) b hb)
  · intro e he
    obtain ⟨b, hb, hsame⟩ := h.known e he
    exact ⟨b, mem_append_left _ hb, hsame⟩

end Claim

/-- A sweep enqueues the job of the next attempt it has claimed. -/
theorem Inv.enqueue (h : Inv env s) {id : Nat}
    (hp : s.sweep p = some (.enqueuing tenant (id :: ids))) (now : Int) {ack : Ack}
    (hlast : ack ≠ .ok → ids = []) :
    Inv env ((s.createKeyed id now).setSweep p
      (if ack = .ok then .enqueuing tenant ids else .ended)) := by
  obtain ⟨hnodup, hids⟩ := h.waiting p tenant (id :: ids) hp
  obtain ⟨⟨a, ha, -⟩, hnone⟩ := hids id mem_cons_self
  have hkey : s.keyed id = none := by
    cases hk : s.keyed id with
    | none => rfl
    | some n => exact absurd (h.keys id n hk) (hnone n)
  obtain ⟨row, hrow, hqueued, -⟩ := insert_spec s.next DLR_FORWARD_JOB_TYPE none now
    (by decide : Platform.AttemptsCheck 0 DLR_FORWARD_MAX_ATTEMPTS)
  have hinv := h.creates hqueued (some id) (fun i hi => ?_) (fun i b hi _ => .inr fun n hn => ?_)
    (update s.keyed id (some s.next)) (fun i n hi => ?_)
    (update s.sweep p (some (if ack = .ok then .enqueuing tenant ids else .ended)))
    (fun q tenant' found window hq => ?_) (fun q tenant' ids' hq => ?_) fun i hi => ?_
  · rw [State.createKeyed, hkey]
    simp only [State.createOn, State.setSweep, hrow]
    exact hinv
  · cases hi
    exact (List.getElem?_eq_some_iff.mp ha).1
  · cases hi
    exact hnone n hn.1
  · rcases update_eq_some hi with ⟨rfl, rfl⟩ | ⟨-, hi⟩
    · exact .inr ⟨rfl, rfl⟩
    · exact .inl hi
  · rcases update_eq_some hq with ⟨-, heq⟩ | ⟨-, hq⟩
    · split at heq <;> cases heq
    · exact hq
  · rcases update_eq_some hq with ⟨rfl, heq⟩ | ⟨hne, hq⟩
    · split at heq
      · cases heq
        refine ⟨id :: ids, hp, sublist_cons_self id ids, fun i hi hmem => ?_⟩
        cases hi
        exact (nodup_cons.mp hnodup).1 hmem
      · cases heq
    · refine ⟨ids', hq, List.Sublist.refl ids', fun i hi hmem => hne ?_⟩
      cases hi
      exact h.apart q p tenant' tenant ids' (id :: ids) id hq hp hmem mem_cons_self
  · obtain ⟨q, tenant', ids', hq, hmem⟩ := hi
    by_cases hqp : q = p
    · subst hqp
      rw [hp] at hq
      cases hq
      rcases mem_cons.mp hmem with rfl | hmem
      · exact .inl rfl
      · by_cases hok : ack = .ok
        · exact .inr ⟨q, tenant, ids, by rw [update_self, if_pos hok], hmem⟩
        · rw [hlast hok] at hmem
          cases hmem
    · exact .inr ⟨q, tenant', ids', (update_of_ne hqp ..).trans hq, hmem⟩

/-- An operator makes a job for an attempt. -/
theorem Inv.create (h : Inv env s) (subject : Option Nat) (now : Int)
    (hfree : ∀ (i : Nat) (a : AttemptRow), subject = some i → s.attempts[i]? = some a →
      a.status = .delivered ∨ ((∀ n, ¬ LiveJob s n i) ∧ ¬ Enqueuing s i)) :
    Inv env (s.createOn (subject.filter (· < s.attempts.length)) now) := by
  obtain ⟨row, hrow, hqueued, -⟩ := insert_spec s.next DLR_FORWARD_JOB_TYPE none now
    (by decide : Platform.AttemptsCheck 0 DLR_FORWARD_MAX_ATTEMPTS)
  have hfilter : ∀ i, subject.filter (· < s.attempts.length) = some i →
      subject = some i ∧ i < s.attempts.length := by
    intro i hi
    simpa [Option.filter_eq_some_iff] using hi
  rw [State.createOn, hrow]
  refine h.creates hqueued _ (fun i hi => (hfilter i hi).2)
    (fun i a hi ha => (hfree i a (hfilter i hi).1 ha).imp_right And.left) s.keyed
    (fun i n hi => .inl hi) s.sweep (fun p tenant found window hp => hp)
    (fun p tenant ids hp => ⟨ids, hp, List.Sublist.refl ids, fun i hi hmem => ?_⟩)
    fun i hi => .inr hi
  obtain ⟨⟨a, ha, hstatus⟩, -⟩ := (h.waiting p tenant ids hp).2 i hmem
  rcases hfree i a (hfilter i hi).1 ha with hdone | ⟨-, hnot⟩
  · exact hstatus hdone
  · exact hnot ⟨p, tenant, ids, hp, hmem⟩

/-! ### Dispatch -/

theorem leaves_id : Leaves id := fun _ => ⟨rfl, rfl⟩

theorem leaves_record (attempt : Nat) (statusCode : Option Nat) (error : String) :
    Leaves (recordRow attempt statusCode error) := fun _ => ⟨rfl, rfl⟩

theorem leaves_complete (status : AttemptStatus) (attempt : Nat) (statusCode : Option Nat)
    (error : Option String) (now : Int) :
    Leaves (completeRow status attempt statusCode error now) := fun _ => ⟨rfl, rfl⟩

section

variable (h : Inv env s) {record : AttemptRow} {target host : String}
include h

/-- A worker on an attempt writes to its row, or fails to, without a success in hand. -/
theorem Inv.writes (hx : s.execution w = some x) (hxe : x.hand.engaged = true)
    (hwon : x.hand.won = false) (hf : Leaves f) {hand : Hand} (committed : Bool)
    (hengaged : hand.engaged = true → (committed = true → ∀ a, (f a).status ≠ .delivered) ∧
      ∀ record, hand.record = some record → x.hand.record = some record)
    (hreturned : ∀ result, hand ≠ .returned result) :
    Inv env ((if committed then s.onAttempt (s.subject x.id) f else s).setHand w x hand) := by
  obtain ⟨i, a, hi, ha, hstatus, hrecord, hanswered⟩ := h.engaged w x hx hxe
  have hnot : a.engineSqlId ∉ s.succeeded := fun he => by
    rw [hanswered he] at hwon
    cases hwon
  have hturn : ∀ g : AttemptRow → AttemptRow, Leaves g →
      (hand.engaged = true → (g a).status ≠ .delivered) →
      Inv env { s.setHand w x hand with
        attempts := s.attempts.modify i g
        succeeded := s.succeeded } := fun g hg hstatus' =>
    h.turn hx hxe hi ha hg hand s.succeeded (fun _ he => .inl he) (fun he => absurd he hnot)
      (fun hhe => ⟨hstatus' hhe, fun record hr => hrecord record ((hengaged hhe).2 record hr),
        fun he => absurd he hnot⟩) fun result heq => absurd heq (hreturned result)
  cases committed with
  | true =>
    have hinv := hturn f hf fun hhe => (hengaged hhe).1 rfl a
    rw [if_pos rfl, hi]
    exact hinv
  | false =>
    have hinv := hturn id leaves_id fun _ => hstatus
    rw [modify_id] at hinv
    exact hinv

/-- A worker on an attempt goes on without writing. -/
theorem Inv.stays (hx : s.execution w = some x) (hxe : x.hand.engaged = true)
    (hwon : x.hand.won = false) {hand : Hand}
    (hrecord : ∀ record, hand.record = some record → x.hand.record = some record)
    (hreturned : ∀ result, hand ≠ .returned result) : Inv env (s.setHand w x hand) :=
  h.writes hx hxe hwon leaves_id false (fun _ => ⟨fun hc => (by cases hc), hrecord⟩)
    hreturned

/-- The call is answered. -/
theorem Inv.answer {id : Nat}
    (hx : s.execution w = some ⟨id, job, .calling record target host⟩) (status : Nat) :
    Inv env { s.setHand w ⟨id, job, .calling record target host⟩
        (.answered record target host status) with
      succeeded := if is2xx status then record.engineSqlId :: s.succeeded else s.succeeded } := by
  obtain ⟨i, a, hi, ha, hstatus, hrecord, hanswered⟩ := h.engaged w _ hx rfl
  have hsame : record.engineSqlId = a.engineSqlId := hrecord record rfl
  have hnot : a.engineSqlId ∉ s.succeeded := fun he => by cases hanswered he
  have hinv := h.turn hx rfl hi ha leaves_id (.answered record target host status)
    (if is2xx status then record.engineSqlId :: s.succeeded else s.succeeded)
    ?_ ?_ ?_ fun result heq => by cases heq
  · rw [modify_id] at hinv
    exact hinv
  · intro e he
    split at he
    · rcases mem_cons.mp he with rfl | he
      · exact .inr hsame
      · exact .inl he
    · exact .inl he
  · intro he
    split at he
    · rename_i hok
      exact .inr hok
    · exact absurd he hnot
  · refine fun _ => ⟨hstatus, fun r hr => ?_, fun he => ?_⟩
    · cases hr
      exact hsame
    · split at he
      · rename_i hok
        exact hok
      · exact absurd he hnot

/-- A success is recorded. -/
theorem Inv.delivers (hx : s.execution w = some x) (hxe : x.hand.engaged = true)
    (hf : Leaves f) (hdone : ∀ a, (f a).status = .delivered) (result : String) :
    Inv env ((s.onAttempt (s.subject x.id) f).setHand w x (.returned result)) := by
  obtain ⟨i, a, hi, ha, -⟩ := h.engaged w x hx hxe
  have hinv := h.turn hx hxe hi ha hf (.returned result) s.succeeded (fun _ he => .inl he)
    (fun _ => .inl (hdone a)) (fun hhe => by cases hhe) fun _ _ => hdone a
  rw [hi]
  exact hinv

/-- The attempt is read. -/
theorem Inv.read {id : Nat} (hx : s.execution w = some ⟨id, job, .claimed⟩) (ack : Ack) :
    Inv env (s.setHand w ⟨id, job, .claimed⟩ (match ack with
        | .ok => afterRead s.attempts (s.subject id)
        | .lost error | .refused error => .threw error false)) := by
  have hthrew : ∀ message permanent,
      Inv env (s.setHand w ⟨id, job, .claimed⟩ (.threw message permanent)) := fun _ _ =>
    h.moves hx rfl (.inr rfl) (fun hhe => by cases hhe) fun _ heq => by cases heq
  cases ack with
  | ok =>
    simp only [afterRead]
    cases hi : s.subject id with
    | none => exact hthrew _ _
    | some i =>
      rw [bind_some]
      cases ha : s.attempts[i]? with
      | none => exact hthrew _ _
      | some record =>
        simp only
        split
        · rename_i hdone
          refine h.moves hx rfl (.inr rfl) (fun hhe => by cases hhe) fun _ _ j a hj hb => ?_
          obtain rfl := some.inj (hi.symm.trans hj)
          obtain rfl := some.inj (ha.symm.trans hb)
          exact hdone
        · rename_i hopen
          refine h.moves hx rfl (.inr rfl) (fun _ => ⟨i, record, hi, ha, hopen, fun r hr => ?_,
            fun he => ?_⟩) fun _ heq => by cases heq
          · cases hr
            rfl
          · exact absurd he (h.unanswered hx rfl rfl hi ha hopen)
  | lost error | refused error => exact hthrew error false

/-- The call is made, or not. -/
theorem Inv.look {id : Nat} {hosts : String} (hx : s.execution w = some ⟨id, job, .found record⟩) :
    Inv env (match afterLook env s.log hosts record with
      | .calling _ _ _ => { s.setHand w ⟨id, job, .found record⟩
            (afterLook env s.log hosts record) with
          repeated := if record.engineSqlId ∈ s.succeeded then
            record.engineSqlId :: s.repeated else s.repeated }
      | _ => s.setHand w ⟨id, job, .found record⟩ (afterLook env s.log hosts record)) := by
  obtain ⟨i, a, -, -, -, hrecord, hanswered⟩ := h.engaged w _ hx rfl
  have hnot : record.engineSqlId ∉ s.succeeded := by
    rw [hrecord record rfl]
    exact fun he => by cases hanswered he
  rw [afterLook]
  cases urlFor env s.log record.engineSqlId with
  | none => exact h.stays hx rfl rfl (fun _ hr => by cases hr) fun _ heq => by cases heq
  | some rawUrl =>
    simp only
    cases isAllowed env hosts rawUrl with
    | error reason => exact h.stays hx rfl rfl (fun _ hr => by cases hr) fun _ heq => by cases heq
    | ok host =>
      simp only [if_neg hnot]
      exact h.stays hx rfl rfl (fun _ hr => hr) fun _ heq => by cases heq

/-- What an answer came to is written. -/
theorem Inv.write {id : Nat} {status : Nat} (now : Int) {ack : Ack}
    (hx : s.execution w = some ⟨id, job, .answered record target host status⟩)
    (hok : is2xx status = true → ack = .ok) :
    Inv env ((if ack.committed then s.onAttempt (s.subject id)
        (if is2xx status then completeRow .delivered job.attempts (some status) none now
          else recordRow job.attempts (some status) ("HTTP " ++ toString status)) else s).setHand w
      ⟨id, job, .answered record target host status⟩ (afterWrite target host status ack)) := by
  cases hstatus : is2xx status with
  | true =>
    obtain rfl := hok hstatus
    simp only [afterWrite, hstatus, if_true]
    exact h.delivers hx rfl (leaves_complete _ _ _ _ _) (fun _ => rfl) _
  | false =>
    refine h.writes hx rfl hstatus (leaves_record _ _ _) ack.committed
      (fun _ => ⟨fun _ _ heq => (by cases heq), fun r hr => ?_⟩) fun _ heq => ?_
    · cases ack with
      | ok =>
        simp only [afterWrite, hstatus, afterFailure, Bool.false_eq_true, if_false] at hr
        split at hr <;> cases hr
      | lost error => cases hr
      | refused error => cases hr
    · cases ack with
      | ok =>
        simp only [afterWrite, hstatus, afterFailure, Bool.false_eq_true, if_false] at heq
        split at heq <;> cases heq
      | lost error => cases heq
      | refused error => cases heq

/-- A failed attempt is put back, or was the last. -/
theorem Inv.fail {id : Nat} {message : String} {permanent : Bool}
    (hx : s.execution w = some ⟨id, job, .threw message permanent⟩) (now : Int) {committed : Bool}
    (hend : committed = true → exhausted job permanent = true → Settled s id) :
    Inv env ({ s with job := if committed then (updateJob s.job id
      (Platform.failAttempt env.tuning now job message permanent)) else s.job }.setHand w
        ⟨id, job, .threw message permanent⟩ .ended) := by
  cases committed with
  | false =>
    exact h.moves hx rfl (.inl rfl) (fun hhe => by cases hhe) fun _ heq => by cases heq
  | true =>
    refine h.release hx rfl (.inl rfl)
      (fun row row' hrow => (Platform.failAttempt_spec hrow).1) (fun _ _ _ => .inl rfl)
      (fun row row' _ hrow => ?_) true
    by_cases hexhausted : exhausted job permanent = true
    · exact .inr (hend rfl hexhausted)
    · exact .inl (Platform.failAttempt_live hexhausted hrow)

end

theorem Free.nobody (hfree : Free s n) (w : Nat) (g : Grip) :
    onOf grip s.execution w ≠ some (n, g) := by
  intro hw
  obtain ⟨x, hx, hg⟩ := Platform.onOf_eq.mp hw
  obtain ⟨g', hg', heq⟩ := map_eq_some_iff.mp hg
  obtain ⟨hid, -⟩ := Prod.mk.inj heq
  rw [hfree w x hx hid] at hg'
  cases hg'

end Steps

/-! ### Runs -/

section Runs

variable (env : Setting) {s s' : State} {w p : Nat} {now : Int} {ack : Ack}

theorem Keyed.log (h : Keyed s.written) : Keyed s.log where
  distinct := h.distinct.sublist (filter_sublist.map _)
  serial := fun r hr => h.serial r (mem_filter.mp hr).1

section

variable (h : Inv env s)
include h

theorem inv_receive {row : LogRow} (hs : step env s (.receive row) = some s') :
    Inv env s' := by
  rw [step] at hs
  split at hs
  · rename_i hrow
    cases hs
    have hsub : ∀ r ∈ s.written, r ∈ s.written ++ [row] := fun r hr => mem_append_left _ hr
    refine { h with
      written := ⟨?_, ?_⟩
      right := fun a ha => ?_
      found := fun p tenant found window hp => ?_ }
    · rw [map_append, map_singleton]
      refine nodup_append.mpr ⟨h.written.distinct, nodup_singleton _, ?_⟩
      intro n hn m hm heq
      obtain ⟨r, hr, rfl⟩ := mem_map.mp hn
      rw [mem_singleton] at hm
      exact hrow.2.2 r hr (heq.trans hm)
    · intro r hr
      rcases mem_append.mp hr with hr | hr
      · exact h.written.serial r hr
      · rw [mem_singleton.mp hr]
        exact hrow.1
    · obtain ⟨r, hr, hrest⟩ := h.right a ha
      exact ⟨r, hsub r hr, hrest⟩
    · obtain ⟨hfound, hwindow⟩ := h.found p tenant found window hp
      refine ⟨fun c hc => ?_, hwindow⟩
      obtain ⟨r, hr, hrest⟩ := hfound c hc
      exact ⟨r, hsub r hr, hrest⟩
  · cases hs

theorem inv_list {tenant : Nat} (ho : Orderly env s (.list p tenant now))
    (hs : step env s (.list p tenant now) = some s') : Inv env s' := by
  rw [step] at hs
  split at hs
  · rename_i hp
    cases hs
    refine h.sweeps (fun tenant' found window heq => ?_) (fun _ _ heq => by cases heq)
      fun tenant' ids hq => ?_
    · cases heq
      refine ⟨fun c hc => ?_, fun r hr hcarrier => ?_⟩
      · obtain ⟨r, hr, hid⟩ := candidates_mem hc
        exact ⟨r, (mem_filter.mp hr).1, hid, ho.1 c hc r hr hid⟩
      · obtain ⟨hlog, hwindow⟩ := mem_filter.mp hr
        refine (ho.2 r hlog hwindow hcarrier).imp_right fun hnewest => ?_
        exact candidates_of_newest h.written.log hlog hwindow hnewest
    · rw [hp] at hq
      cases hq
  · cases hs

theorem inv_claimReceipts (ho : Orderly env s (.claimReceipts p ack))
    (hs : step env s (.claimReceipts p ack) = some s') : Inv env s' := by
  rw [step] at hs
  split at hs
  · rename_i tenant found window hp
    have hended : Inv env (s.setSweep p .ended) := h.sweeps (fun _ _ _ heq => by cases heq)
      (fun _ _ heq => by cases heq) fun tenant' ids hq => by
        rw [hp] at hq
        cases hq
    cases ack with
    | ok =>
      cases hs
      exact h.claim hp
    | lost error =>
      cases hs
      have hnone := (ho tenant found window hp rfl).resolve_left fun heq => by cases heq
      obtain ⟨rows, -, heq⟩ := claimReceipts_spec env tenant found s.attempts
      rw [heq] at hnone
      have hrows : rows = [] := by
        refine length_eq_zero_iff.mp ?_
        simpa using hnone
      simp only [heq, hrows, append_nil]
      exact hended
    | refused error =>
      cases hs
      exact hended
  · cases hs

theorem inv_look {hosts : String} (hs : step env s (.look w hosts ack) = some s') :
    Inv env s' := by
  rw [step] at hs
  split at hs
  · rename_i id job record hx
    cases ack with
    | ok =>
      cases hs
      exact h.look hx
    | lost _ | refused _ =>
      cases hs
      exact h.stays hx rfl rfl (fun _ hr => by cases hr) fun _ heq => by cases heq
  · cases hs

theorem inv_answer {response : Except String Nat}
    (hs : step env s (.answer w response) = some s') : Inv env s' := by
  rw [step] at hs
  split at hs
  · rename_i id job record target host hx
    cases response with
    | error message =>
      cases hs
      exact h.stays hx rfl rfl (fun _ hr => by cases hr) fun _ heq => by cases heq
    | ok status =>
      cases hs
      exact h.answer hx status
  · cases hs

theorem inv_complete (hs : step env s (.complete w now ack) = some s') :
    Inv env s' := by
  simp only [step] at hs
  split at hs
  · rename_i id job result hx
    cases hs
    refine h.release hx rfl ?_ (fun row row' hrow => (completeJob_spec hrow).1)
      (fun row row' hrow => .inr ?_) (fun _ _ _ _ => .inr fun i a hi ha => ?_) ack.committed
    · cases ack with
      | ok => exact .inl rfl
      | lost error | refused error => exact .inr ⟨error, false, rfl⟩
    · rw [(completeJob_spec hrow).2.2.2]
      exact fun heq => by cases heq
    · rw [h.returned w _ result hx rfl i a hi ha]
      rfl
  · cases hs

/-- **One step.** -/
theorem inv_step {a : Action} (ho : Orderly env s a)
    (hs : step env s a = some s') : Inv env s' := by
  cases a with
  | receive _ => exact inv_receive env h hs
  | purge sqlId =>
    cases hs
    exact { h with quiet := h.quiet }
  | list _ _ _ => exact inv_list env h ho hs
  | claimReceipts _ _ => exact inv_claimReceipts env h ho hs
  | enqueue p now ack =>
    rw [step] at hs
    split at hs
    · rename_i tenant id ids hp
      cases hs
      obtain ⟨hcommitted, hlast⟩ := ho tenant id ids hp
      rw [if_pos hcommitted]
      exact h.enqueue hp now fun hne => hlast.resolve_left hne
    · cases hs
  | leave p =>
    obtain ⟨sweep, hp, rfl⟩ := map_eq_some_iff.mp hs
    exact h.sweeps (fun _ _ _ heq => by cases heq) (fun _ _ heq => by cases heq)
      fun tenant ids hq => ho tenant ids hq
  | create subject now =>
    cases hs
    exact h.create subject now ho
  | claimJob w id workerId now =>
    rw [step] at hs
    split at hs
    · rename_i row' hw hclaim
      cases hs
      obtain ⟨row, hrow, hrow'⟩ := Option.bind_eq_some_iff.mp hclaim
      exact h.claimJob hw hrow hrow'
    · cases hs
  | read w ack =>
    rw [step] at hs
    split at hs
    · rename_i id job hx
      cases hs
      exact h.read hx ack
    · cases hs
  | look _ _ _ => exact inv_look env h hs
  | close w now ack =>
    rw [step] at hs
    split at hs
    · rename_i id job status error message hx
      cases hs
      refine h.writes hx rfl rfl (leaves_complete _ _ _ _ _) ack.committed (fun hhe => ?_) fun _ heq => ?_
      · cases ack <;> cases hhe
      · cases ack <;> cases heq
    · cases hs
  | answer _ _ => exact inv_answer env h hs
  | write w now ack =>
    rw [step] at hs
    split at hs
    · rename_i id job record target host status hx
      cases hs
      exact h.write now hx fun hok => ho _ hx hok
    · cases hs
  | record w ack =>
    rw [step] at hs
    split at hs
    · rename_i id job message hx
      cases hs
      refine h.writes hx rfl rfl (leaves_record _ _ _) ack.committed (fun hhe => ?_) fun _ heq => ?_
      · cases ack <;> cases hhe
      · cases ack <;> cases heq
    · cases hs
  | progress w percent now =>
    obtain ⟨x, hx, rfl⟩ := map_eq_some_iff.mp hs
    refine h.statement (fun row row' hrow => (reportProgress_spec hrow).1)
      (fun row row' _ hrow => ?_) fun row row' _ hrow => ?_
    · obtain ⟨-, -, hrunning, hrunning'⟩ := reportProgress_spec hrow
      exact .inl (hrunning'.trans hrunning.symm)
    · exact .inl (live_of_running (reportProgress_spec hrow).2.2.2)
  | complete _ _ _ => exact inv_complete env h hs
  | fail w now ack =>
    rw [step] at hs
    split at hs
    · rename_i id job message permanent hx
      cases hs
      exact h.fail hx now fun hcommitted hexhausted =>
        ho _ message permanent hx rfl hcommitted hexhausted
    · cases hs
  | dies w =>
    obtain ⟨x, hx, rfl⟩ := map_eq_some_iff.mp hs
    cases hxe : x.hand.engaged with
    | true => exact h.stays hx hxe (ho x hx) (fun _ hr => by cases hr) fun _ heq => by cases heq
    | false =>
      exact h.moves hx hxe (.inl rfl) (fun hhe => by cases hhe) fun _ heq => by cases heq
  | cancel id reason now =>
    cases hs
    exact h.statement (fun row row' hrow => (Platform.cancelOn_spec hrow).1)
      (fun _ _ _ _ => .inr ho.1.nobody) fun _ _ _ _ => .inr ho.2
  | reap id staleAfterMs now =>
    cases hs
    refine h.statement (fun row row' hrow => (Platform.reapStuck_spec hrow).1)
      (fun _ _ _ _ => .inr ho.1.nobody) fun row row' hrow hreap => ?_
    rcases ho.2 row hrow with hlt | hsettled
    · exact .inl (Platform.reapStuck_live (Nat.not_le.mpr hlt) hreap)
    · exact .inr hsettled

end

/-- **Receipts are forwarded once, in every orderly run**: by the tenant whose bind carried them, one
attempt each, with a job for as long as it is open, and no call after a success. -/
theorem receipts_forwarded (env : Setting) (actions : List Action) (s : State)
    (horderly : (forwarding env).Along (Orderly env) init actions)
    (hrun : (forwarding env).run init actions = some s) : Forwarded env s :=
  ((forwarding env).invariant_along (fun _ _ _ hi ho hs => inv_step env hi ho hs) (inv_init env)
    horderly hrun).forwarded

end Runs

/-! ### A run that keeps the promise, and runs that do not -/

/-- A client's endpoint. -/
def callback : String := "https://crm.example/dlr?m=%d"

/-- Two tenants with a bind each. -/
def twoTenants : Setting where
  text := .ascii
  parseUrl := fun url => if url = callback then some ⟨"https:", "crm.example"⟩ else none
  tenantOf := fun bind =>
    if bind = "bind-a" then some 0 else if bind = "bind-b" then some 1 else none
  tuning := ⟨5000, 300000⟩

/-- A receipt of the first tenant's. -/
def receipt : LogRow where
  row := ⟨1, some "DLR", some "8080", some "256700000001", some "", some 1000, some "bind-a", some 1,
    some "f"⟩
  dlrUrl := some callback

/-- It comes in, and a tenant's sweep claims it. -/
def claimedBy (tenant : Nat) : List Action :=
  [.receive receipt, .list 0 tenant 2000, .claimReceipts 0 .ok]

/-- A worker calls the endpoint, which answers with a 200; then the attempt's row is written. -/
def called (w id : Nat) (now : Int) (ack : Ack) : List Action :=
  [.claimJob w id "a" now, .read w .ok, .look w "crm.example" .ok, .answer w (.ok 200),
    .write w now ack]

/-- The receipt is swept up by its own tenant, and forwarded. -/
def forwardedRun : List Action :=
  claimedBy 0 ++ .enqueue 0 3000 .ok :: called 0 0 4000 .ok ++ [.complete 0 5000 .ok]

theorem receipts_forwarded_forwardedRun :
    ∃ s, (forwarding twoTenants).run init forwardedRun = some s ∧ Forwarded twoTenants s := by
  refine ⟨_, rfl, receipts_forwarded twoTenants forwardedRun _ ?_ rfl⟩
  refine (forwarding twoTenants).along_cons rfl trivial ?_
  refine (forwarding twoTenants).along_cons rfl ⟨?_, ?_⟩ ?_
  · decide +kernel
  · intro r hr _ _
    obtain rfl : r = receipt := by simpa [State.log, init] using hr
    exact Or.inr (show List.length _ ≤ 200 by decide +kernel)
  · refine Transition.System.along_of_mem _ (fun a ha s => ?_) _
    change a ∈ [Action.claimReceipts 0 .ok, .enqueue 0 3000 .ok, .claimJob 0 0 "a" 4000, .read 0 .ok,
      .look 0 "crm.example" .ok, .answer 0 (.ok 200), .write 0 4000 .ok, .complete 0 5000 .ok] at ha
    simp only [mem_cons, not_mem_nil, or_false] at ha
    rcases ha with rfl | rfl | rfl | rfl | rfl | rfl | rfl | rfl
    · exact fun _ _ _ _ _ => Or.inl rfl
    · exact fun _ _ _ _ => ⟨rfl, Or.inl rfl⟩
    · trivial
    · trivial
    · trivial
    · trivial
    · exact fun _ _ _ => rfl
    · trivial

/-- **Receipts go astray.**  The other tenant's sweep claims the receipt; a sweep ends between its
claim and its jobs, and the attempt is left without one; and when the write behind a 200 is refused,
the endpoint is called again. -/
theorem receipts_go_astray :
    (∃ s, (forwarding twoTenants).run init (claimedBy 1) = some s ∧ ¬ Forwarded twoTenants s) ∧
    (∃ s, (forwarding twoTenants).run init (claimedBy 0 ++ [.leave 0]) = some s ∧
      ¬ Forwarded twoTenants s) ∧
    ∃ s, (forwarding twoTenants).run init (claimedBy 0 ++ .enqueue 0 3000 .ok ::
        called 0 0 4000 (.refused "Connection terminated") ++
          [.record 0 .ok, .fail 0 5000 .ok, .claimJob 1 0 "a" 20000, .read 1 .ok,
            .look 1 "crm.example" .ok]) = some s ∧
      s.repeated = [1] ∧ ¬ Forwarded twoTenants s := by
  refine ⟨⟨_, rfl, fun h => ?_⟩, ⟨_, rfl, fun h => ?_⟩, ?_⟩
  · obtain ⟨r, hr, -, htenant⟩ := h.right (newAttempt twoTenants 1 ⟨1, callback, 1⟩)
      (by decide +kernel)
    change r ∈ [receipt] at hr
    obtain rfl := mem_singleton.mp hr
    exact absurd htenant (by decide)
  · rcases h.live 0 (newAttempt twoTenants 0 ⟨1, callback, 1⟩) (by decide +kernel) rfl with
      ⟨n, hn, -⟩ | ⟨p, tenant, ids, hp, -⟩
    · cases hn
    · rcases update_eq_some hp with ⟨-, hended⟩ | ⟨hne, hp⟩
      · cases hended
      · rcases update_eq_some hp with ⟨heq, -⟩ | ⟨-, hp⟩
        · exact hne heq
        · rcases update_eq_some hp with ⟨heq, -⟩ | ⟨-, hp⟩
          · exact hne heq
          · cases hp
  · obtain ⟨s, hrun, hs⟩ := (forwarding twoTenants).exists_run (s := init)
      (fun s => s.repeated = [1]) (w := claimedBy 0 ++ .enqueue 0 3000 .ok ::
        called 0 0 4000 (.refused "Connection terminated") ++
          [.record 0 .ok, .fail 0 5000 .ok, .claimJob 1 0 "a" 20000, .read 1 .ok,
            .look 1 "crm.example" .ok]) (by decide +kernel)
    have hrepeated : s.repeated = [1] := by simpa using hs
    exact ⟨s, hrun, hrepeated, fun h => by rw [h.quiet] at hrepeated; cases hrepeated⟩

end Jkannel.Messaging.Dlr

