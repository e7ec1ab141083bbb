import Jkannel.Engine.Sqlbox
import Jkannel.Lib.Ranking

/-!
# The newest receipt

Whatever reads a message's delivery reports reads one of them: the newest, by its time and then by its
key, a report without a time counting as newer than all others.

* `newestReceipt` is that report, and `latestDeliveryEvents` what a batch of correlation ids gets.
* `IsNewest` says which it is without a sort (`newestReceipt_iff`).
* `classify_delivered_iff` is what the log's status comes to.
-/

namespace Jkannel.Engine

/-! ## The order of the log -/

instance : Std.TransCmp (compareNulls (compare : Int → Int → Ordering)) where
  eq_swap {a b} := by
    cases a with
    | none => cases b <;> rfl
    | some a =>
      cases b with
      | none => rfl
      | some b => exact @Std.OrientedCmp.eq_swap Int compare _ _ _
  isLE_trans {a b c} hab hbc := by
    cases a with
    | none =>
      cases b with
      | none => exact hbc
      | some b => cases hab
    | some a =>
      cases b with
      | none => cases c with
        | none => rfl
        | some c => cases hbc
      | some b => cases c with
        | none => rfl
        | some c => exact @Std.TransCmp.isLE_trans Int compare _ _ _ _ hab hbc

/-- `ORDER BY time, sql_id`. -/
def compareRows (a b : SqlboxRow) : Ordering :=
  (compareNulls compare a.time b.time).then (compare a.sqlId b.sqlId)

instance : Std.TransCmp compareRows := by
  have htime : Std.TransCmp fun a b : SqlboxRow => compareNulls compare a.time b.time :=
    Ranking.transCmp_on (compareNulls compare) SqlboxRow.time
  have hkey : Std.TransCmp fun a b : SqlboxRow => compare a.sqlId b.sqlId :=
    Ranking.transCmp_on compare SqlboxRow.sqlId
  exact inferInstanceAs (Std.TransCmp (compareLex
    (fun a b : SqlboxRow => compareNulls compare a.time b.time)
    fun a b => compare a.sqlId b.sqlId))

/-- `ORDER BY time DESC, sql_id DESC`. -/
def compareNewest (a b : SqlboxRow) : Ordering := compareRows b a

instance : Std.TransCmp compareNewest := @Std.TransCmp.opposite _ compareRows _

theorem newerReport_iff (r s : SqlboxRow) : newerReport r s = true ↔ compareNewest r s ≠ .gt := by
  have hswap : compareNewest r s =
      (compareNulls compare r.time s.time).swap.then (compare r.sqlId s.sqlId).swap := by
    rw [compareNewest, @Std.OrientedCmp.eq_swap _ compareRows, compareRows, Ordering.swap_then]
  rw [newerReport, hswap, Ordering.isLE_iff_ne_gt]

theorem insertionSort_newerReport (rows : List SqlboxRow) :
    rows.insertionSort (newerReport · ·) = rows.insertionSort (compareNewest · · ≠ .gt) := by
  have h := List.map_insertionSort (newerReport · · = true) (compareNewest · · ≠ .gt) id rows
    fun a _ b _ => newerReport_iff a b
  rwa [List.map_id, List.map_id] at h

/-! ## Receipts -/

/-- The delivery reports that carry a correlation id. -/
def receiptsOf (sent : List SqlboxRow) (foreignId : String) : List SqlboxRow :=
  sent.filter fun r => r.momt = some "DLR" ∧ r.foreignId = some foreignId

/-- The receipt that counts. -/
def newestReceipt (sent : List SqlboxRow) (foreignId : String) : Option SqlboxRow :=
  ((receiptsOf sent foreignId).insertionSort (newerReport · ·)).head?

/-- `latestDeliveryEvents`: the event of the newest report for each correlation id that has one. A
report without a mask has event zero. -/
def latestDeliveryEvents (sent : List SqlboxRow) (foreignIds : List String) :
    List (String × Int) :=
  (foreignIds.filter (· ≠ "")).dedup.filterMap fun foreignId =>
    (newestReceipt sent foreignId).map fun r => (foreignId, r.dlrMask.getD 0)

/-- A report that is no older than any other of its correlation id. -/
def IsNewest (sent : List SqlboxRow) (foreignId : String) (r : SqlboxRow) : Prop :=
  r ∈ receiptsOf sent foreignId ∧ ∀ s ∈ receiptsOf sent foreignId, compareNewest r s ≠ .gt

/-- Two rows of one place in the order have one key. -/
theorem sqlId_eq_of_compareNewest {r s : SqlboxRow} (h : compareNewest r s = .eq) :
    r.sqlId = s.sqlId := by
  rw [compareNewest, compareRows, Ordering.then_eq_eq, compare_eq_iff_eq] at h
  exact h.2.symm

section Table

variable {t : EngineTable} {foreignId : String} {r m : SqlboxRow}

/-- **The newest receipt**, said without a sort. -/
theorem newestReceipt_iff :
    newestReceipt t.rows foreignId = some r ↔ IsNewest t.rows foreignId r := by
  rw [newestReceipt, insertionSort_newerReport, Ranking.head?_insertionSort_iff]
  constructor
  · exact fun h => ⟨h.mem, h.least⟩
  · rintro ⟨hr, hnewest⟩
    obtain ⟨m, hm⟩ : ∃ m, Ranking.Leads compareNewest (receiptsOf t.rows foreignId) m := by
      cases hhead : ((receiptsOf t.rows foreignId).insertionSort (compareNewest · · ≠ .gt)).head? with
      | none =>
        rw [List.head?_eq_none_iff] at hhead
        have := (List.mem_insertionSort (compareNewest · · ≠ .gt)).mpr hr
        rw [hhead] at this
        cases this
      | some m => exact ⟨m, Ranking.leads_of_head? hhead⟩
    have htie : compareNewest m r = .eq :=
      Std.OrientedCmp.isLE_antisymm (Ordering.isLE_iff_ne_gt.mpr (hm.least r hr))
        (Ordering.isLE_iff_ne_gt.mpr (hnewest m hm.mem))
    have hrows : ∀ {s : SqlboxRow}, s ∈ receiptsOf t.rows foreignId → s ∈ t.rows :=
      fun hs => List.mem_of_mem_filter hs
    obtain rfl : m = r := List.inj_on_of_nodup_map t.distinct (hrows hm.mem) (hrows hr)
      (sqlId_eq_of_compareNewest htie)
    exact hm

/-- The newest receipt says that the message was delivered. -/
def NewestDelivered (sent : List SqlboxRow) (foreignId : String) : Prop :=
  ∃ r, IsNewest sent foreignId r ∧ r.dlrMask = some 1

theorem latestDlr_eq (hmt : m.momt = some "MT") (hforeign : m.foreignId = some foreignId) :
    latestDlr t.rows m = newestReceipt t.rows foreignId := by
  have hnot : m.momt ≠ some "DLR" := by rw [hmt]; decide
  rw [latestDlr, if_pos ⟨hnot, by rw [hforeign]; rfl⟩, newestReceipt, receiptsOf, hforeign]

theorem decodeDlrMask_delivered {mask : Int} : decodeDlrMask mask = .delivered ↔ mask = 1 := by
  rw [decodeDlrMask]
  split_ifs with h1 <;> simp_all

/-- **What the log's status comes to**: delivered exactly when the newest receipt says so. -/
theorem classify_delivered_iff (hmt : m.momt = some "MT") (hforeign : m.foreignId = some foreignId) :
    (classify false t.rows m).deliveryStatus = .delivered ↔ NewestDelivered t.rows foreignId := by
  have hnot : m.momt ≠ some "DLR" := by rw [hmt]; decide
  simp only [classify, Bool.false_eq_true, if_false, deliveryStatusSql, if_neg hnot,
    latestDlr_eq hmt hforeign]
  constructor
  · intro h
    cases hnewest : newestReceipt t.rows foreignId with
    | none =>
      rw [hnewest] at h
      cases h
    | some r =>
      refine ⟨r, newestReceipt_iff.mp hnewest, ?_⟩
      rw [hnewest, Option.bind_some] at h
      cases hmask : r.dlrMask with
      | none =>
        rw [hmask] at h
        cases h
      | some mask =>
        rw [hmask] at h
        rw [decodeDlrMask_delivered.mp h]
  · rintro ⟨r, hnewest, hmask⟩
    rw [newestReceipt_iff.mpr hnewest, Option.bind_some, hmask]
    rfl

end Table

end Jkannel.Engine
