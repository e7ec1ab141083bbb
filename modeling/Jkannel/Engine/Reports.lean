import Mathlib
import Jkannel.Engine.Sqlbox

/-!
# The reports a retry scan reads

A delivery report says nothing about the message it reports on but its `foreign_id`, so the scan's
query joins each report to the message, and scopes it by the message's bind.

* `negativeReports` is the join, and `findNegativeDeliveryReports` the page a scan gets of it: above
  its watermark, in the order of the engine's keys.
* `find_complete` is what a watermark rests on: whatever comes no later than a row of the page is on
  the page.
* `negativeReports_grow` says how the join grows with the log.
-/

namespace Jkannel.Engine

open List Option

/-- A negative delivery report, joined to the message it reports on. -/
structure NegativeDeliveryReport where
  /-- The report's own key, on which the watermark advances. -/
  dlrSqlId : Nat
  /-- The key of the message it reports on. -/
  foreignId : String
  dlrEvent : Int
  /-- When it happened, in epoch milliseconds. -/
  dlrAt : Option Int
  detail : Option String
  sender : String
  receiver : String
  text : String
  /-- The message's bind. -/
  smscId : String
  deriving DecidableEq

def isReport (r : SqlboxRow) : Bool := r.momt = some "DLR"

/-- `ORDER BY o.time ASC, o.sql_id ASC`, nulls last. -/
def bySentAsc (a b : SqlboxRow) : Bool :=
  match a.time, b.time with
  | some s, some t => s < t || (s = t && a.sqlId ≤ b.sqlId)
  | some _, none => true
  | none, some _ => false
  | none, none => a.sqlId ≤ b.sqlId

/-- The lateral join: the first message sent under this key. -/
def reportedMessage (sent : List SqlboxRow) (foreignId : String) : Option SqlboxRow :=
  ((sent.filter fun o => o.momt = some "MT" && o.foreignId = some foreignId).insertionSort
    (bySentAsc · ·)).head?

def epochMs (time : Option Int) : Option Int :=
  (time.filter (0 < ·)).map (· * 1000)

/-- A report with its message, if the query selects it. -/
def joinReport (sent : List SqlboxRow) (events : List Int) (allowedSmscIds : List String)
    (r : SqlboxRow) : Option NegativeDeliveryReport :=
  if isReport r then do
    let foreignId ← r.foreignId
    let event ← r.dlrMask
    let m ← reportedMessage sent foreignId
    let smscId ← m.smscId
    if event ∈ events ∧ smscId ∈ allowedSmscIds then some {
      dlrSqlId := r.sqlId
      foreignId := foreignId
      dlrEvent := event
      dlrAt := epochMs r.time
      detail := r.msgdata
      sender := m.sender.getD ""
      receiver := m.receiver.getD ""
      text := m.msgdata.getD ""
      smscId := smscId }
    else none
  else none

/-- Every report of the events, on a message of the binds. -/
def negativeReports (sent : List SqlboxRow) (events : List Int) (allowedSmscIds : List String) :
    List NegativeDeliveryReport :=
  sent.filterMap (joinReport sent events allowedSmscIds)

def byReportAsc (a b : NegativeDeliveryReport) : Bool := a.dlrSqlId ≤ b.dlrSqlId

/-- One page of them, above the watermark and the oldest first. -/
def findNegativeDeliveryReports (sent : List SqlboxRow) (afterSqlId : Nat) (events : List Int)
    (allowedSmscIds : List String) (limit : Nat) : List NegativeDeliveryReport :=
  (((negativeReports sent events allowedSmscIds).filter fun r => afterSqlId < r.dlrSqlId)
    |>.insertionSort (byReportAsc · ·)).take limit

/-- `Math.min(Math.max(Number(limit ?? 200) || 200, 1), 1000)`. -/
def reportLimit (limit : Option Int) : Nat :=
  let asked := limit.getD 200
  (min (max (if asked = 0 then 200 else asked) 1) 1000).toNat

/-! ## The page -/

section Page

variable {sent : List SqlboxRow} {afterSqlId limit : Nat} {events : List Int}
  {allowedSmscIds : List String}

theorem byReportAsc_sorted (rs : List NegativeDeliveryReport) :
    (rs.insertionSort (byReportAsc · ·)).Pairwise fun a b => a.dlrSqlId ≤ b.dlrSqlId := by
  have htotal : Std.Total fun a b => byReportAsc a b = true :=
    ⟨fun a b => by simpa [byReportAsc] using Nat.le_total a.dlrSqlId b.dlrSqlId⟩
  have htrans : IsTrans NegativeDeliveryReport fun a b => byReportAsc a b = true :=
    ⟨fun a b c hab hbc => by
      simp only [byReportAsc, decide_eq_true_eq] at hab hbc ⊢
      exact Nat.le_trans hab hbc⟩
  exact (List.pairwise_insertionSort (byReportAsc · ·) rs).imp fun h => by
    simpa [byReportAsc] using h

theorem find_sorted :
    (findNegativeDeliveryReports sent afterSqlId events allowedSmscIds limit).Pairwise
      fun a b => a.dlrSqlId ≤ b.dlrSqlId :=
  (byReportAsc_sorted _).sublist (take_sublist ..)

theorem mem_find {x : NegativeDeliveryReport}
    (h : x ∈ findNegativeDeliveryReports sent afterSqlId events allowedSmscIds limit) :
    x ∈ negativeReports sent events allowedSmscIds ∧ afterSqlId < x.dlrSqlId := by
  have hsorted := mem_of_mem_take h
  have hmem := (perm_insertionSort (byReportAsc · ·) _).subset hsorted
  simpa using mem_filter.mp hmem

/-- **The page is a beginning**: a report that comes no later than one on the page is on it. -/
theorem find_complete {r x : NegativeDeliveryReport}
    (hr : r ∈ negativeReports sent events allowedSmscIds) (hafter : afterSqlId < r.dlrSqlId)
    (hx : x ∈ findNegativeDeliveryReports sent afterSqlId events allowedSmscIds limit)
    (hle : r.dlrSqlId ≤ x.dlrSqlId) :
    ∃ y ∈ findNegativeDeliveryReports sent afterSqlId events allowedSmscIds limit,
      y.dlrSqlId = r.dlrSqlId := by
  have hsorted := byReportAsc_sorted
    ((negativeReports sent events allowedSmscIds).filter fun r => afterSqlId < r.dlrSqlId)
  have hmem : r ∈ ((negativeReports sent events allowedSmscIds).filter fun r =>
      afterSqlId < r.dlrSqlId).insertionSort (byReportAsc · ·) :=
    (perm_insertionSort _ _).symm.subset
      (mem_filter.mpr ⟨hr, decide_eq_true hafter⟩)
  rw [← take_append_drop limit (List.insertionSort _ _), mem_append] at hmem
  rw [← take_append_drop limit (List.insertionSort _ _), pairwise_append] at hsorted
  rcases hmem with htake | hdrop
  · exact ⟨r, htake, rfl⟩
  · -- what is left out is no earlier than what is on the page
    exact ⟨x, hx, Nat.le_antisymm (hsorted.2.2 x hx r hdrop) hle⟩

end Page

/-! ## The log -/

section Log

variable {sent : List SqlboxRow} {events : List Int} {allowedSmscIds : List String}

theorem reportedMessage_append (sent : List SqlboxRow) {row : SqlboxRow} {foreignId : String}
    (h : row.momt = some "MT" → row.foreignId ≠ some foreignId) :
    reportedMessage (sent ++ [row]) foreignId = reportedMessage sent foreignId := by
  have hnot : (row.momt = some "MT" && row.foreignId = some foreignId) = false := by
    by_cases hmt : row.momt = some "MT"
    · simp [h hmt]
    · simp [hmt]
  rw [reportedMessage, reportedMessage, filter_append, filter_cons_of_neg (by simpa using hnot)]
  simp

/-- A message is logged before its reports, so a new row leaves the reports there are as they
are. -/
def LoggedInOrder (sent : List SqlboxRow) (row : SqlboxRow) : Prop :=
  row.momt = some "MT" → ∀ r ∈ sent, isReport r = true → row.foreignId = none ∨
    r.foreignId ≠ row.foreignId

instance (sent : List SqlboxRow) (row : SqlboxRow) : Decidable (LoggedInOrder sent row) :=
  inferInstanceAs (Decidable (_ → _))

theorem joinReport_append {row r : SqlboxRow} (horder : LoggedInOrder sent row) (hr : r ∈ sent) :
    joinReport (sent ++ [row]) events allowedSmscIds r = joinReport sent events allowedSmscIds r := by
  unfold joinReport
  split
  · rename_i hreport
    cases hforeign : r.foreignId with
    | none => rfl
    | some foreignId =>
      have hsame : reportedMessage (sent ++ [row]) foreignId = reportedMessage sent foreignId := by
        refine reportedMessage_append sent fun hmt heq => ?_
        rcases horder hmt r hr hreport with hnone | hne
        · rw [hnone] at heq
          cases heq
        · exact hne (hforeign.trans heq.symm)
      simp only [bind_eq_bind, bind_some, hsame]
  · rfl

/-- **The join grows with the log**: by the new row's report, if it is one. -/
theorem negativeReports_grow {row : SqlboxRow} (horder : LoggedInOrder sent row) :
    negativeReports (sent ++ [row]) events allowedSmscIds =
      negativeReports sent events allowedSmscIds ++
        (joinReport (sent ++ [row]) events allowedSmscIds row).toList := by
  rw [negativeReports, filterMap_append, negativeReports]
  congr 1
  exact filterMap_congr fun r hr => joinReport_append horder hr

theorem joinReport_spec {r : SqlboxRow} {x : NegativeDeliveryReport}
    (h : joinReport sent events allowedSmscIds r = some x) :
    isReport r = true ∧ x.dlrSqlId = r.sqlId ∧ r.foreignId = some x.foreignId ∧
      x.dlrEvent ∈ events := by
  unfold joinReport at h
  split at h
  · rename_i hreport
    simp only [bind_eq_bind, bind_eq_some_iff] at h
    obtain ⟨foreignId, hforeign, event, -, m, -, smscId, -, hselected⟩ := h
    split at hselected
    · rename_i hin
      cases hselected
      exact ⟨hreport, rfl, hforeign, hin.1⟩
    · cases hselected
  · cases h

/-- The same reports, for fewer events. -/
theorem mem_negativeReports_of_event {events' : List Int} {x : NegativeDeliveryReport}
    (h : x ∈ negativeReports sent events allowedSmscIds) (hevent : x.dlrEvent ∈ events') :
    x ∈ negativeReports sent events' allowedSmscIds := by
  obtain ⟨r, hr, hjoin⟩ := mem_filterMap.mp h
  refine mem_filterMap.mpr ⟨r, hr, ?_⟩
  unfold joinReport at hjoin ⊢
  split at hjoin
  · rename_i hreport
    rw [if_pos hreport]
    simp only [bind_eq_bind, bind_eq_some_iff] at hjoin ⊢
    obtain ⟨foreignId, hforeign, event, hmask, m, hm, smscId, hsmsc, hselected⟩ := hjoin
    refine ⟨foreignId, hforeign, event, hmask, m, hm, smscId, hsmsc, ?_⟩
    split at hselected
    · rename_i hin
      cases hselected
      rw [if_pos ⟨hevent, hin.2⟩]
    · cases hselected
  · cases hjoin

end Log

end Jkannel.Engine
