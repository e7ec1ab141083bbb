import Jkannel.Engine.Sqlbox

/-!
# Resending from the log

An operator resends messages that the log shows, either by id or all that a filter finds; a filter
that names no status finds what failed or was rejected.

* `resend` says for each id what becomes of it, short of the engine's own answer to the submission.
* `submitted_status` is what the filter is for: what it submits has one of the statuses asked for.
-/

namespace Jkannel.QueueConsole

open List
open Engine

/-- The filter of a history page and of a filtered resend. -/
structure HistoryQuery where
  limit : Option Int := none
  cursor : Option Nat := none
  smscId : Option String := none
  query : Option String := none
  /-- A delivery status or a group of them. -/
  status : Option String := none

/-- What is to be sent again. -/
structure ResendRequest where
  /-- Rows' own keys or correlation ids; the filter is not looked at when there are any. -/
  ids : List String := []
  filter : Option HistoryQuery := none

/-- Cap on a filtered resend. -/
def MAX_RESEND_BATCH : Int := 500

def resendOptions (filter : HistoryQuery) (allowed : List String) : SqlboxListOptions where
  smscId := filter.smscId
  query := filter.query
  cursor := filter.cursor
  status := some (filter.status.getD "resendable")
  excludeDlr := true
  limit := some (filter.limit.getD MAX_RESEND_BATCH)
  allowedSmscIds := some allowed

/-- `findSentForResend`. -/
def findSentForResend (sent : List SqlboxRow) (ids allowed : List String) : List ClassifiedRow :=
  if ids = [] ∨ allowed = [] then []
  else ((sent.filter fun m =>
      (ids.contains (toString m.sqlId) || m.foreignId.any ids.contains) &&
        m.smscId.any allowed.contains).insertionSort (bySqlIdDesc · ·)).map (classify false sent)

/-- The ids that a request comes to, and the rows of the log that they are looked up in. -/
def resendRows (env : TextEngine) (sent : List SqlboxRow) (allowed : List String)
    (request : ResendRequest) : Except SqlboxError (List String × List ClassifiedRow) :=
  if request.ids ≠ [] then .ok (request.ids, findSentForResend sent request.ids allowed)
  else (list env sent (resendOptions (request.filter.getD {}) allowed)).map fun page =>
    (page.items.map fun item => toString item.row.sqlId, page.items)

/-- The row an id stands for, a message rather than its report. -/
def resendSource (rows : List ClassifiedRow) (id : String) : Option ClassifiedRow :=
  let found := rows.filter fun c => toString c.row.sqlId = id || c.row.foreignId = some id
  (found.find? fun c => c.row.momt ≠ some "DLR").or found.head?

/-- What becomes of an id. -/
inductive ResendResult where
  | notFound | deliveryReport | incomplete
  /-- A new spool row with this row's content is submitted. -/
  | submit (source : ClassifiedRow)

def resendResult (rows : List ClassifiedRow) (id : String) : ResendResult :=
  match resendSource rows id with
  | none => .notFound
  | some source =>
    if source.row.momt = some "DLR" then .deliveryReport
    else if (Text.truthy source.row.receiver).isNone ∨ source.row.msgdata = none then .incomplete
    else .submit source

/-- `QueueConsoleService.resend`. -/
def resend (env : TextEngine) (sent : List SqlboxRow) (allowed : List String)
    (request : ResendRequest) : Except SqlboxError (List ResendResult) :=
  (resendRows env sent allowed request).map fun found => found.1.map (resendResult found.2)

variable {source : ClassifiedRow} {env : TextEngine} {sent : List SqlboxRow}
  {settings : SqlboxListOptions} {wanted : List DeliveryStatus} {rows : List ClassifiedRow}

theorem resendSource_mem {id : String}
    (h : resendSource rows id = some source) : source ∈ rows := by
  rw [resendSource, Option.or_eq_some_iff] at h
  rcases h with h | ⟨-, h⟩
  · exact mem_of_mem_filter (mem_of_find?_eq_some h)
  · exact mem_of_mem_filter (mem_of_mem_head? h)

theorem resendResult_submit {id : String}
    (h : resendResult rows id = .submit source) : source ∈ rows := by
  rw [resendResult] at h
  split at h
  · cases h
  · next found hfound =>
    split at h
    · cases h
    split at h
    · cases h
    · rw [← ResendResult.submit.inj h]
      exact resendSource_mem hfound

/-- What is on a page of the log was selected for it. -/
theorem list_selected {page : ListPage} (h : list env sent settings = .ok page) :
    ∃ sort statuses, resolveDeliveryStatuses env (statusExpr settings) = .ok statuses ∧
      ∀ item ∈ page.items, item ∈ selectList env sent settings sort statuses := by
  rw [list] at h
  cases hsort : parseSqlboxSort settings.sort with
  | error e =>
    rw [hsort] at h
    cases h
  | ok sort =>
    cases hstatuses : resolveDeliveryStatuses env (statusExpr settings) with
    | error e =>
      rw [hsort, hstatuses] at h
      cases h
    | ok statuses =>
      refine ⟨sort, statuses, rfl, fun item hitem => ?_⟩
      rw [hsort, hstatuses] at h
      simp only [bind, Except.bind, pure, Except.pure, throw, throwThe, MonadExceptOf.throw] at h
      split at h
      · cases h
      split at h
      · rw [← Except.ok.inj h] at hitem
        exact mem_of_mem_take (mem_of_mem_take hitem)
      · rw [← Except.ok.inj h] at hitem
        exact mem_of_mem_drop (mem_of_mem_take (mem_of_mem_take hitem))

theorem selectList_status {sort : List SqlboxSortTerm} {item : ClassifiedRow}
    (h : item ∈ selectList env sent settings sort (some wanted)) :
    item.deliveryStatus ∈ wanted ∧ item = classify settings.deliveryReport sent item.row := by
  rw [selectList, mem_insertionSort, mem_filter] at h
  obtain ⟨row, -, rfl⟩ := mem_map.mp h.1
  exact ⟨contains_iff_mem.mp h.2, rfl⟩

/-- **A filtered resend submits messages of the statuses it asks for.** -/
theorem submitted_status {allowed : List String} {request : ResendRequest}
    {results : List ResendResult} (hids : request.ids = [])
    (hstatus : resolveDeliveryStatuses env
      (some (.text ((request.filter.getD {}).status.getD "resendable"))) = .ok (some wanted))
    (h : resend env sent allowed request = .ok results) (hsource : .submit source ∈ results) :
    source.deliveryStatus ∈ wanted ∧ source = classify false sent source.row := by
  rw [resend, resendRows, if_neg (by simp [hids])] at h
  cases hlist : list env sent (resendOptions (request.filter.getD {}) allowed) with
  | error e =>
    rw [hlist] at h
    cases h
  | ok page =>
    rw [hlist] at h
    rw [← Except.ok.inj h] at hsource
    obtain ⟨id, -, hid⟩ := mem_map.mp hsource
    obtain ⟨sort, statuses, hresolved, hselected⟩ := list_selected hlist
    obtain rfl : some wanted = statuses := Except.ok.inj (hstatus.symm.trans hresolved)
    exact selectList_status (hselected source (resendResult_submit hid))

end Jkannel.QueueConsole
