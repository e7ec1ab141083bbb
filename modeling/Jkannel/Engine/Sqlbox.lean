import Mathlib.Data.List.Sort
import Jkannel.Text

/-!
# The engine's tables

The engine keeps two tables in a database of its own: `send_sms`, the spool it takes messages
from, and `sent_sms`, the log of what it sent, of what came in and of the delivery reports.  The
repository reads both through one adapter, and writes a single row to the first.

* `SqlboxRow` is a row of either; `EngineTable` is a table's contents, with distinct keys.
* `classify` joins a message to its latest delivery report and derives its delivery status.
* `filters` are the predicates a caller's options turn into, `parseSqlboxSort` the ordering.
* `list` pages through the log, by key or by offset; `listQueue` pages through the spool.

The columns nothing here reads (service, account, coding and the like) are left out of the row.
-/

namespace Jkannel.Engine

/-- A row of `send_sms` or `sent_sms`. -/
structure SqlboxRow where
  /-- The engine's key, in the order of insertion. -/
  sqlId : Nat
  /-- `MT` a message out, `MO` a message in, `DLR` a delivery report. -/
  momt : Option String
  sender : Option String
  receiver : Option String
  /-- The body. -/
  msgdata : Option String
  /-- Epoch seconds. -/
  time : Option Int
  /-- The bind the row belongs to, by the engine's identifier. -/
  smscId : Option String
  /-- On a report, the event that happened; on a message, the mask that was asked for. -/
  dlrMask : Option Int
  /-- The key a report shares with the message it reports on. -/
  foreignId : Option String
  deriving DecidableEq

/-- The contents of an engine table.  The key is the table's primary key, a positive serial, and
one a JavaScript number holds exactly. -/
structure EngineTable where
  /-- The rows, in no particular order. -/
  rows : List SqlboxRow
  /-- The key is a primary key. -/
  distinct : (rows.map SqlboxRow.sqlId).Nodup
  /-- The serial starts at one, and every id a page can name is a safe integer. -/
  serial : ∀ r ∈ rows, 0 < r.sqlId ∧ r.sqlId ≤ MAX_SAFE_INTEGER

theorem serial_nil : ∀ r ∈ ([] : List SqlboxRow), 0 < r.sqlId ∧ r.sqlId ≤ MAX_SAFE_INTEGER :=
  fun _ h => absurd h List.not_mem_nil

/-! ## Delivery status -/

/-- Delivery status derived by correlating a message with its delivery reports. -/
inductive DeliveryStatus where
  | delivered | failed | rejected | buffered | accepted | pending | unknown | queued
  | deliveryReport
  deriving DecidableEq

/-- The status as the API spells it. -/
def DeliveryStatus.text : DeliveryStatus → String
  | .delivered => "delivered"
  | .failed => "failed"
  | .rejected => "rejected"
  | .buffered => "buffered"
  | .accepted => "accepted"
  | .pending => "pending"
  | .unknown => "unknown"
  | .queued => "queued"
  | .deliveryReport => "delivery_report"

/-- The delivery outcomes a message can be correlated to. -/
def DELIVERY_STATUSES : List DeliveryStatus :=
  [.delivered, .failed, .rejected, .buffered, .accepted, .pending, .unknown]

/-- Legacy filters on the direction, handled by `filters` and not by the derived column. -/
def LEGACY_STATUS_TOKENS : List String := ["sent", "dlr", "delivery_report"]

/-- The properties every object literal inherits, which a lookup by name therefore finds. -/
def inheritedKeys : List String :=
  ["constructor", "__defineGetter__", "__defineSetter__", "hasOwnProperty", "__lookupGetter__",
   "__lookupSetter__", "isPrototypeOf", "propertyIsEnumerable", "toString", "valueOf",
   "__proto__", "toLocaleString"]

/-- What a request to the adapter can fail with. -/
inductive SqlboxError where
  /-- A 400, with its text. -/
  | badRequest (message : String)
  /-- An error of the language: a value is used as something it is not. -/
  | typeError (message : String)
  /-- The database refuses the statement. -/
  | statement

/-- The groups of statuses a caller can name as one: what needs resending, what is in flight.
A name the object inherits is found too, and is not a list. -/
def deliveryStatusGroup (token : String) : Except SqlboxError (Option (List DeliveryStatus)) :=
  if token = "resendable" ∨ token = "failures" then .ok (some [.failed, .rejected])
  else if token = "in-flight" ∨ token = "in_flight" ∨ token = "inflight" then
    .ok (some [.pending, .buffered])
  else if token ∈ inheritedKeys then .error (.typeError "group.forEach is not a function")
  else .ok none

/-- A status expression: one comma-separated string, or several entries. -/
inductive StatusExpr where
  | text (value : String)
  | entries (values : List String)

/-- The tokens of a status expression, trimmed and in lower case, the empty ones dropped. -/
def statusTokens (env : TextEngine) (value : StatusExpr) : List String :=
  let pieces := match value with
    | .text s => Text.split ',' s
    | .entries values => values
  (pieces.map fun entry => env.toLowerCase (Text.trim entry)).filter (· ≠ "")

/-- The concrete statuses one token stands for. -/
def resolveToken (token : String) : Except SqlboxError (List DeliveryStatus) :=
  if token ∈ LEGACY_STATUS_TOKENS then .ok []
  else match deliveryStatusGroup token with
    | .error e => .error e
    | .ok (some group) => .ok group
    | .ok none => .ok (DELIVERY_STATUSES.filter fun status => status.text = token)

/-- Expand a status expression into concrete statuses.  An expression that yields none is no
filter at all. -/
def resolveDeliveryStatuses (env : TextEngine) :
    Option StatusExpr → Except SqlboxError (Option (List DeliveryStatus))
  | none => .ok none
  | some value => do
    let resolved ← (statusTokens env value).mapM resolveToken
    return if resolved.flatten.isEmpty then none else some resolved.flatten

/-- The engine's event values.  To be applied to the mask of a delivery report only. -/
def decodeDlrMask (mask : Int) : DeliveryStatus :=
  if mask = 1 then .delivered
  else if mask = 2 then .failed
  else if mask = 4 then .buffered
  else if mask = 8 then .accepted
  else if mask = 16 then .rejected
  else .unknown

/-! ## Ordering -/

/-- The database's ordering of a nullable column: a NULL comes after everything. -/
def compareNulls {α : Type} (cmp : α → α → Ordering) : Option α → Option α → Ordering
  | none, none => .eq
  | none, some _ => .gt
  | some _, none => .lt
  | some a, some b => cmp a b

/-- A row of the log with what was derived from its latest delivery report. -/
structure ClassifiedRow where
  /-- The row itself. -/
  row : SqlboxRow
  /-- The event behind the status. -/
  dlrEvent : Option Int
  /-- The time of the report the status comes from. -/
  dlrTime : Option Int
  /-- The derived status. -/
  deliveryStatus : DeliveryStatus
  deriving DecidableEq

/-- `ORDER BY r.time DESC, r.sql_id DESC`. -/
def newerReport (r s : SqlboxRow) : Bool :=
  ((compareNulls compare r.time s.time).swap.then (compare r.sqlId s.sqlId).swap).isLE

/-- The latest delivery report for `m`, which is none for a row that is one itself. -/
def latestDlr (sent : List SqlboxRow) (m : SqlboxRow) : Option SqlboxRow :=
  if m.momt ≠ some "DLR" ∧ m.foreignId.isSome then
    ((sent.filter fun r => r.momt = some "DLR" ∧ r.foreignId = m.foreignId).insertionSort
      (newerReport · ·)).head?
  else none

/-- The derived status in the message log: a message without a report yet is pending. -/
def deliveryStatusSql (m : SqlboxRow) (d : Option SqlboxRow) : DeliveryStatus :=
  if m.momt = some "DLR" then .deliveryReport
  else match d.bind SqlboxRow.dlrMask with
    | none => .pending
    | some mask => decodeDlrMask mask

/-- The derived status in the delivery-report view, where a row's own mask is the outcome. -/
def receiptStatusSql (m : SqlboxRow) : DeliveryStatus :=
  if m.momt ≠ some "DLR" then .unknown
  else match m.dlrMask with
    | none => .unknown
    | some mask => decodeDlrMask mask

/-- The classified projection; `receipts` swaps the derived status for the receipt's own. -/
def classify (receipts : Bool) (sent : List SqlboxRow) (m : SqlboxRow) : ClassifiedRow :=
  let d := latestDlr sent m
  { row := m
    dlrEvent := if m.momt = some "DLR" then m.dlrMask else d.bind SqlboxRow.dlrMask
    dlrTime := d.bind SqlboxRow.time
    deliveryStatus := if receipts then receiptStatusSql m else deliveryStatusSql m d }

@[simp] theorem classify_row (receipts : Bool) (sent : List SqlboxRow) (m : SqlboxRow) :
    (classify receipts sent m).row = m := rfl

/-- What a caller may sort by. -/
inductive SortColumn where
  | time | sqlId | sender | receiver | smscId | momt | deliveryStatus | foreignId
  /-- A property of the table of columns that is not a column: the database refuses it. -/
  | inherited
  deriving DecidableEq

/-- The whitelisted columns, by API name. -/
def sqlboxSortColumn (field : String) : Option SortColumn :=
  if field = "time" ∨ field = "timestamp" then some .time
  else if field = "sql_id" ∨ field = "id" then some .sqlId
  else if field = "sender" then some .sender
  else if field = "receiver" then some .receiver
  else if field = "smscId" then some .smscId
  else if field = "direction" then some .momt
  else if field = "deliveryStatus" then some .deliveryStatus
  else if field = "externalRef" then some .foreignId
  else if field ∈ inheritedKeys then some .inherited
  else none

/-- One term of a sort expression. -/
structure SqlboxSortTerm where
  /-- The column. -/
  column : SortColumn
  /-- `DESC`. -/
  descending : Bool

/-- One trimmed token: a leading minus is descending, and a leading sign is not part of the name.-/
def parseSortToken (token : String) : Except SqlboxError SqlboxSortTerm :=
  let (descending, field) := match token.toList with
    | '-' :: rest => (true, String.ofList rest)
    | '+' :: rest => (false, String.ofList rest)
    | rest => (false, String.ofList rest)
  match sqlboxSortColumn field with
  | some column => .ok ⟨column, descending⟩
  | none => .error <| .badRequest <| "Unsupported sort field \"" ++ field ++ "\" (allowed: " ++
      "time, timestamp, sql_id, id, sender, receiver, smscId, direction, deliveryStatus, " ++
      "externalRef)"

/-- Parse a `sort` expression; an unknown field is an error naming the allowed ones. -/
def parseSqlboxSort : Option String → Except SqlboxError (List SqlboxSortTerm)
  | none => .ok []
  | some value =>
    if Text.trim value = "" then .ok []
    else (((Text.split ',' value).map Text.trim).filter (· ≠ "")).mapM parseSortToken

/-- Whether the sort is the one the key's cursor can page. -/
def isDefaultSort : List SqlboxSortTerm → Bool
  | [] => true
  | [term] => term.column = .sqlId && term.descending
  | _ => false

/-- The comparison of one term, ascending. -/
def compareColumn (env : TextEngine) : SortColumn → ClassifiedRow → ClassifiedRow → Ordering
  | .time, a, b => compareNulls compare a.row.time b.row.time
  | .sqlId, a, b => compare a.row.sqlId b.row.sqlId
  | .sender, a, b => compareNulls env.collate a.row.sender b.row.sender
  | .receiver, a, b => compareNulls env.collate a.row.receiver b.row.receiver
  | .smscId, a, b => compareNulls env.collate a.row.smscId b.row.smscId
  | .momt, a, b => compareNulls env.collate a.row.momt b.row.momt
  | .deliveryStatus, a, b => env.collate a.deliveryStatus.text b.deliveryStatus.text
  | .foreignId, a, b => compareNulls env.collate a.row.foreignId b.row.foreignId
  | .inherited, _, _ => .eq

/-- `ORDER BY` the terms, and last by the key, descending, so that the order is total. -/
def orderBy (env : TextEngine) (sort : List SqlboxSortTerm) (a b : ClassifiedRow) : Bool :=
  let terms := sort.map fun t =>
    if t.descending then (compareColumn env t.column a b).swap else compareColumn env t.column a b
  ((terms.foldr Ordering.then .eq).then (compare a.row.sqlId b.row.sqlId).swap).isLE

/-! ## Options and filters -/

/-- What a caller may ask of either table. -/
structure SqlboxListOptions where
  limit : Option Int := none
  /-- Only rows with a key strictly below; zero is no cursor. -/
  cursor : Option Nat := none
  query : Option String := none
  /-- A legacy direction filter, a derived status or a group. -/
  status : Option String := none
  /-- A derived status filter; `status` is not looked at when it is given. -/
  deliveryStatus : Option StatusExpr := none
  smscId : Option String := none
  foreignIds : Option (List String) := none
  /-- The rows' own keys. -/
  rowIds : Option (List Nat) := none
  direction : Option String := none
  /-- Inclusive bounds on the time. -/
  fromEpoch : Option Int := none
  toEpoch : Option Int := none
  excludeDlr : Bool := false
  /-- The delivery-report view: receipts only, each with its own outcome. -/
  deliveryReport : Bool := false
  sort : Option String := none
  offset : Option Int := none
  /-- The binds the caller's tenant owns; no rows when it owns none. -/
  allowedSmscIds : Option (List String) := none

/-- A predicate that is there only when the option is. -/
def clause {β : Type} (option : Option β) (pred : β → SqlboxRow → Bool) :
    List (SqlboxRow → Bool) :=
  match option with
  | none => []
  | some value => [pred value]

/-- A key strictly below the cursor, which zero, being falsy, is not. -/
def cursorClause (cursor : Option Nat) : List (SqlboxRow → Bool) :=
  clause (cursor.filter (· ≠ 0)) fun c row => decide (row.sqlId < c)

/-- `%query%`, in any of the columns given. -/
def queryClause (env : TextEngine) (query : Option String)
    (columns : List (SqlboxRow → Option String)) : List (SqlboxRow → Bool) :=
  clause (Text.truthy query) fun q row =>
    columns.any fun column => env.ilike ("%" ++ q ++ "%") (column row)

/-- The legacy values of `status`, which select on the direction. -/
def legacyStatusClause (env : TextEngine) (status : Option String) : List (SqlboxRow → Bool) :=
  clause (Text.truthy status) fun value row =>
    let status := env.toLowerCase value
    if status = "delivery_report" ∨ status = "dlr" then row.momt = some "DLR"
    else if status = "sent" then row.momt.any (· ≠ "DLR")
    else true

/-- Base predicates on a row of the log. -/
def filters (env : TextEngine) (options : SqlboxListOptions) : List (SqlboxRow → Bool) :=
  let direction := if options.deliveryReport then some "DLR" else Text.truthy options.direction
  clause options.allowedSmscIds (fun ids row => row.smscId.any ids.contains) ++
  cursorClause options.cursor ++
  clause (Text.truthy options.smscId) (fun id row => row.smscId = some id) ++
  clause options.foreignIds (fun ids row => row.foreignId.any ids.contains) ++
  clause options.rowIds (fun ids row => ids.contains row.sqlId) ++
  clause direction (fun d row => row.momt = some d) ++
  clause options.fromEpoch (fun t row => row.time.any (t ≤ ·)) ++
  clause options.toEpoch (fun t row => row.time.any (· ≤ t)) ++
  clause (if options.excludeDlr then some () else none) (fun _ row => row.momt ≠ some "DLR") ++
  legacyStatusClause env options.status ++
  queryClause env options.query
    [SqlboxRow.sender, SqlboxRow.receiver, SqlboxRow.foreignId, SqlboxRow.msgdata]

/-- The rows that satisfy every predicate. -/
def whereAll (clauses : List (SqlboxRow → Bool)) (rows : List SqlboxRow) : List SqlboxRow :=
  rows.filter fun row => clauses.all fun pred => pred row

/-- The page size: a hundred unless asked otherwise, between one and five hundred. -/
def pageSize (limit : Option Int) : Nat :=
  (min (max (limit.getD 100) 1) 500).toNat

/-! ## The two readers -/

/-- A page of the log. -/
structure ListPage where
  items : List ClassifiedRow
  nextCursor : Option Nat
  /-- The rows in all, for offset paging only. -/
  total : Option Nat
  limit : Nat
  offset : Option Nat

/-- The rows of the log a caller's options select, in the order asked for, before paging. -/
def selectList (env : TextEngine) (sent : List SqlboxRow) (settings : SqlboxListOptions)
    (sort : List SqlboxSortTerm) (statuses : Option (List DeliveryStatus)) :
    List ClassifiedRow :=
  let q := (whereAll (filters env settings) sent).map (classify settings.deliveryReport sent)
  let outer := match statuses with
    | none => q
    | some wanted => q.filter fun c => wanted.contains c.deliveryStatus
  outer.insertionSort (orderBy env sort · ·)

/-- The status expression in force: `deliveryStatus`, and `status` when there is none. -/
def statusExpr (settings : SqlboxListOptions) : Option StatusExpr :=
  settings.deliveryStatus <|> settings.status.map .text

/-- Message history, each message classified by its latest delivery report.  The default order is
paged by key; any other, and an explicit offset, by offset and with a total. -/
def list (env : TextEngine) (sent : List SqlboxRow) (settings : SqlboxListOptions) :
    Except SqlboxError ListPage := do
  let size := pageSize settings.limit
  let sort ← parseSqlboxSort settings.sort
  let keyset := isDefaultSort sort && settings.offset.isNone
  let statuses ← resolveDeliveryStatuses env (statusExpr settings)
  if sort.any (·.column = .inherited) then throw .statement
  let selected := selectList env sent settings sort statuses
  if keyset then
    let result := selected.take (size + 1)
    return {
      items := result.take size
      nextCursor := (result[size]?).map fun c => toNumber c.row.sqlId
      total := none
      limit := size
      offset := none }
  else
    let offset := (min (max (settings.offset.getD 0) 0) 5000000).toNat
    let page := ((selected.drop offset).take (size + 1)).take size
    return {
      items := page
      nextCursor := none
      total := some (if page.isEmpty then 0 else selected.length)
      limit := size
      offset := some offset }

/-- A page of the spool. -/
structure QueuePage where
  items : List SqlboxRow
  nextCursor : Option Nat
  total : Nat

/-- The predicates of the spool's own grid, fewer than the log's. -/
def queueFilters (env : TextEngine) (options : SqlboxListOptions) : List (SqlboxRow → Bool) :=
  clause options.allowedSmscIds (fun ids row => row.smscId.any ids.contains) ++
  cursorClause options.cursor ++
  clause (Text.truthy options.smscId) (fun id row => row.smscId = some id) ++
  clause options.fromEpoch (fun t row => row.time.any (t ≤ ·)) ++
  clause options.toEpoch (fun t row => row.time.any (· ≤ t)) ++
  queryClause env options.query [SqlboxRow.sender, SqlboxRow.receiver, SqlboxRow.msgdata]

/-- `ORDER BY sql_id DESC`. -/
def bySqlIdDesc (a b : SqlboxRow) : Bool := b.sqlId ≤ a.sqlId

/-- The rows of the spool a caller's options select, before paging. -/
def selectQueue (env : TextEngine) (spool : List SqlboxRow) (options : SqlboxListOptions) :
    List SqlboxRow :=
  (whereAll (queueFilters env options) spool).insertionSort (bySqlIdDesc · ·)

/-- Lists queued messages as a paginated grid. -/
def listQueue (env : TextEngine) (spool : List SqlboxRow) (options : SqlboxListOptions) :
    QueuePage :=
  let size := pageSize options.limit
  let result := (selectQueue env spool options).take (size + 1)
  let rows := result.take size
  { items := rows
    nextCursor := (result[size]?).map fun r => toNumber r.sqlId
    total := rows.length }

end Jkannel.Engine
