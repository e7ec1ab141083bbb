import Mathlib.Data.List.Basic

/-!
# The alerts of a tenant

An alert has one of five statuses, and the table keeps at most one row for a dedup key that is not
`resolved`.  Whoever observes a condition again inserts its alert again, and the insert turns into
an update of the row that is there, or into nothing.

* `upsertAlert` is that insert, `ALERT_DEDUP_ESCALATION_SQL` with it: the row that is there is
  sharpened when the new observation is strictly worse.
* `resolveAlert` is what an observer does when the condition has passed.  It leaves a closed alert
  closed.
* `ALERT_TRANSITIONS` says which statuses an operator may move an alert out of, and `acknowledge`,
  `resolve`, `suppress`, `reopen` and `close` are the moves.
-/

namespace Jkannel.Monitoring

/-! ## Rows -/

/-- The status of an alert; `opened` is the table's `open`. -/
inductive AlertStatus where
  | opened | acknowledged | suppressed | resolved | closed
  deriving DecidableEq

inductive Severity where
  | info | warning | critical
  deriving DecidableEq

/-- The order of severities. -/
def severityRank : Severity → Nat
  | .info => 1
  | .warning => 2
  | .critical => 3

inductive NotificationState where
  | pending | notified | undeliverable | suppressed
  deriving DecidableEq

/-- An entry of an alert's details. -/
inductive Detail where
  | null
  | text (s : String)
  | number (n : Int)
  | escalatedFrom (severity : Severity) (summary : String) (time : Nat)
  deriving DecidableEq

abbrev Details := List (String × Detail)

/-- The text under a key; `details?.[key] ?? undefined`. -/
def Details.text (details : Details) (key : String) : Option String :=
  match details.lookup key with
  | some (.text s) => some s
  | _ => none

/-- `old || new`: an entry of the new details replaces the old one. -/
def Details.merge (old new : Details) : Details :=
  (old.filter fun e => (new.lookup e.1).isNone) ++ new

/-- A row of `alert_instances`.  Times are milliseconds. -/
structure AlertInstance where
  id : Nat
  ruleId : Option String
  status : AlertStatus
  severity : Severity
  source : String
  dedupKey : Option String
  summary : String
  details : Details
  openedAt : Nat
  resolvedAt : Option Nat
  closedAt : Option Nat
  closedBy : Option String
  suppressedUntil : Option Nat
  suppressedReason : Option String
  suppressedBy : Option String
  reopenedAt : Option Nat
  reopenCount : Nat
  escalatedAt : Option Nat
  previousSeverity : Option Severity
  escalationCycle : Nat
  dedupCount : Nat
  notificationState : NotificationState
  deriving DecidableEq

/-- What an alert is opened with. -/
structure NewAlert where
  ruleId : Option String
  severity : Severity
  source : String
  dedupKey : Option String
  summary : String
  details : Details

/-- The row an insert makes. -/
def NewAlert.row (alert : NewAlert) (id now : Nat) : AlertInstance where
  id := id
  ruleId := alert.ruleId
  status := .opened
  severity := alert.severity
  source := alert.source
  dedupKey := alert.dedupKey
  summary := alert.summary
  details := alert.details
  openedAt := now
  resolvedAt := none
  closedAt := none
  closedBy := none
  suppressedUntil := none
  suppressedReason := none
  suppressedBy := none
  reopenedAt := none
  reopenCount := 0
  escalatedAt := none
  previousSeverity := none
  escalationCycle := 0
  dedupCount := 1
  notificationState := .pending

/-! ## The unique index -/

/-- The row is in the partial unique index under this key. -/
def AlertInstance.indexed (a : AlertInstance) (key : String) : Prop :=
  a.status ≠ .resolved ∧ a.dedupKey = some key

instance (a : AlertInstance) (key : String) : Decidable (a.indexed key) :=
  inferInstanceAs (Decidable (_ ∧ _))

/-- The keys in the index. -/
def indexedKeys (rows : List AlertInstance) : List String :=
  rows.filterMap fun a => if a.status = .resolved then none else a.dedupKey

/-- `alert_instances_open_dedup_idx`: no two rows of the index have one key. -/
def Deduplicated (rows : List AlertInstance) : Prop := (indexedKeys rows).Nodup

instance (rows : List AlertInstance) : Decidable (Deduplicated rows) :=
  inferInstanceAs (Decidable (List.Nodup _))

/-! ## Observers -/

/-- A worse observation of the alert's condition. -/
def AlertInstance.sharpen (a : AlertInstance) (new : NewAlert) (now : Nat) : AlertInstance :=
  { a with
    severity := new.severity
    summary := new.summary
    previousSeverity := some a.severity
    escalatedAt := some now
    escalationCycle := a.escalationCycle + 1
    dedupCount := a.dedupCount + 1
    details := (a.details.merge new.details).merge
      [("escalatedFrom", .escalatedFrom a.severity a.summary now)]
    status := if a.status = .closed then .opened else a.status
    closedAt := if a.status = .closed then none else a.closedAt
    resolvedAt := if a.status = .closed then none else a.resolvedAt
    notificationState := if a.status = .suppressed then a.notificationState else .pending }

/-- What `RETURNING` says of an upsert. -/
inductive AlertUpsert where
  /-- A new incident. -/
  | inserted
  /-- An old one was sharpened. -/
  | escalated
  /-- The observation changed nothing. -/
  | ignored

/-- Change the rows with an id. -/
def updateRow (id : Nat) (f : AlertInstance → AlertInstance) (rows : List AlertInstance) :
    List AlertInstance :=
  rows.map fun a => if a.id = id then f a else a

/-- The row an insert conflicts with. -/
def conflicting (key : Option String) (rows : List AlertInstance) : Option AlertInstance :=
  match key with
  | none => none
  | some k => rows.find? fun a => decide (a.indexed k)

/-- Insert an alert, or sharpen the one that is there. -/
def upsertAlert (now : Nat) (alert : NewAlert) (rows : List AlertInstance) :
    AlertUpsert × List AlertInstance :=
  match conflicting alert.dedupKey rows with
  | none => (.inserted, rows ++ [alert.row rows.length now])
  | some row =>
    if severityRank row.severity < severityRank alert.severity then
      (.escalated, updateRow row.id (fun a => a.sharpen alert now) rows)
    else (.ignored, rows)

/-- Insert an alert unless there is one; `ON CONFLICT … DO NOTHING`. -/
def insertAlert (now : Nat) (alert : NewAlert) (rows : List AlertInstance) : List AlertInstance :=
  match conflicting alert.dedupKey rows with
  | none => rows ++ [alert.row rows.length now]
  | some _ => rows

/-- The condition has passed.  A closed alert is left as it is. -/
def resolveAlert (now : Nat) (key : String) (rows : List AlertInstance) : List AlertInstance :=
  rows.map fun a =>
    if a.dedupKey = some key ∧ a.status ≠ .resolved ∧ a.status ≠ .closed then
      { a with
        status := .resolved
        resolvedAt := some now }
    else a

/-! ## Operators -/

/-- What an operator does to an alert. -/
inductive AlertTransition where
  | acknowledge | resolve | suppress | reopen | close

/-- The statuses each move is possible from. -/
def ALERT_TRANSITIONS : AlertTransition → List AlertStatus
  | .acknowledge => [.opened, .suppressed]
  | .resolve => [.opened, .acknowledged, .suppressed]
  | .suppress => [.opened, .acknowledged, .suppressed]
  | .reopen => [.acknowledged, .suppressed, .resolved, .closed]
  | .close => [.opened, .acknowledged, .suppressed, .resolved]

/-- What an operator's move is turned down with. -/
inductive AlertError where
  /-- There is no such alert. -/
  | notFound
  /-- The alert's status, or the request, is not one for this move. -/
  | conflict
  /-- The unique index does not admit the row. -/
  | duplicateKey

/-- An update, which the unique index has to admit. -/
def checkIndex (rows : List AlertInstance) : Except AlertError (List AlertInstance) :=
  if Deduplicated rows then .ok rows else .error .duplicateKey

/-- Move an alert: it has to be there, and in a status the move is possible from. -/
def transition (move : AlertTransition) (f : AlertInstance → AlertInstance) (id : Nat)
    (rows : List AlertInstance) : Except AlertError (List AlertInstance) :=
  match rows.find? fun a => a.id = id with
  | none => .error .notFound
  | some before =>
    if before.status ∈ ALERT_TRANSITIONS move then checkIndex (updateRow id f rows)
    else .error .conflict

/-- An operator has seen the alert. -/
def acknowledge (id : Nat) (rows : List AlertInstance) :
    Except AlertError (List AlertInstance) :=
  transition .acknowledge (fun a =>
    { a with
      status := .acknowledged
      suppressedUntil := none }) id rows

/-- The alert is resolved. -/
def resolve (now id : Nat) (rows : List AlertInstance) : Except AlertError (List AlertInstance) :=
  transition .resolve (fun a =>
    { a with
      status := .resolved
      resolvedAt := some now
      suppressedUntil := none }) id rows

/-- Thirty days. -/
def MAX_SUPPRESS_MINUTES : Nat := 60 * 24 * 30

/-- Park an alert for some minutes, which are in thousandths here. -/
def suppress (now id thousandths : Nat) (reason : Option String) (by' : String)
    (rows : List AlertInstance) : Except AlertError (List AlertInstance) :=
  if thousandths = 0 ∨ MAX_SUPPRESS_MINUTES * 1000 < thousandths then .error .conflict
  else
    transition .suppress (fun a =>
      { a with
        status := .suppressed
        suppressedUntil := some (now + thousandths / 1000 * 60000)
        suppressedReason := reason
        suppressedBy := some by' }) id rows

/-- The alert opens again. -/
def reopen (now id : Nat) (rows : List AlertInstance) : Except AlertError (List AlertInstance) :=
  transition .reopen (fun a =>
    { a with
      status := .opened
      resolvedAt := none
      closedAt := none
      closedBy := none
      suppressedUntil := none
      suppressedReason := none
      suppressedBy := none
      reopenedAt := some now
      reopenCount := a.reopenCount + 1
      escalationCycle := a.escalationCycle + 1
      notificationState := .pending }) id rows

/-- The alert is closed. -/
def close (now id : Nat) (by' : String) (rows : List AlertInstance) :
    Except AlertError (List AlertInstance) :=
  transition .close (fun a =>
    { a with
      status := .closed
      closedAt := some now
      closedBy := some by'
      resolvedAt := some (a.resolvedAt.getD now)
      suppressedUntil := none }) id rows

end Jkannel.Monitoring
