import Jkannel.Lib.Work
import Jkannel.Monitoring.Alerts

/-!
# The catalog of backups

A backup has a row in `backup_records`, which is inserted as `running` and updated by whoever
creates, completes or verifies the backup.  Each of these updates is a transaction of its own, with
an audit row in it and, where something went wrong, an alert.

* `insertRunning` is the row of a backup that has begun.
* `completeBackup` and `failBackup` are its ends.
* `markVerified` and `markVerifyFailed` are the ends of a verification.  None of the four looks at
  the status the row has.

`raiseAlert` catches the error of its insert, and drops it.
-/

namespace Jkannel.Backups

open Transaction Monitoring

/-! ## Rows -/

inductive BackupKind where
  | full | schema
  deriving DecidableEq

inductive BackupScope where
  | full | database | configurations
  deriving DecidableEq

inductive RetentionClass where
  | hourly | daily | weekly | monthly | yearly | manual
  deriving DecidableEq

inductive BackupStatus where
  | pending | running | completed | failed | restored | verified
  deriving DecidableEq

/-- A row of `backup_records`. -/
structure BackupRecord where
  id : Nat
  label : String
  kind : BackupKind
  scope : BackupScope
  status : BackupStatus
  sizeBytes : Option Nat
  checksum : Option String
  location : Option String
  encrypted : Bool
  detail : Option String
  retentionClass : RetentionClass
  verifiedAt : Option Nat
  artifactPath : Option String
  platformVersion : Option String
  databaseVersion : Option String
  startedAt : Nat
  completedAt : Option Nat
  createdBy : String
  configArtifactPath : Option String
  configArtifactChecksum : Option String
  configFileCount : Nat
  configBytes : Nat
  offsiteLocation : Option String
  offsiteSyncedAt : Option Nat
  warning : Option String
  deriving DecidableEq

/-- A row of `audit_log`, with the entries of its new value. -/
structure AuditRow where
  actorId : String
  action : String
  entityType : String
  entityId : Nat
  newValue : Option Details
  deriving DecidableEq

/-- The tables of a tenant that backups are kept in. -/
structure Catalog where
  records : List BackupRecord
  alerts : List AlertInstance
  auditLog : List AuditRow
  /-- The id of the next record. -/
  nextId : Nat
  deriving DecidableEq

/-- The record with an id. -/
def Catalog.find (t : Catalog) (id : Nat) : Option BackupRecord := t.records.find? (·.id = id)

/-- The records, with those of an id changed. -/
def Catalog.set (t : Catalog) (id : Nat) (f : BackupRecord → BackupRecord) : Catalog :=
  { t with records := t.records.map fun r => if r.id = id then f r else r }

/-- `null`, or a text. -/
def nullable : Option String → Detail
  | some s => .text s
  | none => .null

/-! ## Statements -/

variable {ω : Type}

/-- The work of a transaction on the catalog. -/
abbrev CatalogWork (ω : Type) := Work Catalog ω String

/-- `UPDATE … WHERE id = $1 RETURNING …`. -/
def updateBackup (id : Nat) (f : BackupRecord → BackupRecord) (t : Catalog) :
    Option BackupRecord × (Catalog → Catalog) :=
  ((t.find id).map f, fun t => t.set id f)

/-- One row of the audit log. -/
def insertAudit (row : AuditRow) (_ : Catalog) : Unit × (Catalog → Catalog) :=
  ((), fun t => { t with auditLog := t.auditLog ++ [row] })

def audit (actor action : String) (id : Nat) (value : Option Details) : CatalogWork ω Unit :=
  .statement (insertAudit ⟨actor, action, "backup", id, value⟩)

/-- What an alert of a backup says. -/
structure BackupAlert where
  severity : Severity
  dedupKey : String
  summary : String
  details : Details

def BackupAlert.toNew (alert : BackupAlert) : NewAlert :=
  ⟨none, alert.severity, "backup", some alert.dedupKey, alert.summary,
    alert.details ++ [("raisedBy", .text "backup-dr")]⟩

/-- `INSERT … ON CONFLICT … DO NOTHING`. -/
def insertBackupAlert (now : Nat) (alert : BackupAlert) (_ : Catalog) :
    Unit × (Catalog → Catalog) :=
  ((), fun t => { t with alerts := insertAlert now alert.toNew t.alerts })

/-- Open an alert.  That it cannot be opened is logged, and goes no further. -/
def raiseAlert (now : Nat) (alert : BackupAlert) : CatalogWork ω Unit := do
  let _ ← Work.attempt (insertBackupAlert now alert)

/-! ## Operations -/

/-- What is known of a backup at its start. -/
structure NewBackup where
  label : String
  kind : BackupKind
  scope : BackupScope
  retentionClass : RetentionClass
  artifactPath : String
  platformVersion : Option String
  databaseVersion : Option String

/-- The row of a backup that has begun. -/
def NewBackup.row (value : NewBackup) (actor : String) (id now : Nat) : BackupRecord where
  id := id
  label := value.label
  kind := value.kind
  scope := value.scope
  status := .running
  sizeBytes := none
  checksum := none
  location := none
  encrypted := true
  detail := some <|
    if value.scope = .configurations then "Configuration-only pg_dump in progress."
    else "Whole-database pg_dump in progress."
  retentionClass := value.retentionClass
  verifiedAt := none
  artifactPath := some value.artifactPath
  platformVersion := value.platformVersion
  databaseVersion := value.databaseVersion
  startedAt := now
  completedAt := none
  createdBy := actor
  configArtifactPath := none
  configArtifactChecksum := none
  configFileCount := 0
  configBytes := 0
  offsiteLocation := none
  offsiteSyncedAt := none
  warning := none

/-- The INSERT of a running backup. -/
def insertBackup (now : Nat) (actor : String) (value : NewBackup) (t : Catalog) :
    BackupRecord × (Catalog → Catalog) :=
  (value.row actor t.nextId now, fun t =>
    { t with
      records := t.records ++ [value.row actor t.nextId now]
      nextId := t.nextId + 1 })

def BackupKind.text : BackupKind → String
  | .full => "full"
  | .schema => "schema"

/-- The record a backup begins with. -/
def insertRunning (now : Nat) (actor : String) (value : NewBackup) :
    CatalogWork ω BackupRecord := do
  let row ← Work.statement (insertBackup now actor value)
  audit actor "backup.started" row.id
    (some [("label", .text value.label), ("kind", .text value.kind.text)])
  return row

/-- What is known of a backup at its end. -/
structure CompletedBackup where
  sizeBytes : Nat
  checksum : String
  location : String
  detail : String
  configArtifactPath : Option String
  configArtifactChecksum : Option String
  configFileCount : Nat
  configBytes : Nat
  offsiteLocation : Option String
  offsiteSynced : Bool
  warning : Option String

def BackupRecord.complete (r : BackupRecord) (now : Nat) (value : CompletedBackup) :
    BackupRecord :=
  { r with
    status := .completed
    sizeBytes := some value.sizeBytes
    checksum := some value.checksum
    location := some value.location
    detail := some value.detail
    configArtifactPath := value.configArtifactPath
    configArtifactChecksum := value.configArtifactChecksum
    configFileCount := value.configFileCount
    configBytes := value.configBytes
    offsiteLocation := value.offsiteLocation
    offsiteSyncedAt := if value.offsiteSynced then some now else none
    warning := value.warning
    completedAt := some now }

/-- The record of a backup that came through. -/
def completeBackup (now : Nat) (actor : String) (id : Nat) (value : CompletedBackup) :
    CatalogWork ω (Option BackupRecord) := do
  let row ← Work.statement (updateBackup id (·.complete now value))
  audit actor "backup.completed" id (some
    [("sizeBytes", .number value.sizeBytes), ("checksum", .text value.checksum),
      ("configFileCount", .number value.configFileCount),
      ("offsiteLocation", nullable value.offsiteLocation), ("warning", nullable value.warning)])
  match value.warning.filter (· ≠ "") with
  | some warning =>
    raiseAlert now
      { severity := .warning
        dedupKey := s!"backup:degraded:{id}"
        summary := "Backup completed with a warning"
        details := [("backupId", .text (toString id)), ("warning", .text warning)] }
    return row
  | none => return row

def BackupRecord.fail (r : BackupRecord) (now : Nat) (detail : String) : BackupRecord :=
  { r with
    status := .failed
    detail := some detail
    completedAt := some now }

/-- The name a record goes by in an alert. -/
def labelOf (row : Option BackupRecord) (id : Nat) : String :=
  (row.map BackupRecord.label).getD (toString id)

/-- The details of an alert about a record. -/
def alertDetails (row : Option BackupRecord) (id : Nat) (detail : String) : Details :=
  [("backupId", .text (toString id)), ("label", nullable (row.map BackupRecord.label)),
    ("detail", .text detail)]

/-- The alert of a backup that failed. -/
def failedAlert (row : Option BackupRecord) (id : Nat) (detail : String) : BackupAlert where
  severity := .critical
  dedupKey := s!"backup:failed:{labelOf row id}"
  summary := s!"Backup \"{labelOf row id}\" failed"
  details := alertDetails row id detail

/-- Mark a backup failed, and open an alert. -/
def failBackup (now : Nat) (actor : String) (id : Nat) (detail : String) :
    CatalogWork ω (Option BackupRecord) := do
  let row ← Work.statement (updateBackup id (·.fail now detail))
  audit actor "backup.failed" id (some [("detail", .text detail)])
  raiseAlert now (failedAlert row id detail)
  return row

def BackupRecord.verify (r : BackupRecord) (now : Nat) (detail : String) : BackupRecord :=
  { r with
    status := .verified
    verifiedAt := some now
    detail := some detail }

/-- The record of an artifact found intact. -/
def markVerified (now : Nat) (actor : String) (id : Nat) (detail : String) :
    CatalogWork ω (Option BackupRecord) := do
  let row ← Work.statement (updateBackup id (·.verify now detail))
  audit actor "backup.verified" id none
  return row

def BackupRecord.verifyFail (r : BackupRecord) (detail : String) : BackupRecord :=
  { r with detail := some detail }

/-- The alert of an artifact found damaged. -/
def verifyFailedAlert (row : Option BackupRecord) (id : Nat) (detail : String) : BackupAlert where
  severity := .critical
  dedupKey := s!"backup:verify_failed:{labelOf row id}"
  summary := s!"Backup \"{labelOf row id}\" failed verification"
  details := alertDetails row id detail

/-- A verification has failed.  The status stays. -/
def markVerifyFailed (now : Nat) (actor : String) (id : Nat) (detail : String) :
    CatalogWork ω (Option BackupRecord) := do
  let row ← Work.statement (updateBackup id (·.verifyFail detail))
  audit actor "backup.verify_failed" id (some [("detail", .text detail)])
  raiseAlert now (verifyFailedAlert row id detail)
  return row

end Jkannel.Backups
