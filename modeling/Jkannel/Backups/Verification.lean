import Jkannel.Backups.Records
import Jkannel.Lib.Transition
import Jkannel.Platform.TenantTransaction
import Jkannel.Text

/-!
# Creating and verifying backups

A backup is created in several steps, and a verification takes several as well; the steps of many of
them alternate.  What is dumped is encrypted into a file of its own, and a verification decrypts the
file of its record and has it listed.

* `Artifact` is what a file holds, and `decryptArtifact` gets back what was encrypted.
* `completion` is what a record is completed with.
* `Creation` and `Verification` say how far a call has come, and `system` is all of them, with the
  failures of each step.

A call that stops leaves its record and its file behind.  The error of a transaction in the last
step of a call is not caught: the `try` around it returns the promise without waiting for it.
-/

namespace Jkannel.Backups

open Function (update)
open Transaction Monitoring
open Platform (Connection tenantTransaction)

abbrev Bytes := List UInt8

/-! ## Artifacts -/

/-- What a file holds: something that was encrypted with a key, or a part of it. -/
inductive Artifact where
  | encrypted (secret : String) (plain : Bytes)
  | torn

def MIN_ENCRYPTION_KEY_LENGTH : ℕ := 24

def WEAK_ENCRYPTION_KEYS : List String :=
  ["jkannel-development-backup-encryption-key-change-me", "change-me", "changeme"]

/-- The secret that artifacts are encrypted with. -/
def encryptionKey (configured : Option String) : Except String String :=
  let secret := Text.trim (configured.getD "")
  if secret = "" then
    .error <| "BACKUP_ENCRYPTION_KEY is not configured. Backups are encrypted at rest and this " ++
      "key is mandatory; it is deliberately NOT derived from the auth signing keys. " ++
      "Generate one with `openssl rand -base64 48` and store it outside this host — " ++
      "without it the artifacts cannot be decrypted."
  else if Text.jsLength secret < MIN_ENCRYPTION_KEY_LENGTH then
    .error <| s!"BACKUP_ENCRYPTION_KEY is too short ({Text.jsLength secret} characters); at least " ++
      s!"{MIN_ENCRYPTION_KEY_LENGTH} are required."
  else if secret ∈ WEAK_ENCRYPTION_KEYS then
    .error <| "BACKUP_ENCRYPTION_KEY is a known placeholder value; set a real secret before " ++
      "taking backups."
  else .ok secret

/-- Read a file and decrypt it.  What was encrypted with another secret, or is not whole, does not
pass authentication. -/
def decryptArtifact (file : Option Artifact) (configured : Option String) :
    Except String Bytes :=
  match file with
  | none => .error "ENOENT: no such file or directory"
  | some .torn => do
    let _ ← encryptionKey configured
    .error "Unsupported state or unable to authenticate data"
  | some (.encrypted secret plain) => do
    let key ← encryptionKey configured
    if key = secret then .ok plain else .error "Unsupported state or unable to authenticate data"

/-! ## What a record is completed with -/

/-- What was captured of the configuration. -/
structure ConfigCaptureResult where
  bundled : Bool
  files : ℕ
  bytes : ℕ
  checksum : Option String
  missingRoots : List String
  capturedRoots : List String

/-- What a record says of an empty capture. -/
def captureWarning (result : ConfigCaptureResult) : Option String :=
  if 0 < result.files then none
  else some <| "No configuration or certificate files were captured" ++
    (if result.missingRoots = [] then ""
      else " (none of " ++ ", ".intercalate result.missingRoots ++ " exist on this host)") ++
    ". This backup restores the database only: gateway configuration and TLS material " ++
    "would have to be rebuilt by hand. Set BACKUP_CONFIG_PATHS to the directories that " ++
    "hold them."

/-- What became of the copy elsewhere. -/
inductive Replication where
  | noDestination
  | stored (uri : String)
  | failed (destination message : String)

def NO_OFFSITE_WARNING : String :=
  "No offsite destination is configured (set BACKUP_OFFSITE_DIR or BACKUP_DESTINATION): " ++
    "this artifact exists only on the backup host and will not survive its loss."

def Replication.warning : Replication → Option String
  | .noDestination => some NO_OFFSITE_WARNING
  | .stored _ => none
  | .failed destination message =>
    some <| s!"Offsite replication to {destination} failed: {message}. " ++
      "The artifact exists on the backup host only."

def Replication.location : Replication → Option String
  | .stored uri => some uri
  | _ => none

def CONFIG_TABLES : List String :=
  ["configuration_versions", "smsc_definitions", "routing_rules", "system_settings"]

/-- What the rest of a creation comes to. -/
structure Aftermath where
  capture : ConfigCaptureResult
  configArtifactPath : String
  replication : Replication
  scopeNote : String
  kindNote : String

/-- What a record says it covers. -/
def coverage (record : BackupRecord) : String :=
  if record.scope = .configurations then
    "Configuration-only pg_dump (tables: " ++ ", ".intercalate CONFIG_TABLES ++ ")"
  else s!"Whole-database {record.kind.text} pg_dump"

/-- What a record says of the capture. -/
def configSummary (capture : ConfigCaptureResult) : String :=
  if capture.bundled then
    s!" Configuration capture: {capture.files} file(s), {capture.bytes} bytes from " ++
      ", ".intercalate capture.capturedRoots ++ "."
  else " Configuration capture: none."

variable (sha256 : Bytes → String)

/-- What a record is completed with once its dump is written. -/
def completion (record : BackupRecord) (path : String) (plain : Bytes) (rest : Aftermath) :
    CompletedBackup :=
  let warnings := (captureWarning rest.capture).toList ++ rest.replication.warning.toList
  { sizeBytes := plain.length
    checksum := sha256 plain
    location := s!"file://{path}"
    detail := s!"{coverage record} (custom format), AES-256-GCM encrypted at rest. " ++
      s!"Logical size {plain.length} bytes.{configSummary rest.capture}{rest.scopeNote}" ++
      rest.kindNote
    configArtifactPath := if rest.capture.bundled then some rest.configArtifactPath else none
    configArtifactChecksum := rest.capture.checksum
    configFileCount := rest.capture.files
    configBytes := rest.capture.bytes
    offsiteLocation := rest.replication.location
    offsiteSynced := rest.replication.location.isSome
    warning := if warnings = [] then none else some (" ".intercalate warnings) }

/-! ## Calls -/

/-- How far a creation has come. -/
inductive CreationStage where
  /-- Its record is there. -/
  | started
  /-- The dump is being written to the file of the record. -/
  | writing (secret : String) (plain : Bytes)
  /-- It is written. -/
  | written (plain : Bytes)

/-- A `createBackup` at work. -/
structure Creation where
  record : BackupRecord
  path : String
  stage : CreationStage

/-- What becomes of `pg_restore --list`. -/
inductive Listing where
  | missing
  | exited (code : ℕ) (stderr : String)
  | listed (stdout : List String)

/-- How far a verification has come. -/
inductive VerificationStage where
  /-- It has read its record, and the path in it. -/
  | opened (path : String)
  /-- What was decrypted could be listed. -/
  | passed (plain : Bytes) (detail : String)
  | broken (detail : String)

/-- A `verifyBackup` at work. -/
structure Verification where
  backupId : ℕ
  /-- It is run by a job. -/
  job : Bool
  stage : VerificationStage

/-- The outcome of looking at a decrypted dump. -/
def Listing.outcome (plain : Bytes) : Listing → VerificationStage
  | .missing => .broken "pg_restore not available in this image"
  | .exited code stderr =>
    .broken s!"pg_restore --list failed ({code}): {String.ofList (stderr.toList.take 500)}"
  | .listed stdout =>
    let entries := stdout.filter fun line => line ≠ "" ∧ line.toList.head? ≠ some ';'
    .passed plain s!"Archive integrity verified via pg_restore --list ({entries.length} entries)."

/-- Decrypt the file of a record and have it listed. -/
def checkArtifact (file : Option Artifact) (configured : Option String) (listing : Listing) :
    VerificationStage :=
  match decryptArtifact file configured with
  | .error message => .broken s!"Verification failed: {message}"
  | .ok plain => listing.outcome plain

/-- A verification that has come to an end. -/
structure Attempt where
  /-- What was decrypted and could be listed. -/
  verified : Option Bytes

/-- A finished run of `backup.verify`. -/
structure JobRun where
  backupId : ℕ
  attempt : Attempt
  succeeded : Bool

/-- The job looks at the record it is given back. -/
def jobSucceeds (answer : Except String (Option BackupRecord)) : Bool :=
  match answer with
  | .ok (some record) => record.status = .verified
  | _ => false

/-! ## The system -/

/-- The catalog, the disk and the calls. -/
structure State where
  catalog : Catalog
  files : String → Option Artifact
  creating : ℕ → Option Creation
  verifying : ℕ → Option Verification
  /-- The records that have been completed at some time. -/
  reached : List ℕ
  /-- The last verification of each record that has come to its end. -/
  lastAttempt : ℕ → Option Attempt
  jobs : List JobRun

def State.initial : State where
  catalog := ⟨[], [], [], 0⟩
  files := fun _ => none
  creating := fun _ => none
  verifying := fun _ => none
  reached := []
  lastAttempt := fun _ => none
  jobs := []

/-- One statement of one call. -/
inductive Action where
  /-- `createBackup` inserts its record. -/
  | create (call now : ℕ) (conn : Connection String) (actor : String) (value : NewBackup)
  /-- It has its dump, and begins to write it. -/
  | write (call : ℕ) (configured : Option String) (plain : Bytes)
  | written (call : ℕ)
  /-- It completes its record. -/
  | complete (call now : ℕ) (conn : Connection String) (actor : String) (rest : Aftermath)
  /-- One of its steps has failed. -/
  | fail (call now : ℕ) (conn : Connection String) (actor : String) (detail : String)
  /-- Its process ends. -/
  | stop (call : ℕ)
  /-- `verifyBackup` reads its record. -/
  | verify (call backupId : ℕ) (job : Bool)
  /-- It looks at the file. -/
  | check (call : ℕ) (configured : Option String) (listing : Listing)
  /-- It marks its record. -/
  | conclude (call now : ℕ) (conn : Connection String) (actor : String)
  | stopVerifying (call : ℕ)

/-- The records that are completed now have been completed. -/
def State.note (s : State) : State :=
  { s with
    reached := s.reached ++
      (s.catalog.records.filter fun r => r.status = .completed).map BackupRecord.id }

/-- What the last step of a verification does, and what it was. -/
def VerificationStage.conclusion (now : ℕ) (actor : String) (id : ℕ) :
    VerificationStage → Option (CatalogWork Unit (Option BackupRecord) × Attempt)
  | .opened _ => none
  | .passed plain detail => some (markVerified now actor id detail, ⟨some plain⟩)
  | .broken detail => some (markVerifyFailed now actor id detail, ⟨none⟩)

/-- What an action does to the records and files. -/
def move (s : State) : Action → Option State
  | .create call now conn actor value =>
    match s.creating call with
    | some _ => none
    | none =>
      let transaction := tenantTransaction conn (insertRunning now actor value) s.catalog ()
      some { s with
        catalog := transaction.2.1
        creating := match transaction.1 with
          | .ok row =>
            update s.creating call (some ⟨row, value.artifactPath, .started⟩)
          | .error _ => s.creating }
  | .write call configured plain =>
    match s.creating call, encryptionKey configured with
    | some ⟨record, path, .started⟩, .ok secret =>
      some { s with
        files := update s.files path (some .torn)
        creating := update s.creating call
          (some ⟨record, path, .writing secret plain⟩) }
    | _, _ => none
  | .written call =>
    match s.creating call with
    | some ⟨record, path, .writing secret plain⟩ =>
      some { s with
        files := update s.files path (some (.encrypted secret plain))
        creating := update s.creating call (some ⟨record, path, .written plain⟩) }
    | _ => none
  | .complete call now conn actor rest =>
    match s.creating call with
    | some ⟨record, path, .written plain⟩ =>
      some { s with
        catalog := (tenantTransaction conn (completeBackup now actor record.id
          (completion sha256 record path plain rest)) s.catalog ()).2.1
        creating := update s.creating call none }
    | _ => none
  | .fail call now conn actor detail =>
    match s.creating call with
    | some creation =>
      some { s with
        catalog := (tenantTransaction conn (failBackup now actor creation.record.id detail)
          s.catalog ()).2.1
        creating := update s.creating call none }
    | none => none
  | .stop call => some { s with creating := update s.creating call none }
  | .verify call backupId job =>
    match s.verifying call, s.catalog.find backupId with
    | none, some record =>
      let stage : VerificationStage :=
        match record.artifactPath.filter (· ≠ "") with
        | some path => .opened path
        | none => .broken "No artifact recorded for this backup; nothing to verify."
      some { s with
        verifying := update s.verifying call (some ⟨backupId, job, stage⟩) }
    | _, _ => none
  | .check call configured listing =>
    match s.verifying call with
    | some ⟨backupId, job, .opened path⟩ =>
      some { s with
        verifying := update s.verifying call
          (some ⟨backupId, job, checkArtifact (s.files path) configured listing⟩) }
    | _ => none
  | .conclude call now conn actor =>
    match s.verifying call with
    | some ⟨backupId, job, stage⟩ =>
      (stage.conclusion now actor backupId).map fun (work, attempt) =>
        let transaction := tenantTransaction conn work s.catalog ()
        { s with
          catalog := transaction.2.1
          verifying := update s.verifying call none
          lastAttempt := update s.lastAttempt backupId (some attempt)
          jobs := if job then s.jobs ++ [⟨backupId, attempt, jobSucceeds transaction.1⟩]
            else s.jobs }
    | none => none
  | .stopVerifying call => some { s with verifying := update s.verifying call none }

/-- A move, with the completed records noted. -/
@[grind =] def step (s : State) (a : Action) : Option State := (move sha256 s a).map State.note

/-- The service as a transition system. -/
def system : Transition.System State Action := ⟨step sha256⟩

end Jkannel.Backups
