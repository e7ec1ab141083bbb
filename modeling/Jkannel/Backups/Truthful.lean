import Jkannel.Backups.Verification
import Jkannel.Lib.Updates

/-!
# What the records say

A record is to be `completed` only when its file decrypts to what it says, and `verified` only when
it was completed and its last verification went well.  Neither mark of a verification looks at the
status of the record, though, and the one of a failed verification leaves the status as it is.

* `Truthful` is what records, and the jobs that verify them, are to say.
* `Honest` says what a step may not do: verify a record that was not completed, fail on one that is
  verified, or give two backups one file.  `truthful_along` is about the runs of such steps.
-/

namespace Jkannel.Backups

open List
open Function (update update_self update_of_ne)
open Transaction Monitoring
open Platform
open Updates (erase_eq_some update_eq_some)

variable (sha256 : Bytes → String) {record : BackupRecord} {stage stage' : CreationStage}

/-- The file of a record decrypts to the bytes whose hash and size it has. -/
def Restorable (files : String → Option Artifact) (r : BackupRecord) : Prop :=
  ∃ path secret plain, r.artifactPath = some path ∧ files path = some (.encrypted secret plain) ∧
    r.checksum = some (sha256 plain) ∧ r.sizeBytes = some plain.length

/-- What the records and the jobs are to say. -/
structure Truthful (s : State) : Prop where
  completed : ∀ r ∈ s.catalog.records, r.status = .completed → Restorable sha256 s.files r
  reached : ∀ r ∈ s.catalog.records, r.status = .verified → r.id ∈ s.reached
  verified : ∀ r ∈ s.catalog.records, r.status = .verified →
    ∃ plain, s.lastAttempt r.id = some ⟨some plain⟩ ∧ r.checksum = some (sha256 plain)
  jobs : ∀ job ∈ s.jobs, job.succeeded = true → job.attempt.verified.isSome = true

/-- The server carries the `COMMIT` out. -/
def carriedOut : Commit String → Bool
  | .refused _ => false
  | _ => true

/-- A transaction of two statements commits. -/
def Commits (conn : Connection String) : Prop :=
  conn.Opened ∧ conn.statement 0 = none ∧ conn.statement 1 = none ∧ carriedOut conn.commit = true

/-- The last step of a verification suits the record. -/
def Suits (conn : Connection String) (records : List BackupRecord) (id : ℕ) :
    VerificationStage → Prop
  | .opened _ => True
  | .passed _ _ => Commits conn →
    ∀ r ∈ records, r.id = id → r.status = .completed ∨ r.status = .verified
  | .broken _ => ∀ r ∈ records, r.id = id → r.status ≠ .verified

instance Suits.decidable (conn : Connection String) (records : List BackupRecord) (id : ℕ)
    (stage : VerificationStage) : Decidable (Suits conn records id stage) :=
  match stage with
  | .opened _ => inferInstanceAs (Decidable True)
  | .passed _ _ =>
    inferInstanceAs (Decidable ((_ ∧ _ ∧ _) ∧ _ ∧ _ ∧ _ → ∀ r ∈ records, r.id = id → _ ∨ _))
  | .broken _ => inferInstanceAs (Decidable (∀ r ∈ records, r.id = id → _ ≠ _))

/-- What a step may not do. -/
def Honest (s : State) : Action → Prop
  | .create _ _ _ _ value => ∀ r ∈ s.catalog.records, r.artifactPath ≠ some value.artifactPath
  | .conclude call _ conn _ =>
    ∀ v ∈ s.verifying call, Suits conn s.catalog.records v.backupId v.stage
  | _ => True

instance Honest.decidable (s : State) (a : Action) : Decidable (Honest s a) :=
  match a with
  | .create _ _ _ _ _ => inferInstanceAs (Decidable (∀ r ∈ s.catalog.records, _ ≠ _))
  | .conclude call _ _ _ =>
    inferInstanceAs (Decidable (∀ v ∈ s.verifying call, Suits _ _ v.backupId v.stage))
  | .write _ _ _ | .written _ | .complete _ _ _ _ _ | .fail _ _ _ _ _ | .stop _ | .verify _ _ _
  | .check _ _ _ | .stopVerifying _ => inferInstanceAs (Decidable True)

/-! ## The transactions -/

section Transactions

variable {sha256} {conn : Connection String} {t : Catalog} {id now : ℕ} {actor : String}

/-- What an update of a record ends with. -/
def Edited (t : Catalog) (id : ℕ) (f : BackupRecord → BackupRecord)
    (result : Except String (Option BackupRecord)) (t' : Catalog) : Prop :=
  ∀ row, result = .ok row →
    row = (t.find id).map f ∧ t'.records = (t.set id f).records ∧ t'.nextId = t.nextId

theorem edited_done {f : BackupRecord → BackupRecord} {t' : Catalog}
    (hrecords : t'.records = (t.set id f).records) (hnext : t'.nextId = t.nextId) :
    Edited t id f (.ok ((t.find id).map f)) t' := by
  intro row hrow
  cases hrow
  exact ⟨rfl, hrecords, hnext⟩

theorem edited_throw {f : BackupRecord → BackupRecord} {e : String} {t' : Catalog} :
    Edited t id f (.error e) t' := by
  intro row hrow
  cases hrow

theorem ends_completeBackup (value : CompletedBackup) :
    (completeBackup now actor id value : CatalogWork Unit _).Ends
      (Edited t id (·.complete now value)) t := by
  refine ⟨fun _ => edited_throw, fun _ => edited_throw, ?_⟩
  split
  · exact ⟨fun _ => edited_done rfl rfl, edited_done rfl rfl⟩
  · exact edited_done rfl rfl

theorem ends_failBackup (detail : String) :
    (failBackup now actor id detail : CatalogWork Unit _).Ends
      (Edited t id (·.fail now detail)) t :=
  ⟨fun _ => edited_throw, fun _ => edited_throw, fun _ => edited_done rfl rfl, edited_done rfl rfl⟩

theorem ends_markVerified (detail : String) :
    (markVerified now actor id detail : CatalogWork Unit _).Ends
      (Edited t id (·.verify now detail)) t :=
  ⟨fun _ => edited_throw, fun _ => edited_throw, edited_done rfl rfl⟩

theorem ends_markVerifyFailed (detail : String) :
    (markVerifyFailed now actor id detail : CatalogWork Unit _).Ends
      (Edited t id (·.verifyFail detail)) t :=
  ⟨fun _ => edited_throw, fun _ => edited_throw, fun _ => edited_done rfl rfl, edited_done rfl rfl⟩

/-- What the insert of a record ends with. -/
def Inserted (t : Catalog) (row : BackupRecord) (result : Except String BackupRecord)
    (t' : Catalog) : Prop :=
  ∀ answer, result = .ok answer →
    answer = row ∧ t'.records = t.records ++ [row] ∧ t'.nextId = t.nextId + 1

theorem ends_insertRunning (value : NewBackup) :
    (insertRunning now actor value : CatalogWork Unit _).Ends
      (Inserted t (value.row actor t.nextId now)) t := by
  refine ⟨fun _ _ h => (by cases h), fun _ _ h => (by cases h), fun answer h => ?_⟩
  cases h
  exact ⟨rfl, rfl, rfl⟩

theorem brittle_insertRunning (value : NewBackup) :
    (insertRunning now actor value : CatalogWork Unit _).Brittle :=
  (Work.brittle_statement _).bind fun _ => (Work.brittle_statement _).bind fun _ =>
    Work.brittle_done _

theorem brittle_markVerified (detail : String) :
    (markVerified now actor id detail : CatalogWork Unit _).Brittle :=
  (Work.brittle_statement _).bind fun _ => (Work.brittle_statement _).bind fun _ =>
    Work.brittle_done _

/-- A verification is only marked by a transaction that commits. -/
theorem markVerified_of_not_commits (h : ¬ Commits conn) (detail : String) :
    (tenantTransaction conn (markVerified now actor id detail) t ()).2.1 = t := by
  by_cases hopened : conn.Opened
  · cases haborted : (worked conn (markVerified now actor id detail) t ()).client.aborted with
    | true =>
      obtain ⟨e, -, hsame⟩ := undone_of_brittle (brittle_markVerified detail) haborted
      exact hsame
    | false =>
      obtain ⟨heq, hgranted⟩ := Work.cleared_of_unaborted haborted
      have hcount : (worked conn (markVerified now actor id detail) t ()).count = 2 := by
        rw [worked, heq]
        rfl
      obtain ⟨row, hrow⟩ : ∃ row,
          (worked conn (markVerified now actor id detail) t ()).result = .ok row := by
        rw [worked, heq]
        exact ⟨_, rfl⟩
      rw [tenantTransaction_returns hopened hrow]
      cases hcommit : conn.commit with
      | refused e => rfl
      | ok | lost e =>
        refine absurd ⟨hopened, hgranted 0 (Nat.le_refl 0) ?_, hgranted 1 (Nat.zero_le 1) ?_, ?_⟩ h
        · rw [← worked, hcount]
          decide
        · rw [← worked, hcount]
          decide
        · rw [hcommit]
          rfl
  · obtain ⟨e, heq⟩ : ∃ e, tenantTransaction conn (markVerified now actor id detail) t () =
        (.error e, t, ()) := tenantTransaction_unopened hopened
    rw [heq]

end Transactions

/-! ## Whose file is whose -/

/-- The records by their ids and paths. -/
def Catalog.places (t : Catalog) : List (ℕ × Option String) :=
  t.records.map fun r => (r.id, r.artifactPath)

theorem mem_places {t : Catalog} {r : BackupRecord} (h : r ∈ t.records) :
    (r.id, r.artifactPath) ∈ t.places :=
  mem_map_of_mem h

/-- An update that leaves the id and the path of a record alone. -/
def Settled (f : BackupRecord → BackupRecord) : Prop :=
  ∀ r, (f r).id = r.id ∧ (f r).artifactPath = r.artifactPath

theorem places_set {t t' : Catalog} {id : ℕ} {f : BackupRecord → BackupRecord} (hf : Settled f)
    (h : t'.records = (t.set id f).records) : t'.places = t.places := by
  rw [Catalog.places, h, Catalog.set, map_map]
  refine map_congr_left fun r _ => ?_
  simp only [Function.comp_apply]
  split
  · rw [(hf r).1, (hf r).2]
  · rfl

/-- A record of an edited catalog is an old one, or one that was edited. -/
theorem mem_set {t t' : Catalog} {id : ℕ} {f : BackupRecord → BackupRecord}
    (h : t'.records = (t.set id f).records) {r' : BackupRecord} (hr' : r' ∈ t'.records) :
    (r' ∈ t.records ∧ r'.id ≠ id) ∨ ∃ r ∈ t.records, r.id = id ∧ r' = f r := by
  rw [h] at hr'
  obtain ⟨r, hr, rfl⟩ := mem_map.mp hr'
  by_cases hid : r.id = id
  · rw [if_pos hid]
    exact .inr ⟨r, hr, hid, rfl⟩
  · rw [if_neg hid]
    exact .inl ⟨hr, hid⟩

/-- All records with the id have the path. -/
def Placed (places : List (ℕ × Option String)) (id : ℕ) (path : String) : Prop :=
  ∀ place ∈ places, place.1 = id → place.2 = some path

/-- The path is that of a record. -/
def Taken (places : List (ℕ × Option String)) (path : String) : Prop :=
  ∃ place ∈ places, place.2 = some path

/-- What the file of a creation holds. -/
def CreationStage.Holds (stage : CreationStage) (file : Option Artifact) : Prop :=
  match stage with
  | .started => file = none
  | .writing _ _ => file = some .torn
  | .written plain => ∃ secret, file = some (.encrypted secret plain)

/-- What a verification goes by. -/
def VerificationStage.GoesBy (places : List (ℕ × Option String))
    (files : String → Option Artifact) (id : ℕ) : VerificationStage → Prop
  | .opened path => Placed places id path
  | .passed plain _ => ∃ path secret, Placed places id path ∧
      files path = some (.encrypted secret plain)
  | .broken _ => True

/-- Every call has a file of its own, in the state its stage says. -/
structure Arranged (places : List (ℕ × Option String)) (nextId : ℕ)
    (files : String → Option Artifact) (creating : ℕ → Option Creation)
    (verifying : ℕ → Option Verification) : Prop where
  known : ∀ place ∈ places, place.1 < nextId
  single : ∀ place ∈ places, ∀ place' ∈ places, place.1 = place'.1 → place.2 = place'.2
  begun : ∀ call c, creating call = some c → c.record.id < nextId ∧
    Placed places c.record.id c.path ∧ Taken places c.path ∧ c.stage.Holds (files c.path)
  apart : ∀ call call' c c', creating call = some c → creating call' = some c' →
    c.path = c'.path → call = call'
  owned : ∀ path, files path ≠ none → Taken places path
  opened : ∀ call v, verifying call = some v → v.backupId < nextId ∧
    v.stage.GoesBy places files v.backupId

section Arranged

variable {places : List (ℕ × Option String)} {nextId : ℕ} {files : String → Option Artifact}
  {creating : ℕ → Option Creation} {verifying : ℕ → Option Verification} {call : ℕ}

section

variable (h : Arranged places nextId files creating verifying)
include h

theorem Arranged.leave :
    Arranged places nextId files (update creating call none) verifying where
  __ := h
  begun i c hc := h.begun i c (erase_eq_some hc).2
  apart i j c c' hc hc' := h.apart i j c c' (erase_eq_some hc).2
    (erase_eq_some hc').2

theorem Arranged.leaveVerifying :
    Arranged places nextId files creating (update verifying call none) where
  __ := h
  opened i v hv := h.opened i v (erase_eq_some hv).2

/-- A verification goes on. -/
theorem Arranged.goOn {v : Verification}
    (hid : v.backupId < nextId) (hstage : v.stage.GoesBy places files v.backupId) :
    Arranged places nextId files creating (update verifying call (some v)) where
  __ := h
  opened i w hw := by
    rcases update_eq_some hw with ⟨-, rfl⟩ | ⟨-, hw⟩
    · exact ⟨hid, hstage⟩
    · exact h.opened i w hw

/-- A record is inserted. -/
theorem Arranged.insert (path : Option String) :
    Arranged (places ++ [(nextId, path)]) (nextId + 1) files creating verifying := by
  have hplaced : ∀ {id path'}, id < nextId → Placed places id path' →
      Placed (places ++ [(nextId, path)]) id path' := by
    intro id path' hid hold place hplace hsame
    rcases mem_append.mp hplace with hplace | hplace
    · exact hold place hplace hsame
    · rw [mem_singleton.mp hplace] at hsame
      exact absurd hsame.symm (Nat.ne_of_lt hid)
  have htaken : ∀ {path'}, Taken places path' → Taken (places ++ [(nextId, path)]) path' :=
    fun ⟨place, hplace, hpath⟩ => ⟨place, mem_append_left _ hplace, hpath⟩
  refine ⟨fun place hplace => ?_, fun place hplace place' hplace' hsame => ?_, fun i c hc => ?_,
    h.apart, fun p hp => htaken (h.owned p hp), fun i v hv => ?_⟩
  · rcases mem_append.mp hplace with hplace | hplace
    · exact Nat.lt_succ_of_lt (h.known place hplace)
    · rw [mem_singleton.mp hplace]
      exact Nat.lt_succ_self nextId
  · rcases mem_append.mp hplace with hold | hnew
    · rcases mem_append.mp hplace' with hold' | hnew'
      · exact h.single place hold place' hold' hsame
      · rw [mem_singleton.mp hnew'] at hsame
        exact absurd hsame (Nat.ne_of_lt (h.known place hold))
    · rcases mem_append.mp hplace' with hold' | hnew'
      · rw [mem_singleton.mp hnew] at hsame
        exact absurd hsame.symm (Nat.ne_of_lt (h.known place' hold'))
      · rw [mem_singleton.mp hnew, mem_singleton.mp hnew']
  · obtain ⟨hid, hpath, htake, hholds⟩ := h.begun i c hc
    exact ⟨Nat.lt_succ_of_lt hid, hplaced hid hpath, htaken htake, hholds⟩
  · obtain ⟨hid, hstage⟩ := h.opened i v hv
    refine ⟨Nat.lt_succ_of_lt hid, ?_⟩
    cases hs : v.stage with
    | opened path' =>
      rw [hs] at hstage
      exact hplaced hid hstage
    | passed plain detail =>
      rw [hs] at hstage
      obtain ⟨path', secret, hpath, hfile⟩ := hstage
      exact ⟨path', secret, hplaced hid hpath, hfile⟩
    | broken detail => trivial

/-- A creation begins with a file that nobody has. -/
theorem Arranged.start {path : String} (hfree : ¬ Taken places path)
    (hrecord : record.id = nextId) :
    Arranged (places ++ [(nextId, some path)]) (nextId + 1) files
      (update creating call (some ⟨record, path, .started⟩)) verifying := by
  have hinsert := h.insert (some path)
  have hown : Placed (places ++ [(nextId, some path)]) nextId path := by
    intro place hplace hsame
    rcases mem_append.mp hplace with hplace | hplace
    · exact absurd hsame (Nat.ne_of_lt (h.known place hplace))
    · rw [mem_singleton.mp hplace]
  refine ⟨hinsert.known, hinsert.single, fun i c hc => ?_, fun i j c c' hc hc' hpath => ?_,
    hinsert.owned, hinsert.opened⟩
  · rcases update_eq_some hc with ⟨-, rfl⟩ | ⟨-, hc⟩
    · refine ⟨by rw [hrecord]; exact Nat.lt_succ_self nextId, by rw [hrecord]; exact hown,
        ⟨_, mem_append_right _ mem_cons_self, rfl⟩, ?_⟩
      by_contra hfile
      exact hfree (h.owned path hfile)
    · exact hinsert.begun i c hc
  · rcases update_eq_some hc with ⟨hi, hnew⟩ | ⟨-, hold⟩
    · rcases update_eq_some hc' with ⟨hj, -⟩ | ⟨-, hold'⟩
      · rw [hi, hj]
      · rw [hnew] at hpath
        dsimp only at hpath
        rw [hpath] at hfree
        exact absurd (h.begun j c' hold').2.2.1 hfree
    · rcases update_eq_some hc' with ⟨-, hnew'⟩ | ⟨-, hold'⟩
      · rw [hnew'] at hpath
        dsimp only at hpath
        rw [← hpath] at hfree
        exact absurd (h.begun i c hold).2.2.1 hfree
      · exact h.apart i j c c' hold hold' hpath

/-- A creation writes to its file, which is not whole yet. -/
theorem Arranged.write {path : String} {file : Option Artifact}
    (hcall : creating call = some ⟨record, path, stage⟩)
    (hunencrypted : ∀ secret plain, files path ≠ some (.encrypted secret plain))
    (hholds : stage'.Holds file) :
    Arranged places nextId (update files path file)
      (update creating call (some ⟨record, path, stage'⟩)) verifying := by
  obtain ⟨hid, hplaced, htaken, -⟩ := h.begun call _ hcall
  refine ⟨h.known, h.single, fun i c hc => ?_, fun i j c c' hc hc' hpath => ?_,
    fun p hp => ?_, fun i v hv => ?_⟩
  · rcases update_eq_some hc with ⟨-, rfl⟩ | ⟨hi, hc⟩
    · exact ⟨hid, hplaced, htaken, by rwa [update_self]⟩
    · obtain ⟨hid', hplaced', htaken', hholds'⟩ := h.begun i c hc
      have hne : c.path ≠ path := fun he => hi (h.apart i call c _ hc hcall he)
      exact ⟨hid', hplaced', htaken', by rwa [update_of_ne hne]⟩
  · rcases update_eq_some hc with ⟨hi, hnew⟩ | ⟨-, hold⟩
    · rcases update_eq_some hc' with ⟨hj, -⟩ | ⟨-, hold'⟩
      · rw [hi, hj]
      · rw [hnew] at hpath
        exact hi.trans (h.apart call j _ c' hcall hold' hpath)
    · rcases update_eq_some hc' with ⟨hj, hnew'⟩ | ⟨-, hold'⟩
      · rw [hnew'] at hpath
        exact (h.apart i call c _ hold hcall hpath).trans hj.symm
      · exact h.apart i j c c' hold hold' hpath
  · by_cases hsame : p = path
    · rw [hsame]
      exact htaken
    · rw [update_of_ne hsame] at hp
      exact h.owned p hp
  · obtain ⟨hid', hstage⟩ := h.opened i v hv
    refine ⟨hid', ?_⟩
    cases hs : v.stage with
    | opened path' => rwa [hs] at hstage
    | passed plain detail =>
      rw [hs] at hstage
      obtain ⟨path', secret, hpath, hfile⟩ := hstage
      have hne : path' ≠ path := fun he => hunencrypted secret plain (he ▸ hfile)
      exact ⟨path', secret, hpath, by rwa [update_of_ne hne]⟩
    | broken detail => trivial

end

end Arranged

/-! ## The runs -/

/-- What holds all along, but for what `State.note` adds. -/
structure Sound (s : State) : Prop where
  arranged : Arranged s.catalog.places s.catalog.nextId s.files s.creating s.verifying
  restorable : ∀ r ∈ s.catalog.records, r.status = .completed ∨ r.status = .verified →
    Restorable sha256 s.files r
  reached : ∀ r ∈ s.catalog.records, r.status = .verified → r.id ∈ s.reached
  verified : ∀ r ∈ s.catalog.records, r.status = .verified →
    ∃ plain, s.lastAttempt r.id = some ⟨some plain⟩ ∧ r.checksum = some (sha256 plain)
  jobs : ∀ job ∈ s.jobs, job.succeeded = true → job.attempt.verified.isSome = true

/-- What holds all along. -/
structure Invariant (s : State) : Prop extends Sound sha256 s where
  completed : ∀ r ∈ s.catalog.records, r.status = .completed → r.id ∈ s.reached

section Runs

variable {sha256} {s s' : State} {r : BackupRecord}

theorem Sound.note (h : Sound sha256 s) : Invariant sha256 s.note where
  __ := h
  reached r hr hverified := mem_append_left _ (h.reached r hr hverified)
  completed r hr hcompleted := mem_append_right _
    (mem_map_of_mem (mem_filter.mpr ⟨hr, by simpa using hcompleted⟩))

variable {files : String → Option Artifact} {path actor detail : String} {call now backupId : ℕ}
  {conn : Connection String} {plain : Bytes} {job : Bool} {places : List (ℕ × Option String)}

/-- A file that is written to is no record's. -/
theorem Restorable.write (h : Restorable sha256 files r) (file : Option Artifact)
    (hunencrypted : ∀ secret plain, files path ≠ some (.encrypted secret plain)) :
    Restorable sha256 (update files path file) r := by
  obtain ⟨path', secret, plain, hpath, hfile, hrest⟩ := h
  have hne : path' ≠ path := fun he => hunencrypted secret plain (he ▸ hfile)
  exact ⟨path', secret, plain, hpath, (update_of_ne hne ..).trans hfile, hrest⟩

theorem Sound.write (h : Sound sha256 s)
    (file : Option Artifact) (hcall : s.creating call = some ⟨record, path, stage⟩)
    (hunencrypted : ∀ secret plain, s.files path ≠ some (.encrypted secret plain))
    (hholds : stage'.Holds file) :
    Sound sha256 { s with
      files := update s.files path file
      creating := update s.creating call (some ⟨record, path, stage'⟩) } where
  arranged := h.arranged.write hcall hunencrypted hholds
  restorable r hr hstatus := (h.restorable r hr hstatus).write file hunencrypted
  __ := h

theorem Sound.create (h : Sound sha256 s) {value : NewBackup}
    (hhonest : Honest s (.create call now conn actor value))
    (hs : move sha256 s (.create call now conn actor value) = some s') : Sound sha256 s' := by
  have hfree : ¬ Taken s.catalog.places value.artifactPath := by
    rintro ⟨place, hplace, hpath⟩
    obtain ⟨r, hr, rfl⟩ := mem_map.mp hplace
    exact hhonest r hr hpath
  have hnew : ∀ t' : Catalog,
      t'.records = s.catalog.records ++ [value.row actor s.catalog.nextId now] →
      ∀ r ∈ t'.records, r.status = .completed ∨ r.status = .verified → r ∈ s.catalog.records := by
    intro t' hrecords r hr hstatus
    rw [hrecords] at hr
    rcases mem_append.mp hr with hr | hr
    · exact hr
    · rw [mem_singleton.mp hr] at hstatus
      rcases hstatus with hstatus | hstatus <;> cases hstatus
  have hplaces : ∀ t' : Catalog,
      t'.records = s.catalog.records ++ [value.row actor s.catalog.nextId now] →
      t'.places = s.catalog.places ++ [(s.catalog.nextId, some value.artifactPath)] := by
    intro t' hrecords
    rw [Catalog.places, hrecords, map_append]
    rfl
  have hends : (insertRunning now actor value : CatalogWork Unit _).Ends
      (Inserted s.catalog (value.row actor s.catalog.nextId now)) s.catalog :=
    ends_insertRunning value
  simp only [move] at hs
  split at hs
  · cases hs
  cases hs
  cases hresult : (tenantTransaction conn (insertRunning now actor value) s.catalog ()).1 with
  | ok row =>
    obtain ⟨hrow, hrecords, hnext⟩ :=
      stored_of_ok (brittle_insertRunning value) hends hresult row rfl
    have hrunning := hnew _ hrecords
    refine ⟨?_, fun r hr hstatus => h.restorable r (hrunning r hr hstatus) hstatus,
      fun r hr hstatus => h.reached r (hrunning r hr (.inr hstatus)) hstatus,
      fun r hr hstatus => h.verified r (hrunning r hr (.inr hstatus)) hstatus, h.jobs⟩
    rw [hplaces _ hrecords, hnext]
    exact h.arranged.start hfree (by rw [hrow]; rfl)
  | error e =>
    rcases @store_of_ends Catalog Unit String _ conn _ s.catalog () _ hends with
      hsame | ⟨row, hstored⟩
    · refine ⟨?_, ?_, ?_, ?_, h.jobs⟩ <;> dsimp only <;> rw [hsame]
      · exact h.arranged
      · exact h.restorable
      · exact h.reached
      · exact h.verified
    · obtain ⟨-, hrecords, hnext⟩ := hstored row rfl
      have hrunning := hnew _ hrecords
      refine ⟨?_, fun r hr hstatus => h.restorable r (hrunning r hr hstatus) hstatus,
        fun r hr hstatus => h.reached r (hrunning r hr (.inr hstatus)) hstatus,
        fun r hr hstatus => h.verified r (hrunning r hr (.inr hstatus)) hstatus, h.jobs⟩
      rw [hplaces _ hrecords, hnext]
      exact h.arranged.insert (some value.artifactPath)

/-- An update of a record leaves the catalog alone, or edits the record. -/
theorem records_of_edited {conn : Connection String} {t : Catalog} {id : ℕ}
    {f : BackupRecord → BackupRecord} {work : CatalogWork Unit (Option BackupRecord)}
    (h : work.Ends (Edited t id f) t) :
    (tenantTransaction conn work t ()).2.1 = t ∨
      ((tenantTransaction conn work t ()).2.1.records = (t.set id f).records ∧
        (tenantTransaction conn work t ()).2.1.nextId = t.nextId) := by
  refine (store_of_ends h).imp_right ?_
  rintro ⟨row, hstored⟩
  exact (hstored row rfl).2

/-- A record is updated, and the call is over. -/
theorem Sound.edit (h : Sound sha256 s) {t : Catalog} {id : ℕ} {f : BackupRecord → BackupRecord}
    {creating : ℕ → Option Creation} (hf : Settled f)
    (hedited : t = s.catalog ∨ t.records = (s.catalog.set id f).records ∧
      t.nextId = s.catalog.nextId)
    (harranged : Arranged s.catalog.places s.catalog.nextId s.files creating s.verifying)
    (hstatus : ∀ r, (f r).status ≠ .verified)
    (hrestorable : ∀ r ∈ s.catalog.records, r.id = id → (f r).status = .completed →
      Restorable sha256 s.files (f r)) :
    Sound sha256 { s with
      catalog := t
      creating := creating } := by
  rcases hedited with rfl | ⟨hrecords, hnext⟩
  · exact ⟨harranged, h.restorable, h.reached, h.verified, h.jobs⟩
  · have hold : ∀ r ∈ t.records, r.status = .verified → r ∈ s.catalog.records := by
      intro r hr hverified
      rcases mem_set hrecords hr with ⟨hr, -⟩ | ⟨r, -, -, rfl⟩
      · exact hr
      · exact absurd hverified (hstatus r)
    refine ⟨?_, fun r hr hrstatus => ?_, fun r hr hv => h.reached r (hold r hr hv) hv,
      fun r hr hv => h.verified r (hold r hr hv) hv, h.jobs⟩
    · dsimp only
      rw [places_set hf hrecords, hnext]
      exact harranged
    · rcases mem_set hrecords hr with ⟨hr, -⟩ | ⟨r', hr', hid, rfl⟩
      · exact h.restorable r hr hrstatus
      · exact hrestorable r' hr' hid (hrstatus.resolve_right (hstatus r'))

theorem Sound.complete (h : Sound sha256 s) {rest : Aftermath}
    (hs : move sha256 s (.complete call now conn actor rest) = some s') : Sound sha256 s' := by
  simp only [move] at hs
  split at hs
  · next record path plain hcall =>
    cases hs
    obtain ⟨-, hplaced, -, secret, hfile⟩ := h.arranged.begun call _ hcall
    refine h.edit (f := fun r => r.complete now (completion sha256 record path plain rest))
      (fun _ => ⟨rfl, rfl⟩) (records_of_edited (ends_completeBackup _)) h.arranged.leave
      (fun _ hv => by cases hv) fun r hr hid _ => ?_
    exact ⟨path, secret, plain, hplaced _ (mem_places hr) hid, hfile, rfl, rfl⟩
  · cases hs

theorem Sound.fail (h : Sound sha256 s)
    (hs : move sha256 s (.fail call now conn actor detail) = some s') : Sound sha256 s' := by
  simp only [move] at hs
  split at hs
  · cases hs
    exact h.edit (f := fun r => r.fail now detail) (fun _ => ⟨rfl, rfl⟩)
      (records_of_edited (ends_failBackup _)) h.arranged.leave (fun _ hv => by cases hv)
      fun _ _ _ hcompleted => by cases hcompleted
  · cases hs

/-! ### Verifications -/

theorem find_mem {t : Catalog} {id : ℕ} (h : t.find id = some r) : r ∈ t.records ∧ r.id = id :=
  ⟨mem_of_find?_eq_some h, by simpa using find?_some h⟩

theorem goesBy_listing {id : ℕ} {secret : String}
    (hplaced : Placed places id path) (hfile : files path = some (.encrypted secret plain))
    (listing : Listing) : (listing.outcome plain).GoesBy places files id := by
  cases listing with
  | missing | exited => trivial
  | listed stdout => exact ⟨path, secret, hplaced, hfile⟩

/-- What passes was decrypted from the file. -/
theorem goesBy_checkArtifact {id : ℕ}
    (hplaced : Placed places id path) (configured : Option String) (listing : Listing) :
    (checkArtifact (files path) configured listing).GoesBy places files id := by
  rw [checkArtifact]
  split
  · trivial
  · next plain hplain =>
    cases hfile : files path with
    | none =>
      rw [hfile] at hplain
      cases hplain
    | some artifact =>
      rw [hfile] at hplain
      cases artifact with
      | torn =>
        obtain ⟨key, -, hkey⟩ := bind_eq_ok hplain
        cases hkey
      | encrypted secret plain' =>
        obtain ⟨key, -, hkey⟩ := bind_eq_ok hplain
        split at hkey
        · cases hkey
          exact goesBy_listing hplaced hfile listing
        · cases hkey

theorem Sound.check (h : Sound sha256 s) {configured : Option String} {listing : Listing}
    (hs : move sha256 s (.check call configured listing) = some s') : Sound sha256 s' := by
  simp only [move] at hs
  split at hs
  · next backupId job path hcall =>
    cases hs
    obtain ⟨hid, hplaced⟩ := h.arranged.opened call _ hcall
    exact ⟨h.arranged.goOn hid (goesBy_checkArtifact hplaced configured listing), h.restorable,
      h.reached, h.verified, h.jobs⟩
  · cases hs

theorem Sound.verify (h : Sound sha256 s)
    (hs : move sha256 s (.verify call backupId job) = some s') : Sound sha256 s' := by
  simp only [move] at hs
  split at hs
  · next record _ hfind =>
    cases hs
    obtain ⟨hmem, hid⟩ := find_mem hfind
    refine ⟨h.arranged.goOn (hid ▸ h.arranged.known _ (mem_places hmem)) ?_, h.restorable,
      h.reached, h.verified, h.jobs⟩
    split
    · next path hpath =>
      intro place hplace hsame
      have hplace' := h.arranged.single place hplace _ (mem_places hmem) (hsame.trans hid.symm)
      rw [hplace']
      exact (Option.filter_eq_some_iff.mp hpath).1
    · trivial
  · cases hs

/-- A record that was completed says what its file holds. -/
theorem Sound.checksum_of_goesBy (h : Sound sha256 s) {id : ℕ}
    (hgoes : (VerificationStage.passed plain detail).GoesBy s.catalog.places s.files id)
    (hr : r ∈ s.catalog.records) (hid : r.id = id)
    (hstatus : r.status = .completed ∨ r.status = .verified) :
    r.checksum = some (sha256 plain) := by
  obtain ⟨path, secret, hplaced, hfile⟩ := hgoes
  obtain ⟨path', secret', plain', hpath', hfile', hchecksum, -⟩ := h.restorable r hr hstatus
  have hpath : r.artifactPath = some path := hplaced _ (mem_places hr) hid
  obtain rfl : path' = path := Option.some.inj (hpath'.symm.trans hpath)
  have hsame := Artifact.encrypted.inj (Option.some.inj (hfile'.symm.trans hfile))
  rw [hchecksum, hsame.2]

section

variable (h : Invariant sha256 s)
include h

/-- A verification that went well marks its record. -/
theorem Sound.conclude_passed
    (hcall : s.verifying call = some ⟨backupId, job, .passed plain detail⟩)
    (hsuits : Suits conn s.catalog.records backupId (.passed plain detail)) {answer : Bool} :
    Sound sha256 { s with
      catalog := (tenantTransaction conn (markVerified now actor backupId detail) s.catalog ()).2.1
      verifying := update s.verifying call none
      lastAttempt := update s.lastAttempt backupId (some ⟨some plain⟩)
      jobs := if job then s.jobs ++ [⟨backupId, ⟨some plain⟩, answer⟩] else s.jobs } := by
  have hgoes := (h.arranged.opened call _ hcall).2
  have hjobs : ∀ run ∈ (if job then s.jobs ++ [⟨backupId, ⟨some plain⟩, answer⟩] else s.jobs),
      run.succeeded = true → run.attempt.verified.isSome = true := by
    intro run hrun hsucceeded
    split at hrun
    · rcases mem_append.mp hrun with hrun | hrun
      · exact h.jobs run hrun hsucceeded
      · rw [mem_singleton.mp hrun]
        rfl
    · exact h.jobs run hrun hsucceeded
  have hlast : ∀ r ∈ s.catalog.records, r.status = .verified →
      ∃ plain', update s.lastAttempt backupId (some ⟨some plain⟩) r.id =
        some ⟨some plain'⟩ ∧ r.checksum = some (sha256 plain') := by
    intro r hr hverified
    by_cases hid : r.id = backupId
    · refine ⟨plain, ?_, h.toSound.checksum_of_goesBy hgoes hr hid (.inr hverified)⟩
      rw [hid, update_self]
    · rw [update_of_ne hid]
      exact h.verified r hr hverified
  by_cases hcommits : Commits conn
  · rcases @records_of_edited conn s.catalog backupId (·.verify now detail)
      (markVerified now actor backupId detail) (ends_markVerified detail) with
      hsame | ⟨hrecords, hnext⟩
    · rw [hsame]
      exact ⟨h.arranged.leaveVerifying, h.restorable, h.reached, hlast, hjobs⟩
    · refine ⟨?_, fun r hr hstatus => ?_, fun r hr hverified => ?_, fun r hr hverified => ?_, hjobs⟩
      · dsimp only
        rw [places_set (f := (·.verify now detail)) (fun _ => ⟨rfl, rfl⟩) hrecords, hnext]
        exact h.arranged.leaveVerifying
      · rcases mem_set hrecords hr with ⟨hr, -⟩ | ⟨r', hr', hid, rfl⟩
        · exact h.restorable r hr hstatus
        · exact h.restorable r' hr' (hsuits hcommits r' hr' hid)
      · rcases mem_set hrecords hr with ⟨hr, -⟩ | ⟨r', hr', hid, rfl⟩
        · exact h.reached r hr hverified
        · rcases hsuits hcommits r' hr' hid with hcompleted | hverified'
          · exact h.completed r' hr' hcompleted
          · exact h.reached r' hr' hverified'
      · rcases mem_set hrecords hr with ⟨hr, -⟩ | ⟨r', hr', hid, rfl⟩
        · exact hlast r hr hverified
        · refine ⟨plain, ?_, h.toSound.checksum_of_goesBy (r := r') hgoes hr' hid
            (hsuits hcommits r' hr' hid)⟩
          exact (congrArg _ hid).trans (update_self ..)
  · rw [markVerified_of_not_commits hcommits]
    exact ⟨h.arranged.leaveVerifying, h.restorable, h.reached, hlast, hjobs⟩

/-- A verification that did not go well leaves the status of its record, which is not verified. -/
theorem Sound.conclude_broken (hsuits : Suits conn s.catalog.records backupId (.broken detail)) :
    Sound sha256 { s with
      catalog :=
        (tenantTransaction conn (markVerifyFailed now actor backupId detail) s.catalog ()).2.1
      verifying := update s.verifying call none
      lastAttempt := update s.lastAttempt backupId (some ⟨none⟩)
      jobs := if job then s.jobs ++ [⟨backupId, ⟨none⟩, jobSucceeds
        (tenantTransaction conn (markVerifyFailed now actor backupId detail) s.catalog ()).1⟩]
        else s.jobs } := by
  have hfails : jobSucceeds (tenantTransaction conn
      (markVerifyFailed now actor backupId detail) s.catalog ()).1 = false := by
    cases hresult : (tenantTransaction conn (markVerifyFailed now actor backupId detail)
        s.catalog ()).1 with
    | error e => rfl
    | ok row =>
      obtain ⟨t, ht⟩ := ok_of_ends (ends_markVerifyFailed detail) hresult
      obtain ⟨hrow, -⟩ := ht row rfl
      rw [hrow]
      cases hfind : s.catalog.find backupId with
      | none => rfl
      | some r =>
        obtain ⟨hmem, hid⟩ := find_mem hfind
        exact decide_eq_false (hsuits r hmem hid)
  have hlast : ∀ r : BackupRecord, r.id ≠ backupId →
      update s.lastAttempt backupId (some ⟨none⟩) r.id = s.lastAttempt r.id :=
    fun r hid => update_of_ne hid ..
  have hjobs : ∀ run ∈ (if job then s.jobs ++ [⟨backupId, ⟨none⟩, jobSucceeds
        (tenantTransaction conn (markVerifyFailed now actor backupId detail) s.catalog ()).1⟩]
        else s.jobs), run.succeeded = true → run.attempt.verified.isSome = true := by
    intro run hrun hsucceeded
    split at hrun
    · rcases mem_append.mp hrun with hrun | hrun
      · exact h.jobs run hrun hsucceeded
      · rw [mem_singleton.mp hrun] at hsucceeded
        exact absurd (hsucceeded.symm.trans hfails) (by decide)
    · exact h.jobs run hrun hsucceeded
  rcases @records_of_edited conn s.catalog backupId (·.verifyFail detail)
    (markVerifyFailed now actor backupId detail) (ends_markVerifyFailed detail) with
    hsame | ⟨hrecords, hnext⟩
  · rw [hsame]
    refine ⟨h.arranged.leaveVerifying, h.restorable, h.reached, fun r hr hverified => ?_, hjobs⟩
    dsimp only
    rw [hlast r fun hid => hsuits r hr hid hverified]
    exact h.verified r hr hverified
  · refine ⟨?_, fun r hr hstatus => ?_, fun r hr hverified => ?_, fun r hr hverified => ?_, hjobs⟩
    · dsimp only
      rw [places_set (f := (·.verifyFail detail)) (fun _ => ⟨rfl, rfl⟩) hrecords, hnext]
      exact h.arranged.leaveVerifying
    · rcases mem_set hrecords hr with ⟨hr, -⟩ | ⟨r', hr', hid, rfl⟩
      · exact h.restorable r hr hstatus
      · exact h.restorable r' hr' hstatus
    · rcases mem_set hrecords hr with ⟨hr, -⟩ | ⟨r', hr', hid, rfl⟩
      · exact h.reached r hr hverified
      · exact absurd hverified (hsuits r' hr' hid)
    · rcases mem_set hrecords hr with ⟨hr, hid⟩ | ⟨r', hr', hid, rfl⟩
      · dsimp only
        rw [hlast r hid]
        exact h.verified r hr hverified
      · exact absurd hverified (hsuits r' hr' hid)

theorem Sound.conclude (hhonest : Honest s (.conclude call now conn actor))
    (hs : move sha256 s (.conclude call now conn actor) = some s') : Sound sha256 s' := by
  simp only [move] at hs
  split at hs
  · next backupId job stage hcall =>
    have hsuits := hhonest _ hcall
    cases stage with
    | opened path => cases hs
    | passed plain detail =>
      cases hs
      exact Sound.conclude_passed h hcall hsuits
    | broken detail =>
      cases hs
      exact Sound.conclude_broken h hsuits
  · cases hs

/-- A step that may be taken keeps the invariant. -/
theorem Invariant.step {a : Action} (hhonest : Honest s a)
    (hs : step sha256 s a = some s') : Invariant sha256 s' := by
  obtain ⟨moved, hmove, rfl⟩ := Option.map_eq_some_iff.mp hs
  refine Sound.note ?_
  have hsound := h.toSound
  cases a with
  | create call now conn actor value => exact hsound.create hhonest hmove
  | write call configured plain =>
    simp only [move] at hmove
    split at hmove
    · next record path secret hcall _ =>
      cases hmove
      obtain ⟨-, -, -, hholds⟩ := hsound.arranged.begun call _ hcall
      refine hsound.write _ hcall (fun secret plain hfile => ?_) rfl
      rw [hholds] at hfile
      cases hfile
    · cases hmove
  | written call =>
    simp only [move] at hmove
    split at hmove
    · next record path secret plain hcall =>
      cases hmove
      obtain ⟨-, -, -, hholds⟩ := hsound.arranged.begun call _ hcall
      refine hsound.write _ hcall (fun secret plain hfile => ?_) ⟨secret, rfl⟩
      rw [hholds] at hfile
      cases hfile
    · cases hmove
  | complete call now conn actor rest => exact hsound.complete hmove
  | fail call now conn actor detail => exact hsound.fail hmove
  | stop call =>
    cases hmove
    exact ⟨hsound.arranged.leave, hsound.restorable, hsound.reached, hsound.verified, hsound.jobs⟩
  | verify call backupId job => exact hsound.verify hmove
  | check call configured listing => exact hsound.check hmove
  | conclude call now conn actor => exact Sound.conclude h hhonest hmove
  | stopVerifying call =>
    cases hmove
    exact ⟨hsound.arranged.leaveVerifying, hsound.restorable, hsound.reached, hsound.verified,
      hsound.jobs⟩

end

theorem Invariant.initial : Invariant sha256 .initial where
  arranged :=
    { known := fun _ h => absurd h not_mem_nil
      single := fun _ h => absurd h not_mem_nil
      begun := fun _ _ h => by cases h
      apart := fun _ _ _ _ h => by cases h
      owned := fun _ h => absurd rfl h
      opened := fun _ _ h => by cases h }
  restorable _ h := absurd h not_mem_nil
  reached _ h := absurd h not_mem_nil
  verified _ h := absurd h not_mem_nil
  jobs _ h := absurd h not_mem_nil
  completed _ h := absurd h not_mem_nil

theorem Invariant.truthful (h : Invariant sha256 s) : Truthful sha256 s where
  completed r hr hcompleted := h.restorable r hr (.inl hcompleted)
  __ := h

end Runs

/-- **Backup records tell the truth** in every run in which no verification that goes well marks a
record that was not completed, none that does not meets a record that is verified, and no two
backups have one file. -/
theorem truthful_along {sha256 : Bytes → String} {as : List Action} {s : State}
    (hhonest : (system sha256).Along Honest .initial as)
    (hrun : (system sha256).run .initial as = some s) : Truthful sha256 s := by
  have hinvariant := (system sha256).invariant_along (P := Honest) (I := Invariant sha256)
    (fun _ _ _ h hhonest hs => h.step hhonest hs) Invariant.initial hhonest hrun
  exact hinvariant.truthful

/-! ## A verification that fails -/

/-- A connection on which nothing goes wrong. -/
def healthy : Connection String where
  statement := fun _ => none
  aborted := "current transaction is aborted, commands ignored until end of transaction block"
  free := true
  connect := none
  start := none
  setConfig := none
  commit := .ok
  rollback := none

/-- The hash of the only dump. -/
def dumpHash (_ : Bytes) : String :=
  "b5a26a21290c39819235a235b8ed66b3bd98ed90c8316c8949bfbb7419cac878"

/-- The bytes of `PGDMP`. -/
def dump : Bytes := [80, 71, 68, 77, 80]

def secret : Option String := some "correct-horse-battery-staple"

/-- A backup is created, and a job verifies it. -/
def backedUp : List Action :=
  [.create 0 0 healthy "operator" ⟨"nightly", .full, .full, .manual, "/backups/nightly.dump.enc",
      none, none⟩,
    .write 0 secret dump, .written 0,
    .complete 0 1 healthy "operator" ⟨⟨true, 1, 10, some "", [], ["/etc/kannel"]⟩,
      "/backups/nightly.config.json.gz.enc", .stored "s3://backups/nightly", "", ""⟩,
    .verify 0 0 true, .check 0 secret (.listed ["1; entry"]), .conclude 0 2 healthy "operator"]

/-- The job verifies it again, on a host without `pg_restore`. -/
def verifiedAgain : List Action :=
  [.verify 1 0 true, .check 1 secret .missing, .conclude 1 3 healthy "operator"]

theorem truthful_backedUp : ∃ s, (system dumpHash).run .initial backedUp = some s ∧
    s.catalog.records.map BackupRecord.status = [.verified] ∧ Truthful dumpHash s := by
  obtain ⟨s, hrun, hstatus⟩ := (system dumpHash).exists_run (s := State.initial) (w := backedUp)
    (fun s => s.catalog.records.map BackupRecord.status == [.verified]) (by decide +kernel)
  exact ⟨s, hrun, by simpa using hstatus, truthful_along
    ((system dumpHash).along_of_check Honest (by decide +kernel)) hrun⟩

/-- The second verification fails, the record stays verified, and the job succeeds. -/
theorem not_truthful : ∃ as s, (system dumpHash).run .initial as = some s ∧
    ¬ Truthful dumpHash s := by
  obtain ⟨s, hrun, hjobs⟩ := (system dumpHash).exists_run (s := State.initial)
    (w := backedUp ++ verifiedAgain)
    (fun s => s.jobs.any fun job => job.succeeded && job.attempt.verified.isNone)
    (by decide +kernel)
  refine ⟨_, s, hrun, fun h => ?_⟩
  obtain ⟨job, hjob, hlie⟩ := any_eq_true.mp hjobs
  rw [Bool.and_eq_true] at hlie
  have htrue := h.jobs job hjob hlie.1
  rw [Option.isNone_iff_eq_none.mp hlie.2] at htrue
  cases htrue

end Jkannel.Backups

