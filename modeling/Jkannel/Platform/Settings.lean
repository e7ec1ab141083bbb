import Jkannel.Lib.Transition
import Mathlib.Data.List.Sort

/-!
# Secret settings

The values of settings that are stored as secret are redacted by each query that returns them.

* `listSettings` and `putSetting` are the two calls, and `step` is one of them.
* `masked_step` is that redaction goes through a call: what it answers and audits comes from the
  redacted rows alone, unless it overwrites a secret, which `audit` writes out as it was.
* `nothing_leaks` is the promise, for runs of calls that overwrite no secret, and `leaks_old` what
  happens in the others.
-/

namespace Jkannel.Platform.Settings

open List
open Transition

variable {V : Type}

/-- An entry of `DEFAULT_SETTINGS`. -/
structure SettingDefault (V : Type) where
  key : String
  group : String
  value : V
  type : String
  description : String
  editable : Bool

/-- What the queries return of a setting. -/
structure Cells (V : Type) where
  key : String
  value : V
  isSecret : Bool
  updatedBy : String
  updatedAt : Int
  deriving DecidableEq

/-- A row of `system_settings`. -/
structure Row (V : Type) extends Cells V where
  tenantId : Nat
  deriving DecidableEq

/-- A row of the answer, with what is known of its key. -/
structure Item (V : Type) extends Cells V where
  group : String
  type : String
  description : String
  editable : Bool

/-- An audit record. -/
structure Audit (V : Type) where
  tenantId : Nat
  actorId : String
  action : String
  entityType : String
  entityId : String
  oldValue : Option (Row V)
  newValue : Option (Cells V)
  reason : Option String
  deriving DecidableEq

structure Actor where
  tenantId : Nat
  userId : String
  deriving DecidableEq

/-- What the service is set up with. -/
structure Setting (V : Type) where
  DEFAULT_SETTINGS : List (SettingDefault V)
  /-- `'"[redacted]"'::jsonb`. -/
  redacted : V
  /-- The collation of the keys. -/
  keyLe : String → String → Prop
  decidableKeyLe : DecidableRel keyLe

/-- What a call answers. -/
inductive Response (V : Type) where
  | listed (items : List (Item V)) (total limit offset : Nat)
  | put (row : Cells V)

/-- The calls there are. -/
inductive Call (V : Type) where
  | listSettings (actor : Actor) (now : Int)
  | putSetting (actor : Actor) (key : String) (value : V) (isSecret : Option Bool)
      (reason : Option String) (now : Int)
  deriving DecidableEq

/-- The rows, the answers, the log. -/
structure State (V : Type) where
  rows : List (Row V)
  responses : List (Response V)
  auditLog : List (Audit V)

/-- Whether a row is what the unique index finds at a tenant's key. -/
def Row.isAt (tenantId : Nat) (key : String) (row : Row V) : Bool :=
  row.tenantId = tenantId && row.key = key

def insertMissing (rows : List (Row V)) (row : Row V) : List (Row V) :=
  if rows.any (Row.isAt row.tenantId row.key) then rows else rows ++ [row]

def upsert (rows : List (Row V)) (row : Row V) : List (Row V) :=
  if rows.any (Row.isAt row.tenantId row.key) then
    rows.map fun old => if old.isAt row.tenantId row.key then row else old
  else rows ++ [row]

variable (env : Setting V)

/-- `CASE WHEN is_secret THEN '"[redacted]"'::jsonb ELSE value END`. -/
def redact (cells : Cells V) : Cells V :=
  { cells with value := if cells.isSecret then env.redacted else cells.value }

def Row.masked (row : Row V) : Row V := { row with toCells := redact env row.toCells }

def SettingDefault.row (d : SettingDefault V) (tenantId : Nat) (now : Int) : Row V where
  tenantId := tenantId
  key := d.key
  value := d.value
  isSecret := false
  updatedBy := "system"
  updatedAt := now

/-- The map is built from the list, so that the last entry of a key counts. -/
def decorate (cells : Cells V) : Item V :=
  let m := env.DEFAULT_SETTINGS.reverse.find? fun d => d.key = cells.key
  { cells with
    group := (m.map SettingDefault.group).getD "Other"
    type := (m.map SettingDefault.type).getD "string"
    description := (m.map SettingDefault.description).getD ""
    editable := (m.map SettingDefault.editable).getD true }

/-- What a tenant is shown of the rows. -/
def shown (rows : List (Row V)) (tenantId : Nat) : List (Cells V) :=
  (rows.filter fun row => row.tenantId = tenantId).map fun row => redact env row.toCells

/-- The rows with the defaults that were missing, and the answer. -/
def listSettings (rows : List (Row V)) (actor : Actor) (now : Int) : List (Row V) × Response V :=
  let seeded := (env.DEFAULT_SETTINGS.map fun d => d.row actor.tenantId now).foldl insertMissing rows
  let _ := env.decidableKeyLe
  let sorted := (shown env seeded actor.tenantId).insertionSort fun a b => env.keyLe a.key b.key
  (seeded, .listed (sorted.map (decorate env)) sorted.length sorted.length 0)

/-- A setting is written and audited. -/
def putSetting (rows : List (Row V)) (row : Row V) (reason : Option String) :
    List (Row V) × Response V × Audit V :=
  let old := rows.find? (Row.isAt row.tenantId row.key)
  let returned := redact env row.toCells
  (upsert rows row, .put returned,
    { tenantId := row.tenantId, actorId := row.updatedBy, action := "setting.updated",
      entityType := "system_setting", entityId := row.key, oldValue := old,
      newValue := some returned, reason := reason })

/-- The row that a call stores. -/
def storedRow (actor : Actor) (key : String) (value : V) (isSecret : Option Bool) (now : Int) :
    Row V where
  tenantId := actor.tenantId
  key := key
  value := value
  isSecret := isSecret.getD false
  updatedBy := actor.userId
  updatedAt := now

/-- One call. -/
def step (s : State V) : Call V → State V
  | .listSettings actor now =>
    let answer := listSettings env s.rows actor now
    { s with rows := answer.1, responses := s.responses ++ [answer.2] }
  | .putSetting actor key value isSecret reason now =>
    let answer := putSetting env s.rows (storedRow actor key value isSecret now) reason
    { rows := answer.1, responses := s.responses ++ [answer.2.1]
      auditLog := s.auditLog ++ [answer.2.2] }

def system : System (State V) (Call V) := ⟨fun s call => some (step env s call)⟩

/-! ## What is hidden -/

/-- A call without the value that it stores as secret. -/
def Call.hidden : Call V → Call V
  | .putSetting actor key value isSecret reason now =>
    .putSetting actor key (if isSecret.getD false then env.redacted else value) isSecret reason now
  | call => call

/-- A state without its secrets. -/
def State.masked (s : State V) : State V := { s with rows := s.rows.map (Row.masked env) }

/-- A call that overwrites no secret. -/
def KeepsSecrets (s : State V) : Call V → Prop
  | .putSetting actor key .. => ∀ old ∈ s.rows.find? (Row.isAt actor.tenantId key),
      old.isSecret = false
  | .listSettings .. => True

variable {env}

@[simp] theorem redact_redact (cells : Cells V) : redact env (redact env cells) = redact env cells := by
  cases h : cells.isSecret <;> simp [redact, h]

theorem masked_eq {row : Row V} (h : row.isSecret = false) : row.masked env = row := by
  rw [Row.masked, redact, h, if_neg Bool.false_ne_true, ← h]

theorem isAt_comp_masked (tenantId : Nat) (key : String) :
    Row.isAt tenantId key ∘ Row.masked env = Row.isAt tenantId key := rfl

theorem map_insertMissing (rows : List (Row V)) (row : Row V) :
    (insertMissing rows row).map (Row.masked env) =
      insertMissing (rows.map (Row.masked env)) (row.masked env) := by
  simp only [insertMissing, any_map, apply_ite (List.map (Row.masked env)), map_append]
  rfl

theorem map_upsert (rows : List (Row V)) (row : Row V) :
    (upsert rows row).map (Row.masked env) =
      upsert (rows.map (Row.masked env)) (row.masked env) := by
  simp only [upsert, any_map, apply_ite (List.map (Row.masked env)), map_append, map_map]
  congr 2
  funext old
  simp only [Function.comp_apply, apply_ite (Row.masked env)]
  rfl

theorem find?_masked (rows : List (Row V)) (tenantId : Nat) (key : String) :
    (rows.map (Row.masked env)).find? (Row.isAt tenantId key) =
      (rows.find? (Row.isAt tenantId key)).map (Row.masked env) := by
  rw [find?_map, isAt_comp_masked]

theorem map_seeded (defaults : List (SettingDefault V)) (tenantId : Nat) (now : Int)
    (rows : List (Row V)) :
    ((defaults.map fun d => d.row tenantId now).foldl insertMissing rows).map (Row.masked env) =
      (defaults.map fun d => d.row tenantId now).foldl insertMissing
        (rows.map (Row.masked env)) := by
  induction defaults generalizing rows with
  | nil => rfl
  | cons d defaults ih =>
    rw [map_cons, foldl_cons, foldl_cons, ih, map_insertMissing, masked_eq rfl]

theorem shown_masked (rows : List (Row V)) (tenantId : Nat) :
    shown env (rows.map (Row.masked env)) tenantId = shown env rows tenantId := by
  rw [shown, filter_map, map_map]
  exact map_congr_left fun row _ => redact_redact row.toCells

theorem putSetting_masked {rows : List (Row V)} {row : Row V} (reason : Option String)
    (h : ∀ old ∈ rows.find? (Row.isAt row.tenantId row.key), old.isSecret = false) :
    putSetting env (rows.map (Row.masked env)) (row.masked env) reason =
      ((putSetting env rows row reason).1.map (Row.masked env),
        (putSetting env rows row reason).2) := by
  have hold : (rows.map (Row.masked env)).find?
      (Row.isAt (row.masked env).tenantId (row.masked env).key) =
        rows.find? (Row.isAt row.tenantId row.key) := by
    refine (find?_masked rows row.tenantId row.key).trans ?_
    cases hfind : rows.find? (Row.isAt row.tenantId row.key) with
    | none => rfl
    | some old => exact congrArg some (masked_eq (h old hfind))
  have hnew : redact env (row.masked env).toCells = redact env row.toCells := redact_redact _
  rw [putSetting, putSetting, hold, hnew, map_upsert]
  rfl

/-- **Redaction goes through a call** that overwrites no secret. -/
theorem masked_step {s : State V} {call : Call V} (h : KeepsSecrets s call) :
    (step env s call).masked env = step env (s.masked env) (call.hidden env) := by
  cases call with
  | listSettings actor now =>
    simp only [step, listSettings, State.masked, Call.hidden, ← map_seeded, shown_masked]
  | putSetting actor key value isSecret reason now =>
    have hput : putSetting env (s.rows.map (Row.masked env))
        ((storedRow actor key value isSecret now).masked env) reason = _ :=
      putSetting_masked reason h
    have hstored : storedRow actor key (if isSecret.getD false then env.redacted else value)
        isSecret now = (storedRow actor key value isSecret now).masked env := rfl
    simp only [step, State.masked, Call.hidden, hstored, hput]

theorem keepsSecrets_masked (s : State V) (call : Call V) :
    KeepsSecrets (s.masked env) (call.hidden env) ↔ KeepsSecrets s call := by
  cases call with
  | listSettings actor now => exact Iff.rfl
  | putSetting actor key value isSecret reason now =>
    simp only [KeepsSecrets, State.masked, Call.hidden, find?_masked, Option.mem_def,
      Option.map_eq_some_iff, forall_exists_index, and_imp, forall_apply_eq_imp_iff₂]
    rfl

/-- Two runs of the same calls but for secrets end alike but for secrets. -/
theorem masked_run {w w' : List (Call V)} {s t s' t' : State V}
    (h : (system env).Along KeepsSecrets s w) (hst : s.masked env = t.masked env)
    (hw : w.map (Call.hidden env) = w'.map (Call.hidden env))
    (hs : (system env).run s w = some s') (ht : (system env).run t w' = some t') :
    s'.masked env = t'.masked env := by
  induction w generalizing w' s t with
  | nil =>
    obtain rfl := map_eq_nil_iff.mp hw.symm
    cases hs
    cases ht
    exact hst
  | cons call w ih =>
    obtain ⟨call', w', rfl, hcall, hw⟩ := map_eq_cons_iff.mp hw.symm
    have hkeep : KeepsSecrets (s.masked env) (call.hidden env) :=
      (keepsSecrets_masked s call).mpr h.1
    rw [hst, ← hcall] at hkeep
    refine ih (h.2 _ rfl) ?_ hw.symm hs ht
    rw [masked_step h.1, masked_step ((keepsSecrets_masked t call').mp hkeep), hst, hcall]

/-- **No secret leaks** from a run of calls that overwrite none: with other values stored as secret,
every answer and every row of the audit log would have been the same. -/
theorem nothing_leaks {w w' : List (Call V)} {s t t' : State V}
    (h : (system env).Along KeepsSecrets s w)
    (hw : w.map (Call.hidden env) = w'.map (Call.hidden env))
    (hs : (system env).run s w = some t) (ht : (system env).run s w' = some t') :
    t.responses = t'.responses ∧ t.auditLog = t'.auditLog := by
  have hmasked := masked_run h rfl hw hs ht
  exact ⟨congrArg (fun s => s.responses) hmasked, congrArg (fun s => s.auditLog) hmasked⟩

/-! ## Runs on the screen -/

def exampleSetting : Setting Nat where
  DEFAULT_SETTINGS := []
  redacted := 0
  keyLe := fun a b => a.length ≤ b.length
  decidableKeyLe := inferInstance

/-- A password that is stored, and shown. -/
def storedOnce (password : Nat) : List (Call Nat) :=
  [.putSetting ⟨1, "ada"⟩ "smtp.password" password (some true) none 5, .listSettings ⟨1, "ada"⟩ 6]

theorem hidden_eq : (storedOnce 7).map (Call.hidden exampleSetting) =
    (storedOnce 8).map (Call.hidden exampleSetting) := rfl

theorem stored_over_nothing :
    (system exampleSetting).Along KeepsSecrets ⟨[], [], []⟩ (storedOnce 7) :=
  System.along_cons _ rfl (fun old hold => by cases hold) ⟨trivial, fun _ _ => trivial⟩

theorem password_hidden : ∃ t t' : State Nat,
    (system exampleSetting).run ⟨[], [], []⟩ (storedOnce 7) = some t ∧
      (system exampleSetting).run ⟨[], [], []⟩ (storedOnce 8) = some t' ∧
        t.responses = t'.responses ∧ t.auditLog = t'.auditLog :=
  ⟨_, _, rfl, rfl, nothing_leaks stored_over_nothing hidden_eq rfl rfl⟩

/-- Overwriting it writes it out. -/
theorem leaks_old :
    let w := fun password => storedOnce password ++ storedOnce 9
    (w 7).map (Call.hidden exampleSetting) = (w 8).map (Call.hidden exampleSetting) ∧
      ((w 7).foldl (step exampleSetting) ⟨[], [], []⟩).auditLog ≠
        ((w 8).foldl (step exampleSetting) ⟨[], [], []⟩).auditLog := by
  decide

end Jkannel.Platform.Settings
