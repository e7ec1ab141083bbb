import Jkannel.Lib.Transition
import Jkannel.Routing.Resolution

/-!
# Binds that are archived

A bind is created, patched, operated and archived.  An operation is two transactions, with the
engine's answer between them; everything else is one.

* `step` is any of these, with what else the readers look at: what the poller observes, traffic that
  is suspended, and routes that are written.  `availability` and `build` are the readers.
* `archived_out_of_service` is the promise: what has been archived is not enabled, not offered, not
  rendered and no route's target.  It holds in every run that is `Respected`: archived binds are not
  enabled again, by a patch or by an operation, and no route is pointed at one.
* `archived_returns` shows that each of these can be done: nothing looks at the lifecycle state.
-/

namespace Jkannel.Routing.Archive

open List

/-! ## Rows -/

/-- The states that `smsc_lifecycle_state` allows. -/
inductive LifecycleState where
  | draft | validated | approved | deployed | active | degraded | disabled | archived
  deriving DecidableEq

def LifecycleState.text : LifecycleState → String
  | .draft => "draft"
  | .validated => "validated"
  | .approved => "approved"
  | .deployed => "deployed"
  | .active => "active"
  | .degraded => "degraded"
  | .disabled => "disabled"
  | .archived => "archived"

/-- The CHECK constraint of the column. -/
def LifecycleState.parse (text : String) : Option LifecycleState :=
  [.draft, .validated, .approved, .deployed, .active, .degraded, .disabled, .archived].find?
    fun state => state.text = text

/-- A row of `smsc_definitions`. -/
structure SmscRecord extends SmscDefinition where
  name : String
  priority : Nat
  lifecycleState : LifecycleState
  lastError : Option String

inductive Operation where
  | enable | disable | reconnect | test
  deriving DecidableEq

inductive DeploymentStatus where
  | pending | succeeded | failed

/-- A row of `smsc_deployments`. -/
structure SmscDeployment where
  smscId : String
  operation : Operation
  status : DeploymentStatus
  idempotencyKey : String

/-! ## Writes -/

/-- `createSmsc`: the row it inserts. -/
def newSmsc (id engineId name : String) (priority : Option Nat) (enabled : Option Bool) :
    SmscRecord where
  id
  engineId
  enabled := enabled.getD true
  trafficSuspendedAt := none
  name
  priority := priority.getD 100
  lifecycleState := .draft
  lastError := none

/-- `updateSmsc`, of the columns that matter here. -/
def updateSmsc (name : Option String) (enabled : Option Bool) (row : SmscRecord) : SmscRecord :=
  { row with
    name := name.getD row.name
    enabled := enabled.getD row.enabled }

def archiveSmsc (row : SmscRecord) : SmscRecord :=
  { row with
    lifecycleState := .archived
    enabled := false }

/-- The state that an operation leaves, as it is written. -/
def operationState (operation : Operation) (succeeded : Bool) : String :=
  if operation = .disable then "disabled"
  else if succeeded then if operation = .test then "reachable" else "active"
  else "degraded"

/-- The UPDATE of `completeSmscOperation`, unless the row's check refuses it. -/
def completeRow (operation : Operation) (succeeded : Bool) (detail : String) (row : SmscRecord) :
    Option SmscRecord :=
  (LifecycleState.parse (operationState operation succeeded)).map fun lifecycleState =>
    { row with
      lifecycleState
      enabled :=
        if operation = .disable then false
        else if (operation = .enable ∨ operation = .reconnect) ∧ succeeded then true
        else row.enabled
      lastError := if succeeded then none else some detail }

def checkViolation : String :=
  "new row for relation \"smsc_definitions\" violates check constraint \"smsc_lifecycle_state\""

/-- `operate`, from the engine's answer on: what fails is completed as a failure. -/
def completeSmscOperation (operation : Operation) (succeeded : Bool) (detail : String)
    (row : SmscRecord) : SmscRecord × DeploymentStatus :=
  match completeRow operation succeeded detail row with
  | some row' => (row', if succeeded then .succeeded else .failed)
  | none => ((completeRow operation false checkViolation row).getD row, .failed)

/-! ## The machine -/

/-- The tables, and what was operated. -/
structure State where
  smscs : List SmscRecord
  deployments : List SmscDeployment
  bindStates : List SmscBindState
  routingRules : List RouteRow
  /-- The ids of the binds that have been archived. -/
  archived : List String

def init : State := ⟨[], [], [], [], []⟩

/-- The requests there are. -/
inductive Action where
  /-- The id is the one that the database will give it. -/
  | create (id engineId name : String) (priority : Option Nat) (enabled : Option Bool)
  | patch (id : String) (name : Option String) (enabled : Option Bool)
  | archive (id : String)
  /-- `beginSmscOperation`. -/
  | operate (id : String) (operation : Operation) (idempotencyKey : String)
  /-- The engine, or the probe, has answered. -/
  | complete (deployment : Nat) (succeeded : Bool) (detail : String)
  | observe (id state : String)
  | suspend (id : String) (at' : Option Int)
  /-- A route is created or changed, with its targets. -/
  | writeRoute (row : RouteRow)

def State.setSmsc (s : State) (id : String) (f : SmscRecord → SmscRecord) : State :=
  { s with smscs := s.smscs.map fun row => if row.id = id then f row else row }

def State.hasSmsc (s : State) (id : String) : Bool := s.smscs.any fun row => row.id = id

/-- A routing rule names the bind as its target or as its fallback. -/
def references (id : String) (rule : RouteRow) : Bool :=
  rule.route.targetSmscId = id || rule.route.fallbackSmscId = some id

/-- What one action does; the foreign keys and unique indexes are those of the tables. -/
@[grind =] def step (s : State) : Action → Option State
  | .create id engineId name priority enabled =>
    if s.smscs.any fun row => row.id = id || row.engineId = engineId || row.name = name then none
    else some { s with smscs := s.smscs ++ [newSmsc id engineId name priority enabled] }
  | .patch id name enabled =>
    if (s.smscs.any fun row => row.id ≠ id && some row.name = name) ∨ ¬ s.hasSmsc id then none
    else some (s.setSmsc id (updateSmsc name enabled))
  | .archive id =>
    if s.routingRules.any (references id) ∨ ¬ s.hasSmsc id then none
    else some { s.setSmsc id archiveSmsc with archived := id :: s.archived }
  | .operate id operation idempotencyKey =>
    -- a key that is known is answered with the row it has
    if s.deployments.any fun row => row.idempotencyKey = idempotencyKey then some s
    else if s.hasSmsc id then
      some { s with deployments := s.deployments ++ [⟨id, operation, .pending, idempotencyKey⟩] }
    else none
  | .complete d succeeded detail =>
    match s.deployments[d]? with
    | some ⟨id, operation, .pending, idempotencyKey⟩ =>
      let status := match s.smscs.find? fun row => row.id = id with
        | some row => (completeSmscOperation operation succeeded detail row).2
        | none => .failed
      some { s.setSmsc id fun row => (completeSmscOperation operation succeeded detail row).1 with
        deployments := s.deployments.set d ⟨id, operation, status, idempotencyKey⟩ }
    | _ => none
  | .observe id state =>
    some { s with bindStates := ⟨id, state⟩ :: s.bindStates.filter fun row => row.smscId ≠ id }
  | .suspend id at' => some (s.setSmsc id fun row => { row with trafficSuspendedAt := at' })
  | .writeRoute row =>
    if s.hasSmsc row.route.targetSmscId ∧ row.route.fallbackSmscId.all s.hasSmsc ∧
        (row.route.targets.all fun target => s.hasSmsc target.smscId) then
      some { s with routingRules :=
        row :: s.routingRules.filter fun rule => rule.route.id ≠ row.route.id }
    else none

/-- The life of the binds as a transition system. -/
def operating : Transition.System State Action := ⟨step⟩

/-! ## The readers -/

/-- The tables that routing reads. -/
def State.tables (s : State) : RoutingTables where
  smscDefinitions := s.smscs.map SmscRecord.toSmscDefinition
  bindStates := s.bindStates
  routingRules := s.routingRules
  customerRoutes := []

def NON_RENDERABLE_STATES : List LifecycleState := [.archived, .disabled]

/-- Why a bind is not rendered, if it is not. -/
def exclusion (includeInactive : Bool) (row : SmscRecord) : Option String :=
  if includeInactive then none
  else if !row.enabled then some "disabled"
  else if row.lifecycleState ∈ NON_RENDERABLE_STATES then
    some ("lifecycle_state=" ++ row.lifecycleState.text)
  else none

/-- `build`: the engine ids of the binds that are rendered, and of those that are not, with the
reason, in the order of the file. -/
def build (s : State) (includeInactive : Bool) : List String × List (String × String) :=
  let rows := s.smscs.insertionSort fun a b =>
    a.priority < b.priority || (a.priority = b.priority && a.engineId ≤ b.engineId)
  ((rows.filter fun row => (exclusion includeInactive row).isNone).map fun row => row.engineId,
    rows.filterMap fun row => (exclusion includeInactive row).map fun reason => (row.engineId, reason))

/-! ## What is promised -/

/-- A route sends to the bind, as its target or as one of its weighted ones. -/
def targets (id : String) (rule : RouteRow) : Prop :=
  rule.route.targetSmscId = id ∨ ∃ target ∈ rule.route.targets, target.smscId = id

instance (id : String) (rule : RouteRow) : Decidable (targets id rule) :=
  inferInstanceAs (Decidable (_ ∨ _))

/-- A bind is out of service. -/
structure OutOfService (s : State) (id : String) : Prop where
  disabled : ∀ row ∈ s.smscs, row.id = id → row.enabled = false
  /-- Its id leads to no engine id, and its engine id is not among the available ones. -/
  unresolved : byId (availability s.tables).rows id = none
  unavailable : ∀ row ∈ s.smscs, row.id = id →
    row.engineId ∉ (availability s.tables).available
  unrendered : ∀ row ∈ s.smscs, row.id = id → row.engineId ∉ (build s false).1
  untargeted : ∀ rule ∈ s.routingRules, rule.route.enabled → ¬ targets id rule

/-- A step that leaves archived binds alone: none is patched to enabled, no operation succeeds in
enabling one, and no enabled route is pointed at one, or has one among its weighted targets when it
is archived. -/
def Respected (s : State) : Action → Prop
  | .patch id _ enabled => id ∈ s.archived → enabled ≠ some true
  | .complete d succeeded _ => ∀ deployment ∈ s.deployments[d]?, deployment.smscId ∈ s.archived →
    ¬ (succeeded = true ∧ (deployment.operation = .enable ∨ deployment.operation = .reconnect))
  | .archive id => ∀ rule ∈ s.routingRules, rule.route.enabled → ¬ targets id rule
  | .writeRoute row => row.route.enabled → ∀ id ∈ s.archived, ¬ targets id row
  | _ => True

instance (s : State) (a : Action) : Decidable (Respected s a) := by
  cases a <;> unfold Respected <;> infer_instance

/-! ## Every step -/

/-- Archived binds are disabled, and no enabled route's targets; engine ids tell binds apart. -/
structure Inv (s : State) : Prop where
  disabled : ∀ row ∈ s.smscs, row.id ∈ s.archived → row.enabled = false
  known : ∀ id ∈ s.archived, s.hasSmsc id
  unique : ∀ a ∈ s.smscs, ∀ b ∈ s.smscs, a.engineId = b.engineId → a.id = b.id
  untargeted : ∀ rule ∈ s.routingRules, rule.route.enabled → ∀ id ∈ s.archived, ¬ targets id rule

section Steps

variable {s s' : State}

variable {f : SmscRecord → SmscRecord} {row : SmscRecord} {id : String} {operation : Operation}

theorem mem_setSmsc (h : row ∈ (s.setSmsc id f).smscs) :
    ∃ old ∈ s.smscs, (old.id = id ∧ row = f old) ∨ (old.id ≠ id ∧ row = old) := by
  obtain ⟨old, hold, rfl⟩ := mem_map.mp h
  refine ⟨old, hold, ?_⟩
  by_cases hid : old.id = id
  · exact .inl ⟨hid, if_pos hid⟩
  · exact .inr ⟨hid, if_neg hid⟩

theorem hasSmsc_iff : s.hasSmsc id ↔ ∃ row ∈ s.smscs, row.id = id := by
  simp only [State.hasSmsc, any_eq_true, decide_eq_true_eq]

/-- A change that keeps the ids of a bind. -/
structure Keeps (f : SmscRecord → SmscRecord) : Prop where
  id : ∀ row, (f row).id = row.id
  engineId : ∀ row, (f row).engineId = row.engineId

theorem hasSmsc_setSmsc {id id' : String} (hf : Keeps f) (h : s.hasSmsc id') :
    (s.setSmsc id f).hasSmsc id' := by
  obtain ⟨row, hrow, rfl⟩ := hasSmsc_iff.mp h
  refine hasSmsc_iff.mpr ⟨_, mem_map_of_mem hrow, ?_⟩
  split
  · exact hf.id row
  · rfl

theorem setSmsc_unique (h : Inv s) (hf : Keeps f) :
    ∀ a ∈ (s.setSmsc id f).smscs, ∀ b ∈ (s.setSmsc id f).smscs, a.engineId = b.engineId →
      a.id = b.id := by
  have hold : ∀ row ∈ (s.setSmsc id f).smscs, ∃ old ∈ s.smscs,
      row.id = old.id ∧ row.engineId = old.engineId := by
    intro row hrow
    obtain ⟨old, hmem, ⟨-, rfl⟩ | ⟨-, rfl⟩⟩ := mem_setSmsc hrow
    · exact ⟨old, hmem, hf.id old, hf.engineId old⟩
    · exact ⟨row, hmem, rfl, rfl⟩
  intro a ha b hb he
  obtain ⟨a', ha', hida, hea⟩ := hold a ha
  obtain ⟨b', hb', hidb, heb⟩ := hold b hb
  rw [hida, hidb]
  exact h.unique a' ha' b' hb' (hea ▸ heb ▸ he)

/-- **A bind is changed**, and not enabled if it is archived. -/
theorem Inv.setSmsc (h : Inv s) (hf : Keeps f)
    (henabled : ∀ row ∈ s.smscs, row.id = id → row.id ∈ s.archived → row.enabled = false →
      (f row).enabled = false) : Inv (s.setSmsc id f) := by
  refine ⟨fun row hrow hid => ?_, fun id' hid' => ?_, setSmsc_unique h hf, h.untargeted⟩
  · obtain ⟨old, hold, ⟨he, rfl⟩ | ⟨-, rfl⟩⟩ := mem_setSmsc hrow
    · rw [hf.id] at hid
      exact henabled old hold he hid (h.disabled old hold hid)
    · exact h.disabled row hold hid
  · exact hasSmsc_setSmsc hf (h.known id' hid')

theorem keeps_completeSmscOperation (operation : Operation) (succeeded : Bool) (detail : String) :
    Keeps fun row => (completeSmscOperation operation succeeded detail row).1 := by
  have hrow : ∀ succeeded detail row row', completeRow operation succeeded detail row = some row' →
      row'.id = row.id ∧ row'.engineId = row.engineId := by
    intro succeeded detail row row' h
    obtain ⟨state, -, rfl⟩ := Option.map_eq_some_iff.mp h
    exact ⟨rfl, rfl⟩
  have hboth : ∀ row, (completeSmscOperation operation succeeded detail row).1.id = row.id ∧
      (completeSmscOperation operation succeeded detail row).1.engineId = row.engineId := by
    intro row
    unfold completeSmscOperation
    split
    · rename_i row' h
      exact hrow _ _ _ _ h
    · cases h : completeRow operation false checkViolation row with
      | none => exact ⟨rfl, rfl⟩
      | some row' => exact hrow _ _ _ _ h
  exact ⟨fun row => (hboth row).1, fun row => (hboth row).2⟩

/-- An operation that does not succeed in enabling or reconnecting enables nothing. -/
theorem completeRow_enabled {succeeded : Bool} {detail : String} {row' : SmscRecord}
    (hop : ¬ (succeeded = true ∧ (operation = .enable ∨ operation = .reconnect)))
    (henabled : row.enabled = false) (h : completeRow operation succeeded detail row = some row') :
    row'.enabled = false := by
  obtain ⟨state, -, rfl⟩ := Option.map_eq_some_iff.mp h
  split
  · rfl
  · rw [if_neg fun hc => hop ⟨hc.2, hc.1⟩]
    exact henabled

theorem completeSmscOperation_enabled {succeeded : Bool} {detail : String}
    (hop : ¬ (succeeded = true ∧ (operation = .enable ∨ operation = .reconnect)))
    (henabled : row.enabled = false) :
    (completeSmscOperation operation succeeded detail row).1.enabled = false := by
  unfold completeSmscOperation
  split
  · rename_i row' h
    exact completeRow_enabled hop henabled h
  · cases h : completeRow operation false checkViolation row with
    | none => exact henabled
    | some row' => exact completeRow_enabled (fun hc => Bool.false_ne_true hc.1) henabled h

theorem Inv.create (h : Inv s) {id engineId name : String} (priority : Option Nat)
    (enabled : Option Bool)
    (hfresh : ¬ s.smscs.any fun row => row.id = id || row.engineId = engineId || row.name = name) :
    Inv { s with smscs := s.smscs ++ [newSmsc id engineId name priority enabled] } := by
  have hne : ∀ row ∈ s.smscs, row.id ≠ id ∧ row.engineId ≠ engineId := by
    intro row hrow
    refine ⟨fun he => hfresh ?_, fun he => hfresh ?_⟩
    all_goals exact any_eq_true.mpr ⟨row, hrow, by simp [he]⟩
  refine ⟨fun row hrow hid => ?_, fun id' hid' => ?_, fun a ha b hb he => ?_, h.untargeted⟩
  · rcases mem_append.mp hrow with hrow | hrow
    · exact h.disabled row hrow hid
    · obtain rfl := mem_singleton.mp hrow
      -- what has been archived is there already
      obtain ⟨old, hold, he⟩ := hasSmsc_iff.mp (h.known _ hid)
      exact absurd he (hne old hold).1
  · obtain ⟨row, hrow, he⟩ := hasSmsc_iff.mp (h.known id' hid')
    exact hasSmsc_iff.mpr ⟨row, mem_append_left _ hrow, he⟩
  · rcases mem_append.mp ha with ha | ha <;> rcases mem_append.mp hb with hb | hb
    · exact h.unique a ha b hb he
    · obtain rfl := mem_singleton.mp hb
      exact absurd he (hne a ha).2
    · obtain rfl := mem_singleton.mp ha
      exact absurd he.symm (hne b hb).2
    · obtain rfl := mem_singleton.mp ha
      obtain rfl := mem_singleton.mp hb
      rfl

theorem Inv.archive (h : Inv s) (hknown : s.hasSmsc id)
    (hfree : ∀ rule ∈ s.routingRules, rule.route.enabled → ¬ targets id rule) :
    Inv { s.setSmsc id archiveSmsc with archived := id :: s.archived } := by
  have hset : Inv (s.setSmsc id archiveSmsc) :=
    h.setSmsc ⟨fun _ => rfl, fun _ => rfl⟩ fun _ _ _ _ _ => rfl
  refine ⟨fun row hrow hid => ?_, fun id' hid' => ?_, hset.unique, fun rule hrule he id' hid' => ?_⟩
  · rcases mem_cons.mp hid with he | hid
    · obtain ⟨old, -, ⟨-, rfl⟩ | ⟨hne, rfl⟩⟩ := mem_setSmsc hrow
      · rfl
      · exact absurd he hne
    · exact hset.disabled row hrow hid
  · rcases mem_cons.mp hid' with rfl | hid'
    · exact hasSmsc_setSmsc ⟨fun _ => rfl, fun _ => rfl⟩ hknown
    · exact hset.known id' hid'
  · rcases mem_cons.mp hid' with rfl | hid'
    · exact hfree rule hrule he
    · exact h.untargeted rule hrule he id' hid'

/-- **One step.** -/
theorem inv_step {a : Action} (h : Inv s) (hrespected : Respected s a)
    (hs : step s a = some s') : Inv s' := by
  cases a with
  | create id engineId name priority enabled =>
    rw [step] at hs
    split at hs
    · cases hs
    · rename_i hfresh
      cases hs
      exact h.create priority enabled hfresh
  | patch id name enabled =>
    rw [step] at hs
    split at hs
    · cases hs
    · cases hs
      refine h.setSmsc ⟨fun _ => rfl, fun _ => rfl⟩ fun row _ hid harchived hdisabled => ?_
      have henabled := hrespected (hid ▸ harchived)
      cases enabled with
      | none => exact hdisabled
      | some value =>
        cases value with
        | true => exact absurd rfl henabled
        | false => rfl
  | archive id =>
    rw [step] at hs
    split at hs
    · cases hs
    · rename_i hok
      cases hs
      exact h.archive (not_not.mp fun hn => hok (.inr hn)) hrespected
  | operate id operation idempotencyKey =>
    rw [step] at hs
    split at hs
    · cases hs
      exact h
    · split at hs
      · cases hs
        exact ⟨h.disabled, h.known, h.unique, h.untargeted⟩
      · cases hs
  | complete d succeeded detail =>
    simp only [step] at hs
    split at hs
    · rename_i id operation idempotencyKey hd
      cases hs
      have hset : Inv (s.setSmsc id fun row =>
          (completeSmscOperation operation succeeded detail row).1) :=
        h.setSmsc (keeps_completeSmscOperation operation succeeded detail)
          fun row _ hid harchived hdisabled =>
            completeSmscOperation_enabled (hrespected _ hd (hid ▸ harchived)) hdisabled
      exact ⟨hset.disabled, hset.known, hset.unique, hset.untargeted⟩
    · cases hs
  | observe id state =>
    cases hs
    exact ⟨h.disabled, h.known, h.unique, h.untargeted⟩
  | suspend id at' =>
    cases hs
    exact h.setSmsc ⟨fun _ => rfl, fun _ => rfl⟩ fun _ _ _ _ hdisabled => hdisabled
  | writeRoute row =>
    rw [step] at hs
    split at hs
    · cases hs
      refine ⟨h.disabled, h.known, h.unique, fun rule hrule henabled => ?_⟩
      rcases mem_cons.mp hrule with rfl | hrule
      · exact hrespected henabled
      · exact h.untargeted rule (mem_of_mem_filter hrule) henabled
    · cases hs

/-- Every bind that routing may send to is one of ours, and enabled. -/
theorem mem_smscRows {row : SmscRow} (h : row ∈ smscRows s.tables) :
    ∃ record ∈ s.smscs, record.id = row.id ∧ record.enabled = true := by
  obtain ⟨d, hd, rfl⟩ := mem_map.mp h
  obtain ⟨hmem, hlive⟩ := mem_filter.mp hd
  obtain ⟨record, hrecord, rfl⟩ := mem_map.mp hmem
  exact ⟨record, hrecord, rfl, ((Bool.and_eq_true ..).mp hlive).1⟩

theorem mem_build {engineId : String} (h : engineId ∈ (build s false).1) :
    ∃ record ∈ s.smscs, record.engineId = engineId ∧ record.enabled = true := by
  obtain ⟨record, hrecord, rfl⟩ := mem_map.mp h
  obtain ⟨hmem, hnone⟩ := mem_filter.mp hrecord
  refine ⟨record, (mem_insertionSort _).mp hmem, rfl, ?_⟩
  cases henabled : record.enabled with
  | true => rfl
  | false =>
    rw [exclusion, henabled] at hnone
    cases hnone

theorem Inv.outOfService (h : Inv s) (hid : id ∈ s.archived) : OutOfService s id := by
  have hdisabled : ∀ row ∈ s.smscs, row.id = id → row.enabled = false := fun row hrow he =>
    h.disabled row hrow (he ▸ hid)
  -- an enabled bind with the engine id of this one would be this one
  have hother : ∀ row ∈ s.smscs, row.id = id → ¬ ∃ record ∈ s.smscs,
      record.engineId = row.engineId ∧ record.enabled = true := by
    rintro row hrow he ⟨record, hrecord, hengine, henabled⟩
    have := hdisabled record hrecord ((h.unique record hrecord row hrow hengine).trans he)
    rw [henabled] at this
    cases this
  refine ⟨hdisabled, ?_, fun row hrow he havailable => ?_, fun row hrow he hrendered => ?_,
    fun rule hrule henabled => h.untargeted rule hrule henabled id hid⟩
  · change ((smscRows s.tables).find? fun row => row.id = id).map SmscRow.engineId = none
    rw [Option.map_eq_none_iff, find?_eq_none]
    intro row hrow he
    obtain ⟨record, hrecord, hrid, henabled⟩ := mem_smscRows hrow
    rw [hdisabled record hrecord (hrid.trans (of_decide_eq_true he))] at henabled
    cases henabled
  · obtain ⟨d, hd, hengine, henabled, -⟩ := availability_live havailable
    obtain ⟨record, hrecord, rfl⟩ := mem_map.mp hd
    exact hother row hrow he ⟨record, hrecord, hengine, henabled⟩
  · exact hother row hrow he (mem_build hrendered)

end Steps

/-- **Archived means out of service**, in every run that respects it. -/
theorem archived_out_of_service (actions : List Action) (s : State)
    (hrespected : operating.Along Respected init actions)
    (hrun : operating.run init actions = some s) : ∀ id ∈ s.archived, OutOfService s id := by
  have hinv : Inv s := operating.invariant_along (fun _ _ _ hi ha hs => inv_step hi ha hs)
    ⟨fun _ h => (by cases h), fun _ h => (by cases h), fun _ h => (by cases h),
      fun _ h => (by cases h)⟩ hrespected hrun
  exact fun id hid => hinv.outOfService hid

/-! ### A bind that stays archived, and binds that come back -/

/-- A route to a bind. -/
def routeTo (targetSmscId : String) (targets : List RouteTarget) : RouteRow where
  route := ⟨"r", "r", 1, true, .static, .priority, none, none, none, none, none, none, targetSmscId,
    none, targets, none, .route, none, none, none, none⟩
  deploymentState := .deployed

/-- A bind and another one. -/
def created : List Action :=
  [.create "a" "smsc-a" "A" none none, .create "b" "smsc-b" "B" none none]

/-- The first is operated, archived, tested and disabled. -/
def retired : List Action :=
  created ++ [.operate "a" .enable "k1", .complete 0 true "ok", .writeRoute (routeTo "b" []),
    .archive "a", .patch "a" (some "old A") none, .operate "a" .test "k2",
    .complete 1 true "connected", .operate "a" .disable "k3", .complete 2 false "no answer",
    .observe "b" "bound"]

theorem archived_out_of_service_retired :
    ∃ s, operating.run init retired = some s ∧ ∀ id ∈ s.archived, OutOfService s id :=
  ⟨_, rfl, archived_out_of_service retired _
    (operating.along_of_check Respected (by decide +kernel)) rfl⟩

/-- **An archived bind comes back**: patched to enabled it is offered, though not rendered; enabled
by an operation, also one that was under way when it was archived, it is both; a route may be created
that targets it; and one that has it among its weighted targets does not keep it from being
archived. -/
theorem archived_returns :
    (∃ s, operating.run init (created ++ [.archive "a", .patch "a" none (some true)]) = some s ∧
      "a" ∈ s.archived ∧ "smsc-a" ∈ (availability s.tables).available ∧
      "smsc-a" ∉ (build s false).1) ∧
    (∃ s, operating.run init (created ++ [.operate "a" .reconnect "k", .archive "a",
        .complete 0 true "ok"]) = some s ∧
      "a" ∈ s.archived ∧ "smsc-a" ∈ (availability s.tables).available ∧
      "smsc-a" ∈ (build s false).1) ∧
    (∃ s, operating.run init (created ++ [.archive "a", .writeRoute (routeTo "a" [])]) = some s ∧
      "a" ∈ s.archived ∧ ∃ rule ∈ s.routingRules, rule.route.enabled ∧ targets "a" rule) ∧
    ∃ s, operating.run init (created ++ [.writeRoute (routeTo "b" [⟨"a", 1, none, true⟩]),
        .archive "a"]) = some s ∧
      "a" ∈ s.archived ∧ ∃ rule ∈ s.routingRules, rule.route.enabled ∧ targets "a" rule :=
  ⟨⟨_, rfl, by decide +kernel⟩, ⟨_, rfl, by decide +kernel⟩, ⟨_, rfl, by decide +kernel⟩,
    ⟨_, rfl, by decide +kernel⟩⟩

end Jkannel.Routing.Archive
