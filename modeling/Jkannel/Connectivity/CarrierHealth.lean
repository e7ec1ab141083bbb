import Mathlib.Data.List.Basic

/-!
# The health of a carrier

A carrier is summed up over the SMSCs that belong to it: how many there are, how many are enabled,
how many of those were never observed, and how many binds are up.  Its health is read off the four
counts.

* `summaries` is the query for one carrier with its two left joins, and `carrierHealth` the verdict.
* `Honest` is the promise: a carrier is only called healthy when each enabled SMSC is bound, only
  called critical when none is, and has no more binds up than it has binds.
* `carrier_health_iff` says for which tables it is kept.  The binds that are up are counted over all
  SMSCs and the others over the enabled ones, so an SMSC that was disabled while it was bound stands
  in for one that is down.
-/

namespace Jkannel.Connectivity.Carriers

open List

/-! ## The tables -/

/-- A row of `smsc_definitions`. -/
structure SmscDefinition where
  id : Nat
  carrierId : Option Nat
  enabled : Bool
  /-- `deleted_at IS NOT NULL`. -/
  deleted : Bool
  deriving DecidableEq

/-- A row of `smsc_bind_state`. -/
structure SmscBindState where
  smscId : Nat
  state : String

/-- The rows of a tenant, of which each SMSC has at most one state. -/
structure Tables where
  smscs : List SmscDefinition
  bindStates : List SmscBindState
  unique : (bindStates.map SmscBindState.smscId).Nodup

/-- The live SMSCs of a carrier. -/
def Tables.live (db : Tables) (carrier : Nat) : List SmscDefinition :=
  db.smscs.filter fun s => decide (s.carrierId = some carrier) && !s.deleted

/-! ## The summary -/

inductive CarrierHealth where
  | healthy
  | degraded
  | critical
  | unknown
  deriving DecidableEq

/-- What the console shows of a carrier. -/
structure CarrierSummary where
  smscCount : Nat
  bindsTotal : Nat
  bindsHealthy : Nat
  bindsUnobserved : Nat
  health : CarrierHealth

def HEALTHY_BIND_STATES : List String := ["bound"]

/-- Rolls per-bind observations up into one carrier verdict. -/
def carrierHealth (smscCount bindsTotal bindsHealthy bindsUnobserved : Nat) : CarrierHealth :=
  -- a carrier with no SMSCs attached has nothing to be healthy
  if smscCount = 0 ∨ bindsTotal = 0 then .unknown
  else if bindsUnobserved = bindsTotal then .unknown
  else if bindsHealthy = 0 then .critical
  else if bindsHealthy < bindsTotal then .degraded
  -- every observed bind is up, but some were never observed
  else if bindsUnobserved > 0 then .degraded
  else .healthy

/-- The rows of a left join for one row: those that match, or one without a match. -/
def leftJoin {α β : Type} (a : α) (rows : List β) : List (α × Option β) :=
  if rows = [] then [(a, none)] else rows.map fun b => (a, some b)

/-- `carriers c LEFT JOIN smsc_definitions s … LEFT JOIN smsc_bind_state b …`. -/
def Tables.joined (db : Tables) (carrier : Nat) :
    List (Option SmscDefinition × Option SmscBindState) :=
  (leftJoin carrier (db.live carrier)).flatMap fun row =>
    leftJoin row.2
      (db.bindStates.filter fun b => decide (row.2.map SmscDefinition.id = some b.smscId))

/-- `s.id IS NOT NULL AND s.enabled`. -/
def isEnabled (row : Option SmscDefinition × Option SmscBindState) : Bool :=
  row.1.any SmscDefinition.enabled

/-- The summary of one carrier. -/
def summaries (db : Tables) (carrier : Nat) : CarrierSummary :=
  let rows := db.joined carrier
  let smscCount := rows.countP fun row => row.1.isSome
  let bindsHealthy := rows.countP fun row =>
    row.2.any fun b => decide (b.state ∈ HEALTHY_BIND_STATES)
  let bindsTotal := rows.countP isEnabled
  let bindsUnobserved := rows.countP fun row => isEnabled row && row.2.isNone
  { smscCount
    bindsTotal
    bindsHealthy
    bindsUnobserved
    health := carrierHealth smscCount bindsTotal bindsHealthy bindsUnobserved }

/-! ## What is promised -/

/-- The state an SMSC was last observed in. -/
def Tables.stateOf (db : Tables) (s : SmscDefinition) : Option String :=
  (db.bindStates.find? fun b => b.smscId = s.id).map SmscBindState.state

/-- The SMSC is observed to be bound. -/
def Tables.isBound (db : Tables) (s : SmscDefinition) : Bool := db.stateOf s = some "bound"

/-- The health says what the binds say. -/
structure Honest (db : Tables) (carrier : Nat) : Prop where
  healthy : (summaries db carrier).health = .healthy →
    (∃ s ∈ db.live carrier, s.enabled = true) ∧
      ∀ s ∈ db.live carrier, s.enabled = true → db.isBound s = true
  critical : (summaries db carrier).health = .critical →
    ∀ s ∈ db.live carrier, s.enabled = true → db.isBound s = false
  bounded : (summaries db carrier).bindsHealthy ≤ (summaries db carrier).bindsTotal

/-- The SMSCs that are disabled and still recorded as bound. -/
def Tables.leftover (db : Tables) (carrier : Nat) : Nat :=
  (db.live carrier).countP fun s => !s.enabled && db.isBound s

/-- The enabled SMSCs that are not bound. -/
def Tables.down (db : Tables) (carrier : Nat) : Nat :=
  (db.live carrier).countP fun s => s.enabled && !db.isBound s

/-- The enabled SMSCs that were never observed. -/
def Tables.unobserved (db : Tables) (carrier : Nat) : Nat :=
  (db.live carrier).countP fun s => s.enabled && (db.stateOf s).isNone

/-! ## The joins -/

variable {db : Tables} {carrier : Nat} {smscCount bindsTotal bindsHealthy bindsUnobserved : Nat}

/-- The state row of an SMSC. -/
def Tables.bindState (db : Tables) (s : SmscDefinition) : Option SmscBindState :=
  db.bindStates.find? fun b => b.smscId = s.id

theorem filter_smscId {rows : List SmscBindState} (h : (rows.map SmscBindState.smscId).Nodup)
    (id : Nat) :
    (rows.filter fun b => decide (b.smscId = id)) = (rows.find? fun b => b.smscId = id).toList := by
  induction rows with
  | nil => rfl
  | cons b rows ih =>
    rw [map_cons, nodup_cons] at h
    by_cases hb : b.smscId = id
    · have hrest : (rows.filter fun b => decide (b.smscId = id)) = [] := by
        rw [filter_eq_nil_iff]
        intro c hc heq
        exact h.1 (hb ▸ of_decide_eq_true heq ▸ mem_map_of_mem hc)
      rw [filter_cons_of_pos (by simpa using hb), hrest,
        find?_cons_of_pos (by simpa using hb), Option.toList_some]
    · rw [filter_cons_of_neg (by simpa using hb), ih h.2, find?_cons_of_neg (by simpa using hb)]

/-- A join with at most one row gives one row. -/
theorem leftJoin_toList {α β : Type} (a : α) (b : Option β) : leftJoin a b.toList = [(a, b)] := by
  cases b <;> rfl

/-- **The joined rows** are the live SMSCs, each with its state. -/
theorem countP_joined (db : Tables) (carrier : Nat)
    {q : Option SmscDefinition × Option SmscBindState → Bool} (hq : q (none, none) = false) :
    (db.joined carrier).countP q =
      (db.live carrier).countP fun s => q (some s, db.bindState s) := by
  have hsome : ∀ s : SmscDefinition,
      leftJoin (some s) (db.bindStates.filter fun b =>
        decide ((some s).map SmscDefinition.id = some b.smscId)) = [(some s, db.bindState s)] := by
    intro s
    have hfilter : (db.bindStates.filter fun b =>
        decide ((some s).map SmscDefinition.id = some b.smscId)) =
          db.bindStates.filter fun b => decide (b.smscId = s.id) := by
      refine filter_congr fun b _ => decide_eq_decide.mpr ?_
      rw [Option.map_some, Option.some_inj]
      exact eq_comm
    rw [hfilter, filter_smscId db.unique]
    exact leftJoin_toList _ _
  rw [Tables.joined, leftJoin]
  by_cases hlive : db.live carrier = []
  · have hnone : (db.bindStates.filter fun b =>
        decide ((none : Option SmscDefinition).map SmscDefinition.id = some b.smscId)) = [] :=
      filter_eq_nil_iff.mpr fun b _ h => by cases of_decide_eq_true h
    rw [if_pos hlive, flatMap_singleton, hnone, hlive]
    simp [leftJoin, hq]
  · rw [if_neg hlive, flatMap_map]
    simp only [hsome]
    rw [← map_eq_flatMap, countP_map]
    rfl

/-! ## The counts -/

/-- The enabled SMSCs that are bound. -/
def Tables.up (db : Tables) (carrier : Nat) : Nat :=
  (db.live carrier).countP fun s => s.enabled && db.isBound s

theorem countP_split {α : Type} (p q : α → Bool) (l : List α) :
    l.countP p = (l.countP fun a => p a && q a) + l.countP fun a => p a && !q a := by
  induction l with
  | nil => rfl
  | cons a l ih =>
    rw [countP_cons, countP_cons, countP_cons, ih]
    cases p a <;> cases q a <;> simp <;> omega

theorem smscCount_eq : (summaries db carrier).smscCount = (db.live carrier).length :=
  calc (summaries db carrier).smscCount
      = (db.joined carrier).countP fun row => row.1.isSome := rfl
    _ = (db.live carrier).countP fun _ => true := countP_joined db carrier rfl
    _ = (db.live carrier).length := by rw [countP_true]

theorem bindsTotal_eq_countP :
    (summaries db carrier).bindsTotal = (db.live carrier).countP SmscDefinition.enabled :=
  calc (summaries db carrier).bindsTotal
      = (db.joined carrier).countP isEnabled := rfl
    _ = (db.live carrier).countP SmscDefinition.enabled := countP_joined db carrier rfl

theorem bindsTotal_eq : (summaries db carrier).bindsTotal = db.up carrier + db.down carrier := by
  rw [bindsTotal_eq_countP, countP_split SmscDefinition.enabled db.isBound]
  rfl

theorem isBound_eq (s : SmscDefinition) :
    db.isBound s = (db.bindState s).any fun b => decide (b.state ∈ HEALTHY_BIND_STATES) := by
  rw [Tables.isBound, Tables.stateOf, ← Tables.bindState]
  cases db.bindState s with
  | none => rfl
  | some b => simp [HEALTHY_BIND_STATES]

theorem bindsHealthy_eq :
    (summaries db carrier).bindsHealthy = db.up carrier + db.leftover carrier :=
  calc (summaries db carrier).bindsHealthy
      = (db.joined carrier).countP fun row =>
          row.2.any fun b => decide (b.state ∈ HEALTHY_BIND_STATES) := rfl
    _ = (db.live carrier).countP fun s =>
          (db.bindState s).any fun b => decide (b.state ∈ HEALTHY_BIND_STATES) :=
        countP_joined db carrier rfl
    _ = (db.live carrier).countP db.isBound := by simp only [← isBound_eq]
    _ = db.up carrier + db.leftover carrier := by
        rw [countP_split db.isBound SmscDefinition.enabled, Tables.up, Tables.leftover]
        simp only [Bool.and_comm]

theorem bindsUnobserved_eq : (summaries db carrier).bindsUnobserved = db.unobserved carrier :=
  calc (summaries db carrier).bindsUnobserved
      = (db.joined carrier).countP fun row => isEnabled row && row.2.isNone := rfl
    _ = (db.live carrier).countP fun s => s.enabled && (db.bindState s).isNone :=
        countP_joined db carrier rfl
    _ = db.unobserved carrier :=
        countP_congr fun s _ => by
          rw [Tables.stateOf, ← Tables.bindState, Option.isNone_map]

theorem health_eq : (summaries db carrier).health =
    carrierHealth (db.live carrier).length (db.up carrier + db.down carrier)
      (db.up carrier + db.leftover carrier) (db.unobserved carrier) := by
  rw [← smscCount_eq, ← bindsTotal_eq, ← bindsHealthy_eq, ← bindsUnobserved_eq]
  rfl

theorem down_eq_zero_iff :
    db.down carrier = 0 ↔ ∀ s ∈ db.live carrier, s.enabled = true → db.isBound s = true := by
  rw [Tables.down, countP_eq_zero]
  simp

theorem up_eq_zero_iff :
    db.up carrier = 0 ↔ ∀ s ∈ db.live carrier, s.enabled = true → db.isBound s = false := by
  rw [Tables.up, countP_eq_zero]
  simp

theorem exists_enabled (h : db.up carrier + db.down carrier ≠ 0) :
    ∃ s ∈ db.live carrier, s.enabled = true := by
  rw [← bindsTotal_eq, bindsTotal_eq_countP] at h
  exact countP_pos_iff.mp (Nat.pos_of_ne_zero h)

theorem up_add_down_le : db.up carrier + db.down carrier ≤ (db.live carrier).length := by
  rw [← bindsTotal_eq, bindsTotal_eq_countP]
  exact countP_le_length

/-! ## The verdict -/

theorem carrierHealth_eq_healthy_iff :
    carrierHealth smscCount bindsTotal bindsHealthy bindsUnobserved = .healthy ↔
      smscCount ≠ 0 ∧ bindsTotal ≠ 0 ∧ bindsTotal ≤ bindsHealthy ∧ bindsUnobserved = 0 := by
  rw [carrierHealth]
  split
  · next h =>
    refine ⟨fun heq => (by cases heq), fun hand => ?_⟩
    exact absurd h (not_or.mpr ⟨hand.1, hand.2.1⟩)
  split
  · refine ⟨fun heq => (by cases heq), fun hand => ?_⟩
    omega
  split
  · refine ⟨fun heq => (by cases heq), fun hand => ?_⟩
    omega
  split
  · refine ⟨fun heq => (by cases heq), fun hand => ?_⟩
    omega
  split
  · refine ⟨fun heq => (by cases heq), fun hand => ?_⟩
    omega
  · refine ⟨fun _ => ?_, fun _ => rfl⟩
    omega

theorem carrierHealth_critical
    (h : carrierHealth smscCount bindsTotal bindsHealthy bindsUnobserved = .critical) :
    bindsHealthy = 0 := by
  rw [carrierHealth] at h
  split at h
  · cases h
  split at h
  · cases h
  split at h
  · assumption
  split at h
  · cases h
  split at h <;> cases h

/-- **The health of a carrier is honest** exactly when it has no disabled SMSC that is recorded as
bound, or fewer of them than enabled SMSCs that are not bound, or as many and one of those was never
observed. -/
theorem carrier_health_iff (db : Tables) (carrier : Nat) :
    Honest db carrier ↔ db.leftover carrier = 0 ∨ db.leftover carrier < db.down carrier ∨
      (db.leftover carrier = db.down carrier ∧ 0 < db.unobserved carrier) := by
  constructor
  · intro h
    have hle := h.bounded
    rw [bindsHealthy_eq, bindsTotal_eq] at hle
    by_contra hnot
    -- as many are left over as are down, and all of these were observed: the verdict is healthy
    have hlive : db.up carrier + db.down carrier ≤ (db.live carrier).length := up_add_down_le
    have hhealthy : (summaries db carrier).health = .healthy := by
      rw [health_eq, carrierHealth_eq_healthy_iff]
      omega
    have := down_eq_zero_iff.mpr (h.healthy hhealthy).2
    omega
  · intro h
    refine ⟨fun hhealthy => ?_, fun hcritical => ?_, ?_⟩
    · rw [health_eq, carrierHealth_eq_healthy_iff] at hhealthy
      obtain ⟨-, htotal, hle, hobserved⟩ := hhealthy
      exact ⟨exists_enabled htotal, down_eq_zero_iff.mp (by omega)⟩
    · rw [health_eq] at hcritical
      have := carrierHealth_critical hcritical
      exact up_eq_zero_iff.mp (by omega)
    · rw [bindsHealthy_eq, bindsTotal_eq]
      omega

/-! ## An SMSC that was disabled while it was bound -/

/-- One SMSC is enabled and down; another was disabled, and its state was not recorded since. -/
def disabledBound : Tables where
  smscs := [⟨1, some 7, true, false⟩, ⟨2, some 7, false, false⟩]
  bindStates := [⟨1, "disconnected"⟩, ⟨2, "bound"⟩]
  unique := by decide

/-- The carrier is called healthy, and no message can leave it. -/
theorem down_carrier_healthy : ¬ Honest disabledBound 7 := by
  intro h
  have hall := (h.healthy (by decide)).2 ⟨1, some 7, true, false⟩ (by decide) rfl
  exact absurd hall (by decide)

end Jkannel.Connectivity.Carriers
