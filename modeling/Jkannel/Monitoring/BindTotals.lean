import Jkannel.Lib.Grouping
import Jkannel.Text
import Mathlib.Algebra.Order.Field.Rat
import Mathlib.Data.List.Dedup

/-!
# How many binds there are, and how many are bound

The engine reports one status for each of its connections, and several connections can belong to one
SMSC.  A poll collapses the reports to one for each SMSC, and stores how many there are and how many
are bound.

* `toBindState` normalises a status; only `bound` is healthy.
* `collapseBindsByEngineId` is the collapse: an SMSC is bound as soon as one of its connections is
  (`collapse_spec`).
* `runForTenant` are the two figures.  The one counts SMSCs and the other connections, so they agree
  only as `bind_totals_iff` says.
-/

namespace Jkannel.Monitoring.BindTotals

open List

/-! ## The vocabulary -/

inductive BindState where
  | connecting
  | binding
  | bound
  | unbinding
  | disconnected
  | retrying
  | failed
  | unknown
  deriving DecidableEq

/-- The tokens the engine is known to use. -/
def ENGINE_TOKEN_TO_BIND_STATE : List (String × BindState) :=
  [("online", .bound),
   ("running", .bound),
   ("bound", .bound),
   ("active", .bound),
   ("connecting", .connecting),
   ("connected", .connecting),
   ("binding", .binding),
   ("unbinding", .unbinding),
   ("shutdown", .unbinding),
   ("stopping", .unbinding),
   ("dead", .disconnected),
   ("disconnected", .disconnected),
   ("stopped", .disconnected),
   ("disabled", .disconnected),
   ("down", .disconnected),
   ("re-connecting", .retrying),
   ("reconnecting", .retrying),
   ("retrying", .retrying),
   ("wait", .retrying),
   ("waiting", .retrying),
   ("failed", .failed),
   ("failure", .failed),
   ("error", .failed),
   ("killed", .failed)]

/-- Maps an engine-reported status token onto the vocabulary; what is not known is `unknown`. -/
def toBindState (text : TextEngine) (engineStatus : String) : BindState :=
  let token := (text.toLowerCase (Text.trim engineStatus)).toList.takeWhile fun c => !Text.isSpace c
  (ENGINE_TOKEN_TO_BIND_STATE.lookup (String.ofList token)).getD .unknown

/-- Only `bound` counts as healthy; everything else is a reason to look. -/
def isHealthy (state : BindState) : Bool := state = .bound

/-! ## Collapsing reports -/

/-- What the engine reports of a connection. -/
structure EngineBindSnapshot where
  engineId : String
  name : String
  status : String
  queued : ℚ
  failed : ℚ
  sent : ℚ
  received : ℚ
  outboundRate : List ℚ
  inboundRate : List ℚ
  deriving DecidableEq

/-- The connection is bound. -/
def EngineBindSnapshot.healthy (text : TextEngine) (bind : EngineBindSnapshot) : Bool :=
  isHealthy (toBindState text bind.status)

/-- A report with that of another connection of the same SMSC. -/
def merge (text : TextEngine) (current bind : EngineBindSnapshot) : EngineBindSnapshot :=
  { current with
    -- promote to a healthy token as soon as any connection reports one
    status := if current.healthy text || !bind.healthy text then current.status else bind.status
    queued := current.queued + bind.queued
    failed := current.failed + bind.failed
    sent := current.sent + bind.sent
    received := current.received + bind.received }

/-- Collapses the engine's per-connection bind reports into one entry per SMSC. -/
def collapseBindsByEngineId (text : TextEngine) (binds : List EngineBindSnapshot) :
    List EngineBindSnapshot :=
  (Grouping.group EngineBindSnapshot.engineId id (merge text) binds).map Prod.snd

/-! ## The poll -/

/-- A row of `smsc_definitions`. -/
structure SmscDefinition where
  engineId : String
  enabled : Bool

inductive SourceStatus where
  | ok
  | degraded
  | unavailable
  deriving DecidableEq

/-- The engine's answer. -/
structure EngineQueueSnapshot where
  source : SourceStatus
  binds : List EngineBindSnapshot

/-- The reports of SMSCs that the tenant owns and has enabled. -/
def observed (definitions : List SmscDefinition) (snapshot : EngineQueueSnapshot) :
    List EngineBindSnapshot :=
  let owned := (definitions.filter SmscDefinition.enabled).map SmscDefinition.engineId
  snapshot.binds.filter fun bind => decide (bind.engineId ∈ owned)

/-- A total that is stored, and how many of it are said to be bound. -/
structure Figures where
  total : Nat
  bound : Nat
  deriving DecidableEq

/-- The figures a poll stores: `binds_total` and `binds_online` of its row, and the samples
`engine.binds.total` and `engine.binds.bound`, which an engine that was not reached has none of. -/
def runForTenant (text : TextEngine) (definitions : List SmscDefinition)
    (snapshot : EngineQueueSnapshot) : List Figures :=
  let observed := observed definitions snapshot
  -- count every physical connection, before collapsing them per SMSC
  let boundCount := (observed.filter (EngineBindSnapshot.healthy text)).length
  let binds := collapseBindsByEngineId text observed
  ⟨binds.length, boundCount⟩ ::
    if snapshot.source = .unavailable then [] else [⟨binds.length, boundCount⟩]

/-! ## What is promised -/

/-- There is one entry for each engine id, bound if a connection of it is, with the sums of its
connections. -/
def Collapsed (text : TextEngine) (binds : List EngineBindSnapshot)
    (entries : List EngineBindSnapshot) : Prop :=
  (entries.map EngineBindSnapshot.engineId).Nodup ∧
  (∀ engineId, engineId ∈ entries.map EngineBindSnapshot.engineId ↔
    ∃ bind ∈ binds, bind.engineId = engineId) ∧
  ∀ entry ∈ entries,
    let own := binds.filter fun bind => bind.engineId = entry.engineId
    (entry.healthy text = true ↔ ∃ bind ∈ own, bind.healthy text = true) ∧
    entry.queued = (own.map EngineBindSnapshot.queued).sum ∧
    entry.failed = (own.map EngineBindSnapshot.failed).sum ∧
    entry.sent = (own.map EngineBindSnapshot.sent).sum ∧
    entry.received = (own.map EngineBindSnapshot.received).sum

/-- Every SMSC that is reported has a connection that is bound. -/
def AllBound (text : TextEngine) (binds : List EngineBindSnapshot) : Prop :=
  ∀ bind ∈ binds, ∃ other ∈ binds, other.engineId = bind.engineId ∧ other.healthy text = true

/-- The collapse is right, and no more are bound than there are, and as many only if all are. -/
def ConsistentTotals (text : TextEngine) (definitions : List SmscDefinition)
    (snapshot : EngineQueueSnapshot) : Prop :=
  (∀ binds, Collapsed text binds (collapseBindsByEngineId text binds)) ∧
  ∀ figures ∈ runForTenant text definitions snapshot,
    figures.bound ≤ figures.total ∧
      (figures.bound = figures.total ↔ AllBound text (observed definitions snapshot))

/-- How many connections of an SMSC are bound. -/
def boundOf (text : TextEngine) (binds : List EngineBindSnapshot) (engineId : String) : Nat :=
  binds.countP fun bind => bind.engineId = engineId ∧ bind.healthy text = true

/-! ## The collapse -/

variable {text : TextEngine} {binds : List EngineBindSnapshot}

theorem healthy_merge (current bind : EngineBindSnapshot) :
    (merge text current bind).healthy text = (current.healthy text || bind.healthy text) := by
  cases hc : current.healthy text with
  | true =>
    have hstatus : (merge text current bind).status = current.status := by simp [merge, hc]
    rw [EngineBindSnapshot.healthy, hstatus]
    exact hc
  | false =>
    cases hb : bind.healthy text with
    | true =>
      have hstatus : (merge text current bind).status = bind.status := by simp [merge, hc, hb]
      rw [EngineBindSnapshot.healthy, hstatus]
      exact hb
    | false =>
      have hstatus : (merge text current bind).status = current.status := by simp [merge, hb]
      rw [EngineBindSnapshot.healthy, hstatus]
      exact hc

/-- What connections come to, one after another. -/
theorem foldl_merge (text : TextEngine) (bind : EngineBindSnapshot) (rest : List EngineBindSnapshot) :
    let entry := rest.foldl (merge text) bind
    entry.engineId = bind.engineId ∧
    entry.healthy text = (bind :: rest).any (EngineBindSnapshot.healthy text) ∧
    entry.queued = ((bind :: rest).map EngineBindSnapshot.queued).sum ∧
    entry.failed = ((bind :: rest).map EngineBindSnapshot.failed).sum ∧
    entry.sent = ((bind :: rest).map EngineBindSnapshot.sent).sum ∧
    entry.received = ((bind :: rest).map EngineBindSnapshot.received).sum := by
  induction rest generalizing bind with
  | nil => simp
  | cons next rest ih =>
    obtain ⟨hid, hhealthy, hqueued, hfailed, hsent, hreceived⟩ := ih (merge text bind next)
    refine ⟨hid, ?_, ?_, ?_, ?_, ?_⟩
    · rw [foldl_cons, hhealthy, any_cons, any_cons, any_cons, healthy_merge, Bool.or_assoc]
    · rw [foldl_cons, hqueued]
      simp only [map_cons, sum_cons, merge, add_assoc]
    · rw [foldl_cons, hfailed]
      simp only [map_cons, sum_cons, merge, add_assoc]
    · rw [foldl_cons, hsent]
      simp only [map_cons, sum_cons, merge, add_assoc]
    · rw [foldl_cons, hreceived]
      simp only [map_cons, sum_cons, merge, add_assoc]

variable {engineId : String} {entry : EngineBindSnapshot}

section

variable (h : (engineId, entry) ∈ Grouping.group EngineBindSnapshot.engineId id (merge text) binds)
include h

/-- An entry is what the connections with its engine id come to. -/
theorem mem_group :
    ∃ bind rest, binds.filter (fun bind => bind.engineId = engineId) = bind :: rest ∧
      entry = rest.foldl (merge text) bind := by
  have hgathered := Grouping.mem_group_iff.mp h
  rw [Grouping.ofKey] at hgathered
  cases hown : binds.filter fun bind => decide (bind.engineId = engineId) with
  | nil =>
    rw [hown] at hgathered
    cases hgathered
  | cons bind rest =>
    rw [hown] at hgathered
    exact ⟨bind, rest, rfl, (Option.some.inj hgathered).symm⟩

theorem mem_group_engineId : entry.engineId = engineId := by
  obtain ⟨bind, rest, hown, rfl⟩ := mem_group h
  have hbind : bind ∈ binds.filter fun bind => decide (bind.engineId = engineId) :=
    hown ▸ mem_cons_self ..
  rw [(foldl_merge text bind rest).1]
  exact of_decide_eq_true (mem_filter.mp hbind).2

end

theorem map_engineId_collapse :
    (collapseBindsByEngineId text binds).map EngineBindSnapshot.engineId =
      (Grouping.group EngineBindSnapshot.engineId id (merge text) binds).map Prod.fst := by
  rw [collapseBindsByEngineId, map_map]
  exact map_congr_left fun entry hentry => mem_group_engineId hentry

/-- **The collapse is right.** -/
theorem collapse_spec (text : TextEngine) (binds : List EngineBindSnapshot) :
    Collapsed text binds (collapseBindsByEngineId text binds) := by
  refine ⟨?_, fun engineId => ?_, fun entry hentry => ?_⟩
  · rw [map_engineId_collapse]
    exact Grouping.nodup_keys binds
  · rw [map_engineId_collapse]
    exact Grouping.mem_keys
  · obtain ⟨⟨engineId, entry⟩, hmem, rfl⟩ := mem_map.mp hentry
    obtain ⟨bind, rest, hown, hfold⟩ := mem_group hmem
    obtain ⟨-, hhealthy, hqueued, hfailed, hsent, hreceived⟩ := foldl_merge text bind rest
    rw [← hfold] at hhealthy hqueued hfailed hsent hreceived
    rw [mem_group_engineId hmem, hown]
    refine ⟨?_, hqueued, hfailed, hsent, hreceived⟩
    rw [hhealthy, any_eq_true]

/-! ## The figures -/

/-- How many connections of each SMSC are bound. -/
def boundCounts (text : TextEngine) (binds : List EngineBindSnapshot) : List Nat :=
  ((collapseBindsByEngineId text binds).map EngineBindSnapshot.engineId).map (boundOf text binds)

theorem length_boundCounts :
    (boundCounts text binds).length = (collapseBindsByEngineId text binds).length := by
  rw [boundCounts, length_map, length_map]

theorem sum_boundCounts :
    (boundCounts text binds).sum = (binds.filter (EngineBindSnapshot.healthy text)).length := by
  have hkeys : ∀ bind ∈ binds, bind.engineId ∈
      (collapseBindsByEngineId text binds).map EngineBindSnapshot.engineId := fun bind hbind =>
    ((collapse_spec text binds).2.1 bind.engineId).mpr ⟨bind, hbind, rfl⟩
  have hsum := Grouping.countP_eq_sum (EngineBindSnapshot.healthy text)
    (collapse_spec text binds).1 hkeys
  rw [← countP_eq_length_filter, hsum, boundCounts]
  refine congrArg List.sum (map_congr_left fun engineId _ => ?_)
  rw [Grouping.ofKey, countP_filter, boundOf]
  refine countP_congr fun bind _ => ?_
  simp [and_comm]

theorem one_le_boundOf :
    1 ≤ boundOf text binds engineId ↔
      ∃ bind ∈ binds, bind.engineId = engineId ∧ bind.healthy text = true := by
  rw [boundOf, Nat.succ_le_iff, countP_pos_iff]
  simp only [decide_eq_true_eq]

theorem allBound_iff : AllBound text binds ↔ ∀ c ∈ boundCounts text binds, 1 ≤ c := by
  rw [boundCounts, forall_mem_map, AllBound]
  simp only [one_le_boundOf]
  constructor
  · intro h engineId hengineId
    obtain ⟨bind, hbind, rfl⟩ := ((collapse_spec text binds).2.1 engineId).mp hengineId
    exact h bind hbind
  · intro h bind hbind
    exact h bind.engineId (((collapse_spec text binds).2.1 bind.engineId).mpr ⟨bind, hbind, rfl⟩)

theorem boundOf_le_one_iff :
    (∀ engineId, boundOf text binds engineId ≤ 1) ↔ ∀ c ∈ boundCounts text binds, c ≤ 1 := by
  rw [boundCounts, forall_mem_map]
  refine ⟨fun h engineId _ => h engineId, fun h engineId => ?_⟩
  by_cases hone : 1 ≤ boundOf text binds engineId
  · obtain ⟨bind, hbind, hid, -⟩ := one_le_boundOf.mp hone
    exact h engineId (((collapse_spec text binds).2.1 engineId).mpr ⟨bind, hbind, hid⟩)
  · omega

theorem length_collapse (text : TextEngine) :
    (collapseBindsByEngineId text binds).length =
      (binds.map EngineBindSnapshot.engineId).dedup.length := by
  rw [← length_map EngineBindSnapshot.engineId]
  refine ((perm_ext_iff_of_nodup (collapse_spec text binds).1 (nodup_dedup _)).mpr
    fun engineId => ?_).length_eq
  rw [(collapse_spec text binds).2.1, mem_dedup, mem_map]

/-- **The totals are consistent** exactly when no SMSC has two connections that are bound, or fewer
connections are bound than there are SMSCs. -/
theorem bind_totals_iff (text : TextEngine) (definitions : List SmscDefinition)
    (snapshot : EngineQueueSnapshot) :
    ConsistentTotals text definitions snapshot ↔
      let binds := observed definitions snapshot
      (∀ engineId, boundOf text binds engineId ≤ 1) ∨
        binds.countP (EngineBindSnapshot.healthy text) <
          (binds.map EngineBindSnapshot.engineId).dedup.length := by
  dsimp only
  rw [boundOf_le_one_iff, ← length_collapse text, ← length_boundCounts,
    countP_eq_length_filter, ← sum_boundCounts, ← Grouping.sum_balanced_iff, ← allBound_iff,
    sum_boundCounts, length_boundCounts]
  constructor
  · intro h
    exact h.2 _ (mem_cons_self ..)
  · intro h
    refine ⟨collapse_spec text, fun figures hfigures => ?_⟩
    have hfigures : figures = ⟨(collapseBindsByEngineId text (observed definitions snapshot)).length,
        ((observed definitions snapshot).filter (EngineBindSnapshot.healthy text)).length⟩ := by
      rw [runForTenant] at hfigures
      rcases mem_cons.mp hfigures with rfl | hfigures
      · rfl
      · split at hfigures
        · cases hfigures
        · exact mem_singleton.mp hfigures
    rw [hfigures]
    exact h

/-! ## Two connections of one SMSC -/

def connection (engineId status : String) : EngineBindSnapshot where
  engineId := engineId
  name := engineId
  status := status
  queued := 0
  failed := 0
  sent := 0
  received := 0
  outboundRate := []
  inboundRate := []

/-- Both connections of the one SMSC are up, and the other SMSC is down. -/
def twoAndNone : EngineQueueSnapshot where
  source := .ok
  binds := [connection "mtn" "online", connection "mtn" "online", connection "airtel" "dead"]

/-- Two of two are said to be bound. -/
theorem dead_bind_counted :
    ¬ ConsistentTotals .ascii [⟨"mtn", true⟩, ⟨"airtel", true⟩] twoAndNone := by
  intro h
  have hrun : ⟨2, 2⟩ ∈ runForTenant .ascii [⟨"mtn", true⟩, ⟨"airtel", true⟩] twoAndNone ∧
      connection "airtel" "dead" ∈ observed [⟨"mtn", true⟩, ⟨"airtel", true⟩] twoAndNone ∧
      ¬ 1 ≤ boundOf .ascii (observed [⟨"mtn", true⟩, ⟨"airtel", true⟩] twoAndNone) "airtel" := by
    decide +kernel
  exact hrun.2.2 (one_le_boundOf.mpr ((h.2 _ hrun.1).2.mp rfl _ hrun.2.1))

end Jkannel.Monitoring.BindTotals
