import Jkannel.Messaging.MoRouting
import Jkannel.Messaging.MoSweep
import Jkannel.Platform.Jobs

/-!
# Ingest and fan-out

The pipeline both ways into the platform share: the deduplicating INSERT, the match against the
rule set, and for every destination of every matching rule a row of `mo_deliveries` with a job of
its own, all in one transaction.

* `matchAndFanOut` is the second half, which a re-dispatch runs as well.
* `Store.ingestInClient` is all of it.
* `OneSet` is what a message is owed: the deliveries its rules ask for, each with one job.
  `Store.Sound.ingestInClient` keeps it, for the messages that are there and for the one that
  comes in.
-/

namespace Jkannel.Messaging.Mo

open List
open Platform (JobRow)

def MO_DELIVERY_JOB_TYPE : String := "mo.delivery.dispatch"

/-- The most attempts a destination may ask for. -/
def MO_DELIVERY_MAX_ATTEMPTS : Nat := 20

inductive MoMessageStatus where
  | noMatch | matched

/-- A row of `mo_messages`. -/
structure MoMessage where
  id : Nat
  inbound : PreparedInbound
  matchedRuleIds : List String
  fanoutCount : Nat
  status : MoMessageStatus

inductive MoDeliveryStatus where
  | pending | running | delivered | failed | deadLetter | cancelled
  deriving DecidableEq

def MoDeliveryStatus.text : MoDeliveryStatus → String
  | .pending => "pending"
  | .running => "running"
  | .delivered => "delivered"
  | .failed => "failed"
  | .deadLetter => "dead_letter"
  | .cancelled => "cancelled"

/-- A row of `mo_deliveries`. -/
structure MoDelivery where
  id : Nat
  moMessageId : Nat
  ruleId : String
  ruleName : String
  destinationId : String
  kind : MoDeliveryKind
  target : String
  config : String
  status : MoDeliveryStatus := .pending
  attempts : Nat := 0
  maxAttempts : Nat
  manualRetries : Nat := 0
  jobId : Nat
  lastError : Option String := none
  responseCode : Option Nat := none
  responseDetail : Option String := none
  deriving DecidableEq

/-- A row of `api_jobs` of the delivery type, with the delivery its input names. -/
structure DeliveryJob where
  row : JobRow
  deliveryId : Nat

/-- The tables a transaction of the pipeline writes.  Rows are numbered in the order they come in
and never deleted. -/
structure Store where
  messages : List MoMessage
  deliveries : List MoDelivery
  jobs : List DeliveryJob

/-- Nothing has come in yet. -/
def Store.empty : Store := ⟨[], [], []⟩

theorem insert_isSome (id : Nat) (now : Int) :
    (Platform.insert id MO_DELIVERY_JOB_TYPE MO_DELIVERY_MAX_ATTEMPTS none now).isSome = true := rfl

/-- `createOn` for a delivery. -/
def createJob (id deliveryId : Nat) (now : Int) : DeliveryJob where
  row := (Platform.insert id MO_DELIVERY_JOB_TYPE MO_DELIVERY_MAX_ATTEMPTS none now).get
    (insert_isSome id now)
  deliveryId := deliveryId

@[simp] theorem createJob_id (id deliveryId : Nat) (now : Int) :
    (createJob id deliveryId now).row.id = id := rfl

/-- What the rules see of a message. -/
def PreparedInbound.context (m : PreparedInbound) : MoMessageContext :=
  ⟨m.smscId, m.sender, m.receiver, m.body⟩

/-! ## Fan-out -/

section FanOut

variable (text : TextEngine) (countryCode : Option String)

/-- Where the tables send a message. -/
def targetsOf (tables : RuleTables) (context : MoMessageContext) :
    List (CompiledMoRule × Destination) :=
  let rules := loadInClient text countryCode tables
  fanOutTargets rules (matchMoRules text countryCode rules context).matched

/-- The delivery to one target, with the numbers it and its job are given. -/
def newDelivery (moMessageId delivery job : Nat) (target : CompiledMoRule × Destination) :
    MoDelivery where
  id := delivery
  moMessageId := moMessageId
  ruleId := target.1.id
  ruleName := target.1.name
  destinationId := target.2.id
  kind := target.2.kind
  target := target.2.target
  config := target.2.config
  maxAttempts := target.2.maxAttempts
  jobId := job

/-- The loop over the targets: one delivery and one job each. -/
def writeDeliveries (now : Int) (moMessageId : Nat) (s : Store)
    (targets : List (CompiledMoRule × Destination)) : Store :=
  targets.foldl (fun s target => { s with
    deliveries := s.deliveries ++
      [newDelivery moMessageId s.deliveries.length s.jobs.length target]
    jobs := s.jobs ++ [createJob s.jobs.length s.deliveries.length now] }) s

/-- `UPDATE mo_messages SET matched_rule_ids=…, fanout_count=…, status=…`. -/
def setMatched (matched : List MoMatch) (count : Nat) (m : MoMessage) : MoMessage := { m with
  matchedRuleIds := matched.map MoMatch.ruleId
  fanoutCount := count
  status := if matched.isEmpty then .noMatch else .matched }

/-- Match a message and write its deliveries. -/
def matchAndFanOut (tables : RuleTables) (now : Int) (s : Store) (moMessageId : Nat)
    (context : MoMessageContext) : Store :=
  let matched := (matchMoRules text countryCode (loadInClient text countryCode tables)
    context).matched
  let targets := targetsOf text countryCode tables context
  let written := writeDeliveries now moMessageId s targets
  { written with
    messages := written.messages.map fun m =>
      if m.id = moMessageId then setMatched matched targets.length m else m }

/-- What ingest answers. -/
structure IngestOutcome where
  moMessageId : Option Nat
  duplicate : Bool
  status : MoMessageStatus
  deliveries : List MoDelivery

/-- Dedupe, match and fan out. -/
def Store.ingestInClient (tables : RuleTables) (now : Int) (s : Store)
    (prepared : PreparedInbound) : Store × IngestOutcome :=
  if prepared.dedupeKey.isSome &&
      s.messages.any fun m => decide (m.inbound.dedupeKey = prepared.dedupeKey) then
    let existing := s.messages.find? fun m => decide (m.inbound.dedupeKey = prepared.dedupeKey)
    (s, {
      moMessageId := existing.map MoMessage.id
      duplicate := true
      status := (existing.map MoMessage.status).getD .noMatch
      deliveries := [] })
  else
    let id := s.messages.length
    let inserted := { s with messages := s.messages ++ [⟨id, prepared, [], 0, .noMatch⟩] }
    let s' := matchAndFanOut text countryCode tables now inserted id prepared.context
    (s', {
      moMessageId := some id
      duplicate := false
      status := ((s'.messages.find? fun m => decide (m.id = id)).map MoMessage.status).getD .noMatch
      deliveries := s'.deliveries.drop s.deliveries.length })

/-! ## What a transaction writes -/

/-- The rule and the destination a delivery is for. -/
def MoDelivery.slot (d : MoDelivery) : String × String := (d.ruleId, d.destinationId)

/-- The deliveries of a message. -/
def Store.deliveriesOf (s : Store) (moMessageId : Nat) : List MoDelivery :=
  s.deliveries.filter fun d => decide (d.moMessageId = moMessageId)

/-- The jobs of a delivery. -/
def Store.jobsOf (s : Store) (deliveryId : Nat) : List DeliveryJob :=
  s.jobs.filter fun j => decide (j.deliveryId = deliveryId)

/-- The deliveries a loop over targets writes. -/
def created (moMessageId : Nat) (s : Store) (targets : List (CompiledMoRule × Destination)) :
    List MoDelivery :=
  targets.mapIdx fun i target =>
    newDelivery moMessageId (s.deliveries.length + i) (s.jobs.length + i) target

/-- Their jobs. -/
def createdJobs (now : Int) (s : Store) (targets : List (CompiledMoRule × Destination)) :
    List DeliveryJob :=
  targets.mapIdx fun i _ => createJob (s.jobs.length + i) (s.deliveries.length + i) now

/-- **All the loop does**: it appends. -/
theorem writeDeliveries_eq (now : Int) (moMessageId : Nat) (s : Store)
    (targets : List (CompiledMoRule × Destination)) :
    writeDeliveries now moMessageId s targets = { s with
      deliveries := s.deliveries ++ created moMessageId s targets
      jobs := s.jobs ++ createdJobs now s targets } := by
  induction targets generalizing s with
  | nil => simp [writeDeliveries, created, createdJobs]
  | cons target targets ih =>
    rw [writeDeliveries, foldl_cons, ← writeDeliveries, ih]
    simp only [created, createdJobs, mapIdx_cons, length_append, length_singleton,
      append_assoc, singleton_append, Nat.add_zero, Nat.add_assoc, Nat.add_comm 1]

theorem created_slots (moMessageId : Nat) (s : Store)
    (targets : List (CompiledMoRule × Destination)) :
    (created moMessageId s targets).map MoDelivery.slot =
      targets.map fun t => (t.1.id, t.2.id) :=
  ext_getElem (by simp [created]) fun i _ _ => by
    simp [created, newDelivery, MoDelivery.slot]

variable {s : Store} {row : MoMessage}

theorem created_moMessageId {moMessageId : Nat} {targets : List (CompiledMoRule × Destination)}
    {d : MoDelivery} (h : d ∈ created moMessageId s targets) : d.moMessageId = moMessageId := by
  obtain ⟨i, hi, rfl⟩ := mem_mapIdx.mp h
  rfl

/-! ## One set for each message -/

/-- What every run of ingests keeps: rows are numbered as they come, a delivery belongs to a
message that is there, and the jobs are those of the deliveries, one each. -/
structure Store.Sound (s : Store) : Prop where
  messageIds : s.messages.map MoMessage.id = List.range s.messages.length
  deliveryIds : s.deliveries.map (fun d => (d.id, d.jobId)) =
    (List.range s.deliveries.length).map fun i => (i, i)
  jobIds : s.jobs.map (fun j => (j.row.id, j.deliveryId)) =
    (List.range s.deliveries.length).map fun i => (i, i)
  owner : ∀ d ∈ s.deliveries, d.moMessageId < s.messages.length

theorem Store.sound_empty : Store.empty.Sound := ⟨rfl, rfl, rfl, by simp [Store.empty]⟩

/-- A message has the deliveries the rules of `tables` ask for, and each of them one job. -/
structure OneSet (tables : RuleTables) (s : Store) (row : MoMessage) : Prop where
  slots : (s.deliveriesOf row.id).map MoDelivery.slot =
    (targetsOf text countryCode tables row.inbound.context).map fun t => (t.1.id, t.2.id)
  jobs : ∀ d ∈ s.deliveriesOf row.id, (s.jobsOf d.id).map (fun j => j.row.id) = [d.jobId]
  fanoutCount : row.fanoutCount = (s.deliveriesOf row.id).length

theorem Store.Sound.message_lt (h : s.Sound) {m : MoMessage} (hm : m ∈ s.messages) :
    m.id < s.messages.length := by
  have hmem : m.id ∈ s.messages.map MoMessage.id := mem_map_of_mem hm
  rw [h.messageIds] at hmem
  exact mem_range.mp hmem

theorem Store.Sound.jobs_length (h : s.Sound) : s.jobs.length = s.deliveries.length := by
  have := congrArg List.length h.jobIds
  simpa using this

/-- A delivery has one job, its own. -/
theorem Store.Sound.jobsOf (h : s.Sound) {d : MoDelivery} (hd : d ∈ s.deliveries) :
    (s.jobsOf d.id).map (fun j => j.row.id) = [d.jobId] := by
  have hmem : (d.id, d.jobId) ∈ s.deliveries.map fun d => (d.id, d.jobId) :=
    mem_map_of_mem (f := fun d : MoDelivery => (d.id, d.jobId)) hd
  rw [h.deliveryIds] at hmem
  obtain ⟨i, hi, heq⟩ := mem_map.mp hmem
  have hid : i = d.id := congrArg Prod.fst heq
  have hjob : i = d.jobId := congrArg Prod.snd heq
  have hpairs : (s.jobsOf d.id).map (fun j => (j.row.id, j.deliveryId)) =
      ((s.jobs.map fun j => (j.row.id, j.deliveryId)).filter fun p => decide (p.2 = d.id)) := by
    rw [Store.jobsOf, filter_map]
    rfl
  have hdiagonal : ((List.range s.deliveries.length).map fun i => (i, i)).filter
      (fun p => decide (p.2 = d.id)) = [(d.id, d.id)] := by
    rw [filter_map, show ((fun p : Nat × Nat => decide (p.2 = d.id)) ∘ fun i => (i, i)) =
      fun i => i == d.id from rfl, filter_beq,
      count_eq_one_of_mem nodup_range (hid ▸ hi)]
    rfl
  rw [h.jobIds, hdiagonal] at hpairs
  have hfst := congrArg (List.map Prod.fst) hpairs
  rw [map_map] at hfst
  rw [← hjob, hid]
  exact hfst

/-- The store with one more message and its fan-out. -/
def Store.withMessage (now : Int) (s : Store) (row : MoMessage)
    (targets : List (CompiledMoRule × Destination)) : Store where
  messages := s.messages ++ [row]
  deliveries := s.deliveries ++ created row.id s targets
  jobs := s.jobs ++ createdJobs now s targets

/-- **What an ingest does**: nothing where the key is there already, and otherwise one more message
with its fan-out. -/
theorem Store.ingestInClient_cases (tables : RuleTables) (now : Int)
    (hids : ∀ m ∈ s.messages, m.id < s.messages.length) (p : PreparedInbound) :
    ((s.ingestInClient text countryCode tables now p).1 = s ∧
      (s.ingestInClient text countryCode tables now p).2.duplicate = true ∧
      ∃ key, p.dedupeKey = some key ∧ ∃ m ∈ s.messages, m.inbound.dedupeKey = some key) ∨
    ((s.ingestInClient text countryCode tables now p).2.duplicate = false ∧
      (∀ key, p.dedupeKey = some key → ∀ m ∈ s.messages, m.inbound.dedupeKey ≠ some key) ∧
      ∃ row : MoMessage, row.id = s.messages.length ∧ row.inbound = p ∧
        row.fanoutCount = (targetsOf text countryCode tables p.context).length ∧
        (s.ingestInClient text countryCode tables now p).1 =
          s.withMessage now row (targetsOf text countryCode tables p.context)) := by
  by_cases hdup : (p.dedupeKey.isSome &&
      s.messages.any fun m => decide (m.inbound.dedupeKey = p.dedupeKey)) = true
  · refine .inl ⟨by rw [Store.ingestInClient, if_pos hdup],
      by rw [Store.ingestInClient, if_pos hdup], ?_⟩
    simp only [Bool.and_eq_true, any_eq_true, decide_eq_true_eq] at hdup
    obtain ⟨key, hkey⟩ := Option.isSome_iff_exists.mp hdup.1
    obtain ⟨m, hm, heq⟩ := hdup.2
    exact ⟨key, hkey, m, hm, heq.trans hkey⟩
  · refine .inr ⟨by rw [Store.ingestInClient, if_neg hdup], ?_, ?_⟩
    · intro key hkey m hm heq
      refine hdup ?_
      simp only [Bool.and_eq_true, any_eq_true, decide_eq_true_eq]
      exact ⟨by rw [hkey]; rfl, m, hm, heq.trans hkey.symm⟩
    · have hold : ∀ m ∈ s.messages, m.id ≠ s.messages.length := fun m hm => by
        have := hids m hm
        omega
      have hmap : ∀ f : MoMessage → MoMessage, (s.messages.map fun m =>
          if m.id = s.messages.length then f m else m) = s.messages := by
        intro f
        conv_rhs => rw [← map_id s.messages]
        exact map_congr_left fun m hm => if_neg (hold m hm)
      rw [Store.ingestInClient, if_neg hdup]
      simp only [matchAndFanOut, writeDeliveries_eq, map_append, map_cons, map_nil, if_true, hmap]
      exact ⟨_, rfl, rfl, rfl, rfl⟩

theorem created_ids (moMessageId : Nat) (h : s.Sound)
    (targets : List (CompiledMoRule × Destination)) :
    (created moMessageId s targets).map (fun d => (d.id, d.jobId)) =
      (List.range targets.length).map fun i => (s.deliveries.length + i, s.deliveries.length + i) :=
  ext_getElem (by simp [created]) fun i _ _ => by simp [created, newDelivery, h.jobs_length]

theorem createdJobs_ids (now : Int) (h : s.Sound) (targets : List (CompiledMoRule × Destination)) :
    (createdJobs now s targets).map (fun j => (j.row.id, j.deliveryId)) =
      (List.range targets.length).map fun i => (s.deliveries.length + i, s.deliveries.length + i) :=
  ext_getElem (by simp [createdJobs]) fun i _ _ => by
    simp only [createdJobs, getElem_map, getElem_mapIdx, createJob_id, getElem_range, h.jobs_length]
    rfl

theorem Store.Sound.withMessage (now : Int) (h : s.Sound) (hid : row.id = s.messages.length)
    (targets : List (CompiledMoRule × Destination)) :
    (s.withMessage now row targets).Sound where
  messageIds := by
    simp only [Store.withMessage, map_append, map_singleton, length_append,
      length_singleton, h.messageIds, hid, range_succ]
  deliveryIds := by
    simp only [Store.withMessage, map_append, length_append, h.deliveryIds,
      created_ids _ h, range_add, map_map]
    simp only [created, length_mapIdx, Function.comp_def]
  jobIds := by
    simp only [Store.withMessage, map_append, length_append, h.jobIds,
      createdJobs_ids _ h, range_add, map_map]
    simp only [created, length_mapIdx, Function.comp_def]
  owner := by
    intro d hd
    rw [Store.withMessage, length_append, length_singleton]
    rcases mem_append.mp hd with hd | hd
    · exact Nat.lt_succ_of_lt (h.owner d hd)
    · rw [created_moMessageId hd, hid]
      exact Nat.lt_succ_self _

/-- A message that was there keeps its deliveries, and no others. -/
theorem Store.withMessage_old (now : Int) (hid : row.id = s.messages.length)
    (targets : List (CompiledMoRule × Destination)) {n : Nat} (hn : n < s.messages.length) :
    (s.withMessage now row targets).deliveriesOf n = s.deliveriesOf n := by
  have hnone : (created row.id s targets).filter (fun d => decide (d.moMessageId = n)) = [] := by
    refine filter_eq_nil_iff.mpr fun d hd => ?_
    rw [created_moMessageId hd, hid, decide_eq_true_eq]
    omega
  rw [Store.deliveriesOf, Store.withMessage, filter_append, hnone, append_nil, Store.deliveriesOf]

/-- The new message has the ones written for it. -/
theorem Store.Sound.withMessage_new (now : Int) (h : s.Sound) (hid : row.id = s.messages.length)
    (targets : List (CompiledMoRule × Destination)) :
    (s.withMessage now row targets).deliveriesOf row.id = created row.id s targets := by
  have hnone : s.deliveries.filter (fun d => decide (d.moMessageId = row.id)) = [] := by
    refine filter_eq_nil_iff.mpr fun d hd => ?_
    have := h.owner d hd
    rw [decide_eq_true_eq]
    omega
  rw [Store.deliveriesOf, Store.withMessage, filter_append, hnone, nil_append]
  refine filter_eq_self.mpr fun d hd => ?_
  rw [created_moMessageId hd, decide_eq_true_eq]

/-- An ingest leaves the set of a message that is there as it is. -/
theorem OneSet.withMessage {tables : RuleTables} (now : Int) (h : s.Sound)
    (hid : row.id = s.messages.length) (targets : List (CompiledMoRule × Destination))
    {m : MoMessage} (hm : m ∈ s.messages) (hset : OneSet text countryCode tables s m) :
    OneSet text countryCode tables (s.withMessage now row targets) m where
  slots := by
    rw [Store.withMessage_old now hid targets (h.message_lt hm)]
    exact hset.slots
  jobs := fun d hd => (h.withMessage now hid targets).jobsOf (mem_of_mem_filter hd)
  fanoutCount := by
    rw [Store.withMessage_old now hid targets (h.message_lt hm)]
    exact hset.fanoutCount

/-- **The message an ingest lets in has one set.** -/
theorem Store.Sound.oneSet_new (tables : RuleTables) (now : Int) (h : s.Sound)
    (hid : row.id = s.messages.length)
    (hcount : row.fanoutCount = (targetsOf text countryCode tables row.inbound.context).length) :
    OneSet text countryCode tables
      (s.withMessage now row (targetsOf text countryCode tables row.inbound.context)) row where
  slots := by
    rw [h.withMessage_new now hid, created_slots]
  jobs := fun d hd => (h.withMessage now hid _).jobsOf (mem_of_mem_filter hd)
  fanoutCount := by
    rw [h.withMessage_new now hid, hcount]
    simp [created]

end FanOut

end Jkannel.Messaging.Mo
