import Jkannel.Lib.Transition
import Jkannel.Lib.Updates
import Jkannel.Messaging.ContentFilter

/-!
# The rule cache under concurrency

A process keeps each tenant's compiled rules for as long as the TTL, and drops a tenant's entry once
a change of its rules has committed.  Sends load the rules meanwhile, each in its own transaction,
and a load comes in three steps between which anything may happen: it looks into the cache, its
SELECT reads the table, and the answer is compiled and cached.

* `step` is the machine of the loads and the mutations of one process, for any number of tenants.
  What another process does to a table, or the counting of hits, is `elsewhere`.
* `Current` is what a load should return: the rules of a state of the table no older than any
  mutation that had returned when the load started, none of which had lapsed by then.
* `Prompt` is the condition: a load caches nothing its SELECT read before a mutation that has dropped
  the entry in the meantime, and a rule lapses neither while it is cached nor between the beginning
  of a transaction and its load.
* `change_immediate` is the result, and `stale_set_is_cached` a run that breaks without it.

The rules a set was compiled from are kept beside it here, for the condition to speak of; the code
does not keep them.
-/

namespace Jkannel.Messaging.RuleCache

open Option
open Transition (Ack)

/-! ## Mutations -/

/-- A change of a tenant's rules whose input has been validated. -/
inductive ContentMutation where
  | create (row : ContentRuleRow)
  /-- The row under `row.id` gets the columns of `row`. -/
  | update (row : ContentRuleRow)
  | remove (id : String)
  | quarantine (ruleIds : List String)

/-- A row after an update: the counters stay, and enabling it ends its quarantine. -/
def replaced (row existing : ContentRuleRow) : ContentRuleRow :=
  { row with
    matchCount := existing.matchCount
    lastMatchedAt := existing.lastMatchedAt
    quarantinedAt := if row.enabled then none else existing.quarantinedAt
    quarantineReason := if row.enabled then none else existing.quarantineReason
    createdAt := existing.createdAt }

/-- The table after a mutation; none when it throws, for want of the rule or over its name. -/
def ContentMutation.apply (table : List ContentRuleRow) (now : Int) :
    ContentMutation → Option (List ContentRuleRow)
  | .create row => if table.any fun r => r.name = row.name then none else some (table ++ [row])
  | .update row =>
    if !(table.any fun r => r.id = row.id) || table.any fun r => r.id ≠ row.id && r.name = row.name
    then none
    else some (table.map fun r => if r.id = row.id then replaced row r else r)
  | .remove id =>
    if table.any fun r => r.id = id then some (table.filter fun r => r.id ≠ id) else none
  | .quarantine ruleIds => some (Messaging.quarantine table ruleIds now)

/-! ## The cache -/

def MAX_CACHED_TENANTS : Nat := 256

/-- A compiled rule set, as it is cached. -/
structure CacheEntry where
  tenantId : String
  set : CompiledRuleSet
  /-- The rows the set was compiled from. -/
  rows : List ContentRuleRow

/-- The cache, in the order its keys came in. -/
abbrev Cache := List CacheEntry

/-- The entry of a tenant. -/
def Cache.get (cache : Cache) (tenantId : String) : Option CacheEntry :=
  cache.find? fun e => e.tenantId = tenantId

/-- Drop a tenant's entry. -/
def Cache.invalidate (cache : Cache) (tenantId : String) : Cache :=
  cache.filter fun e => e.tenantId ≠ tenantId

/-- Put an entry in, dropping the oldest one when there is no room for a new tenant. -/
def Cache.put (cache : Cache) (entry : CacheEntry) : Cache :=
  if cache.any fun e => e.tenantId = entry.tenantId then
    cache.map fun e => if e.tenantId = entry.tenantId then entry else e
  else (if MAX_CACHED_TENANTS ≤ cache.length then cache.tail else cache) ++ [entry]

theorem Cache.mem_put {cache : Cache} {entry e : CacheEntry} (h : e ∈ cache.put entry) :
    e = entry ∨ e ∈ cache := by
  rw [Cache.put] at h
  split at h
  · obtain ⟨old, hold, heq⟩ := List.mem_map.mp h
    split at heq
    · exact .inl heq.symm
    · exact .inr (heq ▸ hold)
  · rcases List.mem_append.mp h with h | h
    · split at h
      · exact .inr (List.mem_of_mem_tail h)
      · exact .inr h
    · exact .inl (List.mem_singleton.mp h)

/-! ## The machine -/

/-- The configuration of a process. -/
structure Process where
  text : TextEngine
  regex : RegexEngine
  cacheTtlMs : Int

/-- A tenant's table: its committed states, the current one last. -/
structure Table where
  earlier : List (List ContentRuleRow)
  current : List ContentRuleRow
  deriving DecidableEq

/-- The number of the current state. -/
def Table.number (table : Table) : Nat := table.earlier.length

/-- The state of a number. -/
def Table.state (table : Table) (k : Nat) : Option (List ContentRuleRow) :=
  (table.earlier ++ [table.current])[k]?

/-- A table with a further state. -/
def Table.commit (table : Table) (rows : List ContentRuleRow) : Table :=
  ⟨table.earlier ++ [table.current], rows⟩

/-- Where a load is.  `startedAt` is the instant it started, and `since` the number of the table's
state that the mutations which had returned by then had come to. -/
inductive LoadPhase where
  /-- Its transaction has begun. -/
  | begun
  | missed (startedAt : Int) (since : Nat)
  /-- The SELECT has read `rows` from the table's state of that number. -/
  | selected (startedAt : Int) (since number : Nat) (rows : List ContentRuleRow)
  | returned (startedAt : Int) (since : Nat) (set : CompiledRuleSet)
  | failed

/-- A `loadInClient` at work. -/
structure Load where
  tenantId : String
  /-- The instant its transaction began, which is what `now()` is in it. -/
  txNow : Int
  phase : LoadPhase

/-- How far a change has come. -/
inductive MutationPhase where
  | begun
  /-- It is committed, as the table's state of that number. -/
  | committed (number : Nat)
  | returned
  | failed

/-- A change of the rules at work. -/
structure Mutation where
  tenantId : String
  txNow : Int
  change : ContentMutation
  phase : MutationPhase

/-- The tables, the cache and the calls. -/
structure State where
  now : Int
  tables : String → Table
  cache : Cache
  /-- The number of the state that the mutations which have returned have come to. -/
  settled : String → Nat
  loads : Nat → Option Load
  mutations : Nat → Option Mutation

def init (tables : String → List ContentRuleRow) (now : Int) : State where
  now := now
  tables tenantId := ⟨[], tables tenantId⟩
  cache := []
  settled _ := 0
  loads _ := none
  mutations _ := none

/-- One step of one call. -/
inductive Action where
  | tick (ms : Nat)
  /-- The transaction of a send begins. -/
  | begin (i : Nat) (tenantId : String)
  /-- `loadInClient` is called, and looks into the cache. -/
  | load (i : Nat)
  | select (i : Nat)
  /-- The rows are there: they are compiled, cached and returned. -/
  | store (i : Nat)
  /-- The SELECT throws. -/
  | throw (i : Nat)
  | start (m : Nat) (tenantId : String) (change : ContentMutation)
  | commit (m : Nat) (ack : Ack)
  /-- The mutation throws: its input, its scope, the number of rules, or the database. -/
  | abandon (m : Nat)
  /-- The mutation drops its tenant's entry, and returns. -/
  | invalidate (m : Nat)
  | elsewhere (tenantId : String) (rows : List ContentRuleRow)

def State.setLoad (s : State) (i : Nat) (load : Load) (phase : LoadPhase) : State :=
  { s with loads := Function.update s.loads i (some { load with phase := phase }) }

def State.setMutation (s : State) (m : Nat) (mutation : Mutation) (phase : MutationPhase) : State :=
  { s with
    mutations := Function.update s.mutations m (some { mutation with phase := phase }) }

def State.commit (s : State) (tenantId : String) (rows : List ContentRuleRow) : State :=
  { s with tables := Function.update s.tables tenantId ((s.tables tenantId).commit rows) }

theorem setLoad_loads (s : State) (i : Nat) (load : Load) (phase : LoadPhase) :
    (s.setLoad i load phase).loads =
      Function.update s.loads i (some { load with phase := phase }) := rfl

theorem setMutation_mutations (s : State) (m : Nat) (mutation : Mutation) (phase : MutationPhase) :
    (s.setMutation m mutation phase).mutations =
      Function.update s.mutations m (some { mutation with phase := phase }) := rfl

theorem commit_tables (s : State) (tenantId : String) (rows : List ContentRuleRow) :
    (s.commit tenantId rows).tables =
      Function.update s.tables tenantId ((s.tables tenantId).commit rows) := rfl

/-- The cached entry of a tenant, as long as it is fresh. -/
def State.served (w : Process) (s : State) (tenantId : String) : Option CacheEntry :=
  (s.cache.get tenantId).filter fun e => (freshRules (some e.set) w.cacheTtlMs s.now).isSome

/-- The rows of an answer, compiled. -/
def compileRows (w : Process) (rows : List ContentRuleRow) (loadedAtMs : Int) : CompiledRuleSet :=
  let rules := (rows.map (compileRule w.text w.regex)).insertionSort (compareRules · · ≠ .gt)
  ⟨rules, rules.any fun rule => rule.smscId.isSome, loadedAtMs, rfl⟩

/-- The look into the cache. -/
def lookUp (w : Process) (s : State) (load : Load) : LoadPhase :=
  match s.served w load.tenantId with
  | some entry => .returned s.now (s.settled load.tenantId) entry.set
  | none => .missed s.now (s.settled load.tenantId)

/-- The step of a load. -/
def loadStep (w : Process) (s : State) (i : Nat) (load : Load) : LoadPhase → Action → Option State
  | .begun, .load _ => some (s.setLoad i load (lookUp w s load))
  | .missed startedAt since, .select _ =>
    some (s.setLoad i load (.selected startedAt since (s.tables load.tenantId).number
      (enabledRules (s.tables load.tenantId).current load.txNow)))
  | .selected startedAt since _ rows, .store _ =>
    some ({ s with cache := s.cache.put ⟨load.tenantId, compileRows w rows s.now, rows⟩ }.setLoad i
      load (.returned startedAt since (compileRows w rows s.now)))
  | .missed _ _, .throw _ => some (s.setLoad i load .failed)
  | _, _ => none

/-- The step of a mutation. -/
def mutationStep (s : State) (m : Nat) (mutation : Mutation) :
    MutationPhase → Action → Option State
  | .begun, .commit _ ack =>
    match ack with
    | .refused _ => some (s.setMutation m mutation .failed)
    | .lost _ =>
      (mutation.change.apply (s.tables mutation.tenantId).current mutation.txNow).map fun rows =>
        (s.commit mutation.tenantId rows).setMutation m mutation .failed
    | .ok =>
      (mutation.change.apply (s.tables mutation.tenantId).current mutation.txNow).map fun rows =>
        (s.commit mutation.tenantId rows).setMutation m mutation
          (.committed ((s.tables mutation.tenantId).number + 1))
  | .begun, .abandon _ => some (s.setMutation m mutation .failed)
  | .committed number, .invalidate _ =>
    some ({ s with
      cache := s.cache.invalidate mutation.tenantId
      settled := Function.update s.settled mutation.tenantId
        (max (s.settled mutation.tenantId) number) }.setMutation m mutation .returned)
  | _, _ => none

/-- One step of one call. -/
@[grind =] def step (w : Process) (s : State) (a : Action) : Option State :=
  match a with
  | .tick ms => some { s with now := s.now + ms }
  | .begin i tenantId =>
    if (s.loads i).isSome then none else some (s.setLoad i ⟨tenantId, s.now, .begun⟩ .begun)
  | .start m tenantId change =>
    if (s.mutations m).isSome then none
    else some (s.setMutation m ⟨tenantId, s.now, change, .begun⟩ .begun)
  | .elsewhere tenantId rows => some (s.commit tenantId rows)
  | .load i | .select i | .store i | .throw i =>
    (s.loads i).bind fun load => loadStep w s i load load.phase a
  | .commit m _ | .abandon m | .invalidate m =>
    (s.mutations m).bind fun mutation => mutationStep s m mutation mutation.phase a

/-- The machine. -/
def ruleCache (w : Process) : Transition.System State Action := ⟨step w⟩

/-! ## What a load returns -/

/-- A rule has not lapsed. -/
def LiveAt (now : Int) (row : ContentRuleRow) : Prop := ∀ t ∈ row.expiresAt, now < t

instance (now : Int) (row : ContentRuleRow) : Decidable (LiveAt now row) :=
  inferInstanceAs (Decidable (∀ t ∈ row.expiresAt, now < t))

/-- The set is the rules of a state of the table no older than `since`, and none of them had lapsed
when the load started. -/
def Current (w : Process) (table : Table) (since : Nat) (startedAt : Int) (set : CompiledRuleSet) :
    Prop :=
  ∃ k rows read, since ≤ k ∧ table.state k = some rows ∧
    set.rules = (compileRuleSet w.text w.regex rows read).rules ∧
    ∀ row ∈ enabledRules rows read, LiveAt startedAt row

/-- **A change takes effect immediately**: whatever a load has returned is current. -/
def Immediate (w : Process) (s : State) : Prop :=
  ∀ i load startedAt since set, s.loads i = some load →
    load.phase = .returned startedAt since set →
    Current w (s.tables load.tenantId) since startedAt set

/-- What a run is asked for: a load is served no rule that has lapsed, whether from the cache or
because its transaction began before it did; and it does not cache what it read before a mutation
that has returned. -/
def Prompt (w : Process) (s : State) : Action → Prop
  | .load i => ∀ load ∈ s.loads i, ∀ entry ∈ s.served w load.tenantId, ∀ row ∈ entry.rows,
      LiveAt s.now row
  | .select i => ∀ load ∈ s.loads i,
      match load.phase with
      | .missed startedAt _ =>
        ∀ row ∈ enabledRules (s.tables load.tenantId).current load.txNow, LiveAt startedAt row
      | _ => True
  | .store i => ∀ load ∈ s.loads i,
      match load.phase with
      | .selected _ _ number _ => s.settled load.tenantId ≤ number
      | _ => True
  | _ => True

instance (w : Process) (s : State) (a : Action) : Decidable (Prompt w s a) := by
  unfold Prompt
  split
  · infer_instance
  · refine @Option.decidableForallMem _ _ ?_ _
    intro load
    dsimp only
    split <;> infer_instance
  · refine @Option.decidableForallMem _ _ ?_ _
    intro load
    dsimp only
    split <;> infer_instance
  · infer_instance

/-! ## Tables that grow -/

/-- A table has gone on. -/
structure Grows (table table' : Table) : Prop where
  number : table.number ≤ table'.number
  state : ∀ k rows, table.state k = some rows → table'.state k = some rows

theorem Grows.refl (table : Table) : Grows table table := ⟨le_refl _, fun _ _ h => h⟩

theorem Table.state_number (table : Table) : table.state table.number = some table.current := by
  rw [Table.state, Table.number, List.getElem?_append_right (le_refl _), Nat.sub_self]
  rfl

theorem Table.commit_number (table : Table) (rows : List ContentRuleRow) :
    (table.commit rows).number = table.number + 1 := by
  rw [Table.number, Table.commit, List.length_append]
  rfl

theorem Table.commit_grows (table : Table) (rows : List ContentRuleRow) :
    Grows table (table.commit rows) where
  number := by rw [table.commit_number]; exact Nat.le_succ _
  state k rows' h := by
    obtain ⟨hlt, -⟩ := List.getElem?_eq_some_iff.mp h
    rw [Table.state, Table.commit, List.getElem?_append_left hlt]
    exact h

theorem commit_grows (s : State) (tenantId : String) (rows : List ContentRuleRow) (other : String) :
    Grows (s.tables other) ((s.commit tenantId rows).tables other) := by
  rw [commit_tables]
  by_cases h : other = tenantId
  · subst h
    rw [Function.update_self]
    exact Table.commit_grows _ _
  · rw [Function.update_of_ne h]
    exact .refl _

/-! ## The invariant -/

/-- The rows are what a SELECT reads of the table's state of that number. -/
def ReadOf (table : Table) (number : Nat) (rows : List ContentRuleRow) : Prop :=
  ∃ state read, table.state number = some state ∧ rows = enabledRules state read

variable {rows : List ContentRuleRow} {table table' : Table} {phase : LoadPhase}

theorem ReadOf.grow {number : Nat}
    (h : ReadOf table number rows) (hgrows : Grows table table') : ReadOf table' number rows := by
  obtain ⟨state, read, hstate, hrows⟩ := h
  exact ⟨state, read, hgrows.state _ _ hstate, hrows⟩

theorem ReadOf.current {w : Process} {table : Table} {number since : Nat}
    {startedAt loadedAtMs : Int} (h : ReadOf table number rows)
    (hsince : since ≤ number) (hlive : ∀ row ∈ rows, LiveAt startedAt row) :
    Current w table since startedAt (compileRows w rows loadedAtMs) := by
  obtain ⟨state, read, hstate, rfl⟩ := h
  exact ⟨number, state, read, hsince, hstate, rfl, hlive⟩

/-- What holds of a load, by where it is. -/
def LoadOk (w : Process) (table : Table) : LoadPhase → Prop
  | .missed _ since => since ≤ table.number
  | .selected startedAt since number rows =>
    since ≤ number ∧ ReadOf table number rows ∧ ∀ row ∈ rows, LiveAt startedAt row
  | .returned startedAt since set => Current w table since startedAt set
  | _ => True

theorem LoadOk.grow {w : Process}
    (h : LoadOk w table phase) (hgrows : Grows table table') : LoadOk w table' phase := by
  cases phase with
  | begun | failed => trivial
  | missed startedAt since => exact le_trans h hgrows.number
  | selected startedAt since number rows => exact ⟨h.1, h.2.1.grow hgrows, h.2.2⟩
  | returned startedAt since set =>
    obtain ⟨k, rows, read, hk, hstate, hrules, hlive⟩ := h
    exact ⟨k, rows, read, hk, hgrows.state _ _ hstate, hrules, hlive⟩

/-- A cached set is the rules of a state no older than the mutations that have returned. -/
def EntryOk (w : Process) (table : Table) (settled : Nat) (entry : CacheEntry) : Prop :=
  ∃ number, settled ≤ number ∧ ReadOf table number entry.rows ∧
    ∃ loadedAtMs, entry.set = compileRows w entry.rows loadedAtMs

/-- What a step of the cache keeps. -/
structure Inv (w : Process) (s : State) : Prop where
  loads : ∀ i load, s.loads i = some load → LoadOk w (s.tables load.tenantId) load.phase
  cached : ∀ e ∈ s.cache, EntryOk w (s.tables e.tenantId) (s.settled e.tenantId) e
  settled : ∀ tenantId, s.settled tenantId ≤ (s.tables tenantId).number
  mutations : ∀ m mutation, s.mutations m = some mutation → ∀ number,
    mutation.phase = .committed number → number ≤ (s.tables mutation.tenantId).number

theorem inv_init (w : Process) (tables : String → List ContentRuleRow) (now : Int) :
    Inv w (init tables now) where
  loads _ _ h := by cases h
  cached _ h := by cases h
  settled _ := Nat.zero_le _
  mutations _ _ h := by cases h

section Step

variable {w : Process} {s s' : State}

section

variable (h : Inv w s) {a : Action}
include h

theorem Inv.setLoad (i : Nat) (load : Load)
    (hphase : LoadOk w (s.tables load.tenantId) phase) : Inv w (s.setLoad i load phase) where
  loads j other hother := by
    rw [setLoad_loads] at hother
    rcases Updates.update_eq_some hother with ⟨rfl, rfl⟩ | ⟨hj, hother⟩
    · exact hphase
    · exact h.loads j other hother
  __ := h

theorem Inv.setMutation (m : Nat) (mutation : Mutation) {phase : MutationPhase}
    (hphase : ∀ number, phase = .committed number →
      number ≤ (s.tables mutation.tenantId).number) : Inv w (s.setMutation m mutation phase) where
  __ := h
  mutations k other hother := by
    rw [setMutation_mutations] at hother
    rcases Updates.update_eq_some hother with ⟨rfl, rfl⟩ | ⟨hk, hother⟩
    · exact hphase
    · exact h.mutations k other hother

theorem Inv.commit (tenantId : String) (rows : List ContentRuleRow) :
    Inv w (s.commit tenantId rows) where
  loads i load hload := (h.loads i load hload).grow (commit_grows s tenantId rows _)
  cached e he := by
    obtain ⟨number, hle, hread, hset⟩ := h.cached e he
    exact ⟨number, hle, hread.grow (commit_grows s tenantId rows _), hset⟩
  settled other := le_trans (h.settled other) (commit_grows s tenantId rows other).number
  mutations m mutation hm number hnumber :=
    le_trans (h.mutations m mutation hm number hnumber) (commit_grows s tenantId rows _).number

theorem Inv.put {entry : CacheEntry}
    (hentry : EntryOk w (s.tables entry.tenantId) (s.settled entry.tenantId) entry) :
    Inv w { s with cache := s.cache.put entry } where
  __ := h
  cached e he := by
    rcases Cache.mem_put he with rfl | he
    · exact hentry
    · exact h.cached e he

/-- Dropping an entry makes room for the mutation to have returned. -/
theorem Inv.invalidate (tenantId : String) {number : Nat}
    (hnumber : number ≤ (s.tables tenantId).number) :
    Inv w { s with
      cache := s.cache.invalidate tenantId
      settled := Function.update s.settled tenantId (max (s.settled tenantId) number) } where
  __ := h
  cached e he := by
    obtain ⟨hmem, hne⟩ := List.mem_filter.mp he
    show EntryOk w _ (Function.update s.settled tenantId _ e.tenantId) e
    rw [Function.update_of_ne (by simpa using hne)]
    exact h.cached e hmem
  settled other := by
    show Function.update s.settled tenantId _ other ≤ _
    by_cases hother : other = tenantId
    · subst hother
      rw [Function.update_self]
      exact max_le (h.settled other) hnumber
    · rw [Function.update_of_ne hother]
      exact h.settled other

/-- The look into the cache keeps a load in order, when nothing in the entry has lapsed. -/
theorem Inv.lookUp (load : Load)
    (hlive : ∀ entry ∈ s.served w load.tenantId, ∀ row ∈ entry.rows, LiveAt s.now row) :
    LoadOk w (s.tables load.tenantId) (lookUp w s load) := by
  rw [RuleCache.lookUp]
  cases hserved : s.served w load.tenantId with
  | none => exact h.settled _
  | some entry =>
    have hget := (filter_eq_some_iff.mp hserved).1
    have htenant : entry.tenantId = load.tenantId := by simpa using List.find?_some hget
    obtain ⟨number, hle, hread, loadedAtMs, hset⟩ := h.cached entry (List.mem_of_find?_eq_some hget)
    rw [htenant] at hle hread
    show Current w _ _ _ entry.set
    rw [hset]
    exact hread.current hle (hlive entry hserved)

theorem Inv.loadStep {i : Nat} {load : Load} (hload : s.loads i = some load)
    (hprompt : Prompt w s a) (hi : a = .load i ∨ a = .select i ∨ a = .store i ∨ a = .throw i)
    (hstep : loadStep w s i load load.phase a = some s') : Inv w s' := by
  have hok := h.loads i load hload
  rcases hphase : load.phase with _ | ⟨startedAt, since⟩ | ⟨startedAt, since, number, rows⟩ | _ | _ <;>
    rw [hphase] at hstep hok <;> rcases hi with rfl | rfl | rfl | rfl <;>
    simp only [RuleCache.loadStep, reduceCtorEq, some.injEq] at hstep
  · subst hstep
    exact h.setLoad i load (h.lookUp load (hprompt load hload))
  · subst hstep
    have hlive := hprompt load hload
    simp only [hphase] at hlive
    exact h.setLoad i load ⟨hok, ⟨_, load.txNow, Table.state_number _, rfl⟩, hlive⟩
  · subst hstep
    exact h.setLoad i load trivial
  · subst hstep
    obtain ⟨hsince, hread, hlive⟩ := hok
    have hsettled := hprompt load hload
    simp only [hphase] at hsettled
    refine Inv.setLoad (s := { s with cache := _ }) (h.put ⟨number, hsettled, hread, s.now, rfl⟩) i
      load ?_
    exact hread.current hsince hlive

theorem Inv.mutationStep {m : Nat} {mutation : Mutation} (hmutation : s.mutations m = some mutation)
    (hi : (∃ ack, a = .commit m ack) ∨ a = .abandon m ∨ a = .invalidate m)
    (hstep : mutationStep s m mutation mutation.phase a = some s') : Inv w s' := by
  have hnumber := h.mutations m mutation hmutation
  rcases hphase : mutation.phase with _ | number | _ | _ <;> rw [hphase] at hstep <;>
    rcases hi with ⟨ack, rfl⟩ | rfl | rfl <;>
    simp only [RuleCache.mutationStep, reduceCtorEq, some.injEq] at hstep
  · -- the mutation commits, or is refused
    cases ack with
    | refused error =>
      cases hstep
      exact h.setMutation m mutation fun _ hfailed => by cases hfailed
    | lost error =>
      obtain ⟨rows, -, rfl⟩ := map_eq_some_iff.mp hstep
      exact (h.commit mutation.tenantId rows).setMutation m mutation fun _ hfailed => by
        cases hfailed
    | ok =>
      obtain ⟨rows, -, rfl⟩ := map_eq_some_iff.mp hstep
      refine (h.commit mutation.tenantId rows).setMutation m mutation fun number hcommitted => ?_
      obtain rfl := MutationPhase.committed.inj hcommitted
      rw [commit_tables, Function.update_self, Table.commit_number]
  · subst hstep
    exact h.setMutation m mutation fun _ hfailed => by cases hfailed
  · subst hstep
    exact Inv.setMutation (h.invalidate mutation.tenantId (hnumber number hphase)) m mutation
      fun _ hreturned => by cases hreturned

theorem inv_step (hprompt : Prompt w s a) (hstep : step w s a = some s') : Inv w s' := by
  cases a with
  | tick ms =>
    cases hstep
    exact ⟨h.loads, h.cached, h.settled, h.mutations⟩
  | begin i tenantId =>
    rw [step] at hstep
    split at hstep
    · cases hstep
    · cases hstep
      exact h.setLoad i _ trivial
  | start m tenantId change =>
    rw [step] at hstep
    split at hstep
    · cases hstep
    · cases hstep
      exact h.setMutation m _ fun _ hbegun => by cases hbegun
  | elsewhere tenantId rows =>
    cases hstep
    exact h.commit tenantId rows
  | load _ | select _ | store _ | throw _ =>
    obtain ⟨load, hload, hstep⟩ := bind_eq_some_iff.mp hstep
    exact h.loadStep hload hprompt (by simp) hstep
  | _ =>
    obtain ⟨mutation, hmutation, hstep⟩ := bind_eq_some_iff.mp hstep
    exact h.mutationStep hmutation (by simp) hstep

end

end Step

/-- **A change of the rules takes effect immediately** in every run that is prompt. -/
theorem change_immediate {w : Process} {tables : String → List ContentRuleRow} {now : Int}
    {s : State} {as : List Action} (hprompt : (ruleCache w).Along (Prompt w) (init tables now) as)
    (hrun : (ruleCache w).run (init tables now) as = some s) : Immediate w s := by
  have h : Inv w s := (ruleCache w).invariant_along (fun _ _ _ hi hP hstep => inv_step hi hP hstep)
    (inv_init w tables now) hprompt hrun
  intro i load startedAt since set hload hphase
  have hok := h.loads i load hload
  rw [hphase] at hok
  exact hok

/-! Runs of one tenant, whose table is empty at first. -/

/-- A process without regular expressions. -/
def plain : Process := ⟨.ascii, .never, 15000⟩

/-- A rule that blocks a word in the body, until it lapses. -/
def blocking (expiresAt : Option Int) : ContentRuleRow where
  id := "rule"
  name := "promotions"
  matchField := .body
  matchType := .substring
  pattern := "free"
  caseSensitive := false
  action := .block
  smscId := none
  customerId := none
  enabled := true
  priority := 100
  expiresAt := expiresAt
  reason := none
  matchCount := 0
  lastMatchedAt := none
  quarantinedAt := none
  quarantineReason := none
  createdAt := 0

/-- A load from the table, and one from the cache. -/
def loads (i : Nat) : List Action := [.begin i "1", .load i, .select i, .store i]

def creates (expiresAt : Option Int) : List Action :=
  [.start 0 "1" (.create (blocking expiresAt)), .commit 0 .ok, .invalidate 0]

/-- What a load has returned: its tenant, when it started, since which state it should be current,
and the number of rules. -/
def State.answer (s : State) (i : Nat) : Option (String × Int × Nat × Nat) :=
  (s.loads i).bind fun load => match load.phase with
    | .returned startedAt since set => some (load.tenantId, startedAt, since, set.rules.length)
    | _ => none

/-- A load before the change, one after it, and one that is served from the cache. -/
def promptRun : List Action := loads 0 ++ creates none ++ loads 1 ++ [.begin 2 "1", .load 2]

theorem change_immediate_promptRun :
    ∃ s, (ruleCache plain).run (init (fun _ => []) 0) promptRun = some s ∧
      s.answer 2 = some ("1", 0, 1, 1) ∧ Immediate plain s := by
  have hchecked : (ruleCache plain).check (Prompt plain) (init (fun _ => []) 0) promptRun = true := by
    decide +kernel
  have hends : ((ruleCache plain).run (init (fun _ => []) 0) promptRun).any
      (fun s => s.answer 2 = some ("1", 0, 1, 1)) = true := by decide +kernel
  obtain ⟨s, hs, hanswer⟩ := (ruleCache plain).exists_run _ hends
  exact ⟨s, hs, of_decide_eq_true hanswer,
    change_immediate ((ruleCache plain).along_of_check _ hchecked) hs⟩

/-- A load reads the table before the change and caches it after the entry has been dropped, and
another is served. -/
def staleRun : List Action :=
  [.begin 0 "1", .load 0, .select 0] ++ creates none ++ [.store 0, .begin 1 "1", .load 1]

/-- The table after the rule has been created. -/
def createdTable (expiresAt : Option Int) : Table := ⟨[[]], [blocking expiresAt]⟩

theorem compileRuleSet_length (text : TextEngine) (regex : RegexEngine)
    (table : List ContentRuleRow) (now : Int) :
    (compileRuleSet text regex table now).rules.length = (enabledRules table now).length := by
  simp [compileRuleSet, List.length_insertionSort]

/-- What an answer that is current says of the table with the one rule. -/
theorem Immediate.created {s : State} {i n : Nat} {expiresAt : Option Int} {startedAt : Int}
    (h : Immediate plain s) (hanswer : s.answer i = some ("1", startedAt, 1, n))
    (htable : s.tables "1" = createdTable expiresAt) :
    ∃ read, n = (enabledRules [blocking expiresAt] read).length ∧
      ∀ row ∈ enabledRules [blocking expiresAt] read, LiveAt startedAt row := by
  obtain ⟨load, hload, hphase⟩ := bind_eq_some_iff.mp hanswer
  split at hphase
  · next started since set hreturned =>
    obtain ⟨htenant, rfl, rfl, rfl⟩ := by simpa using hphase
    obtain ⟨k, rows, read, hk, hstate, hrules, hlive⟩ := h i load _ _ set hload hreturned
    rw [htenant, htable] at hstate
    obtain ⟨hlt, -⟩ := List.getElem?_eq_some_iff.mp hstate
    obtain rfl : k = 1 := by
      have hlt : k < 2 := hlt
      omega
    cases hstate
    exact ⟨read, hrules ▸ compileRuleSet_length .., hlive⟩
  · cases hphase

/-- **A stale set is cached**: no later load sees the rule until the TTL is over. -/
theorem stale_set_is_cached :
    ∃ s, (ruleCache plain).run (init (fun _ => []) 0) staleRun = some s ∧ ¬ Immediate plain s := by
  have hends : ((ruleCache plain).run (init (fun _ => []) 0) staleRun).any (fun s =>
      s.answer 1 = some ("1", 0, 1, 0) ∧ s.tables "1" = createdTable none) = true := by
    decide +kernel
  obtain ⟨s, hs, hend⟩ := (ruleCache plain).exists_run _ hends
  obtain ⟨hanswer, htable⟩ := of_decide_eq_true hend
  refine ⟨s, hs, fun h => ?_⟩
  obtain ⟨read, hlength, -⟩ := h.created hanswer htable
  have hone : (enabledRules [blocking none] read).length = 1 := rfl
  omega

end Jkannel.Messaging.RuleCache

