import Jkannel.Lib.Ledger
import Jkannel.Lib.Transition
import Jkannel.Platform.Jobs

/-!
# The job queue

The state machine of `api_jobs`: any number of jobs, and any number of executions of them.  An
execution is one claim and what the worker that made it does with the row it was handed: start the
handler, heart-beat, and complete or fail the job, each in a transaction of its own, so that
anything may come between.  A worker can die at any point, and a transaction can be refused or
its acknowledgement lost.

* `step` is the machine, one action a transaction or a step of a worker.
* `Fenced` is the condition the queue is safe under: a worker whose claim has been given to another
  does not write to the running job.  Nothing in the statements enforces it; they look at the id
  and at `running` alone.
* `Inv` is what every fenced run keeps, and `fencing_along` what follows from it.
* `stale_execution_requeues` is the run that breaks without it.
-/

namespace Jkannel.Platform.JobQueue

open Option
open Transition (Ack)
open Function (update_self update_of_ne)

/-- How far an execution has got. -/
inductive Phase where
  /-- The worker holds the claimed row and has not looked up the handler. -/
  | claimed
  /-- The handler is running. -/
  | handling
  /-- The handler returned, and the job is to be completed. -/
  | returned (result : String)
  /-- The handler, or the completion, threw, and the attempt is to be failed. -/
  | threw (message : String) (permanent : Bool)
  /-- The worker is done with the job or dead; a heartbeat of its may still be on the way. -/
  | ended

/-- One claim and what its worker is doing with it. -/
structure Execution where
  /-- The row as the claim returned it. -/
  job : JobRow
  phase : Phase

/-- The queue, the executions and the handler starts so far. -/
structure State where
  /-- `api_jobs`, by id. -/
  row : Nat → Option JobRow
  /-- The executions, by a name of their own. -/
  exec : Nat → Option Execution
  /-- Every start of a handler: the job, and the attempt it was claimed as. -/
  started : List (Nat × Nat)

/-- The empty queue. -/
def init : State := ⟨fun _ => none, fun _ => none, []⟩

/-- How often a job's handler has been started. -/
def State.starts (s : State) (id : Nat) : Nat := (s.started.filter fun p => p.1 = id).length

/-- What the queue is deployed with. -/
structure Config where
  /-- The job types a handler is registered for, sorted. -/
  types : List String
  tuning : RetryTuning

/-- The failure of a job whose type has no handler. -/
def Config.unregistered (cfg : Config) (type : String) : String :=
  "No executor is registered for job type \"" ++ type ++ "\", so this job can never run. " ++
    "Registered types: " ++
    (if cfg.types.isEmpty then "(none)" else String.intercalate ", " cfg.types) ++ "."

/-- What happens in the queue. -/
inductive Action where
  /-- `create`: submit a job. -/
  | create (id : Nat) (type : String) (maxAttempts : Nat) (runAt : Option Int) (now : Int)
  /-- `claimNext`: execution `w` claims job `id`, the locked ones being skipped. -/
  | claim (w : Nat) (id : Nat) (workerId : String) (now : Int)
  /-- `execute` looks up the handler and starts it. -/
  | start (w : Nat)
  /-- A heartbeat or a progress report lands. -/
  | progress (w : Nat) (percent : Int) (now : Int)
  | handlerReturns (w : Nat) (result : String)
  | handlerThrows (w : Nat) (message : String) (permanent : Bool)
  /-- `completeJob`. -/
  | complete (w : Nat) (now : Int) (ack : Ack)
  /-- `failAttempt`. -/
  | fail (w : Nat) (now : Int) (ack : Ack)
  /-- The worker dies. -/
  | crash (w : Nat)
  /-- `reapStuck`, over every job. -/
  | reap (staleAfterMs : Int) (now : Int)
  /-- `cancelOn`. -/
  | cancel (id : Nat) (reason : Option String) (now : Int)
  /-- `rescheduleOn`. -/
  | reschedule (id : Nat) (runAt : Int)

/-- `UPDATE api_jobs … WHERE id = …`: the statement on the row of that id, if there is one and it
matches. -/
def State.update (s : State) (id : Nat) (statement : JobRow → Option JobRow) : State :=
  match (s.row id).bind statement with
  | some row' => { s with row := Function.update s.row id (some row') }
  | none => s

/-- Move an execution on. -/
def State.setPhase (s : State) (w : Nat) (e : Execution) (phase : Phase) : State :=
  { s with exec := Function.update s.exec w (some { e with phase := phase }) }

/-- The transaction of a worker: the statement takes effect unless it is refused. -/
def State.commit (s : State) (ack : Ack) (id : Nat) (statement : JobRow → Option JobRow) : State :=
  if ack.committed then s.update id statement else s

/-- What one action does. -/
@[grind =] def step (cfg : Config) (s : State) : Action → Option State
  | .create id type maxAttempts runAt now =>
    match s.row id, insert id type maxAttempts runAt now with
    | none, some row => some { s with row := Function.update s.row id (some row) }
    | _, _ => none
  | .claim w id workerId now =>
    match s.exec w, (s.row id).bind (claimOn now workerId) with
    | none, some row' => some { s with
        row := Function.update s.row id (some row')
        exec := Function.update s.exec w (some ⟨row', .claimed⟩) }
    | _, _ => none
  | .start w =>
    match s.exec w with
    | some ⟨job, .claimed⟩ =>
      if job.type ∈ cfg.types then
        some { s.setPhase w ⟨job, .claimed⟩ .handling with
          started := s.started ++ [(job.id, job.attempts)] }
      else
        -- a type nothing can run is dead-lettered on sight
        some (s.setPhase w ⟨job, .claimed⟩ (.threw (cfg.unregistered job.type) true))
    | _ => none
  | .progress w percent now =>
    match s.exec w with
    | some e => some (s.update e.job.id (reportProgress now percent))
    | none => none
  | .handlerReturns w result =>
    match s.exec w with
    | some ⟨job, .handling⟩ => some (s.setPhase w ⟨job, .handling⟩ (.returned result))
    | _ => none
  | .handlerThrows w message permanent =>
    match s.exec w with
    | some ⟨job, .handling⟩ => some (s.setPhase w ⟨job, .handling⟩ (.threw message permanent))
    | _ => none
  | .complete w now ack =>
    match s.exec w with
    | some ⟨job, .returned result⟩ =>
      let s' := s.commit ack job.id (completeJob now result)
      match ack with
      | .ok => some (s'.setPhase w ⟨job, .returned result⟩ .ended)
      -- an error out of the completion is caught with the handler's, and fails the attempt
      | .lost error | .refused error =>
        some (s'.setPhase w ⟨job, .returned result⟩ (.threw error false))
    | _ => none
  | .fail w now ack =>
    match s.exec w with
    | some ⟨job, .threw message permanent⟩ =>
      some ((s.commit ack job.id (failAttempt cfg.tuning now job message permanent)).setPhase w
        ⟨job, .threw message permanent⟩ .ended)
    | _ => none
  | .crash w =>
    match s.exec w with
    | some e => some (s.setPhase w e .ended)
    | none => none
  | .reap staleAfterMs now =>
    some { s with row := fun id => (s.row id).map fun row =>
      (reapStuck staleAfterMs now row).getD row }
  | .cancel id reason now => some (s.update id (cancelOn now reason))
  | .reschedule id runAt => some (s.update id (rescheduleOn runAt))

/-- The queue as a transition system. -/
def queue (cfg : Config) : Transition.System State Action := ⟨step cfg⟩

/-! ## Superseded executions -/

/-- The job of an execution has been claimed again since. -/
def Superseded (s : State) (e : Execution) : Prop :=
  ∃ row, s.row e.job.id = some row ∧ row.attempts ≠ e.job.attempts

/-- The action is a write of execution `w` to its job: its completion, its failure or one of its
heartbeats. -/
def Action.writesFor (w : Nat) : Action → Prop
  | .complete v _ _ => v = w
  | .fail v _ _ => v = w
  | .progress v _ _ => v = w
  | _ => False

/-- **The condition the queue is safe under**: no write of a superseded execution arrives while
its job is running, which by then is somebody else's run. -/
def Fenced (s : State) (a : Action) : Prop :=
  ∀ w e, s.exec w = some e → a.writesFor w → Superseded s e →
    ∀ row, s.row e.job.id = some row → row.status ≠ .running

/-! ## What every fenced run keeps -/

/-- What holds of the rows and the executions. -/
structure Inv (s : State) : Prop where
  /-- A job is filed under its id. -/
  rowId : ∀ id row, s.row id = some row → row.id = id
  /-- No job has been claimed more often than it may be. -/
  attempts_le : ∀ id row, s.row id = some row → row.attempts ≤ row.maxAttempts
  /-- A job that can be claimed has an attempt left. -/
  queued_lt : ∀ id row, s.row id = some row → row.status = .queued →
    row.attempts < row.maxAttempts
  /-- An execution was handed a row of the table, no newer than what is there now. -/
  exec_row : ∀ w e, s.exec w = some e → ∃ row, s.row e.job.id = some row ∧
    row.maxAttempts = e.job.maxAttempts ∧ 1 ≤ e.job.attempts ∧ e.job.attempts ≤ row.attempts
  /-- Two executions of one job were claimed as different attempts. -/
  exec_distinct : ∀ w e w' e', s.exec w = some e → s.exec w' = some e' → e.job.id = e'.job.id →
    e.job.attempts = e'.job.attempts → w = w'
  /-- No attempt starts the handler twice. -/
  started_nodup : s.started.Nodup
  /-- Every start is of an attempt the job has been claimed for. -/
  started_row : ∀ p ∈ s.started, ∃ row, s.row p.1 = some row ∧ 1 ≤ p.2 ∧ p.2 ≤ row.attempts
  /-- An execution that has not looked up its handler has not started it. -/
  claimed_fresh : ∀ w e, s.exec w = some e → e.phase = .claimed →
    (e.job.id, e.job.attempts) ∉ s.started

theorem inv_init : Inv init := by
  constructor <;> simp [init]

/-! ### The state's updates -/

@[simp] theorem update_exec (s : State) (id : Nat) (f : JobRow → Option JobRow) :
    (s.update id f).exec = s.exec := by
  unfold State.update; split <;> rfl

@[simp] theorem update_started (s : State) (id : Nat) (f : JobRow → Option JobRow) :
    (s.update id f).started = s.started := by
  unfold State.update; split <;> rfl

@[simp] theorem commit_exec (s : State) (ack : Ack) (id : Nat) (f : JobRow → Option JobRow) :
    (s.commit ack id f).exec = s.exec := by
  unfold State.commit; split <;> simp

@[simp] theorem setPhase_row (s : State) (w : Nat) (e : Execution) (phase : Phase) :
    (s.setPhase w e phase).row = s.row := rfl

/-- An update leaves a row alone, or replaces the row of its id by what the statement makes of
it. -/
theorem update_row (s : State) (id : Nat) (f : JobRow → Option JobRow) (i : Nat) :
    (s.update id f).row i = s.row i ∨
      (i = id ∧ ∃ row row', s.row id = some row ∧ f row = some row' ∧
        (s.update id f).row i = some row') := by
  unfold State.update
  cases h : (s.row id).bind f with
  | none => exact .inl rfl
  | some row' =>
    by_cases hi : i = id
    · subst hi
      obtain ⟨row, hrow, hf⟩ := bind_eq_some_iff.mp h
      exact .inr ⟨rfl, row, row', hrow, hf, update_self ..⟩
    · exact .inl (update_of_ne hi ..)

variable {s s' : State} {f : JobRow → Option JobRow} {row : JobRow} {w i : Nat} {cfg : Config}
  {a : Action} {id : Nat}

/-- An update whose statement does not match changes nothing. -/
theorem update_of_none (h : ∀ row, s.row id = some row → f row = none) :
    s.update id f = s := by
  unfold State.update
  cases hrow : s.row id with
  | none => rfl
  | some row => simp [h row hrow]

/-! ### The invariant, by what changes -/

/-- What a row may become: the same job, no fewer attempts spent, none too many, and one left when
it can be claimed. -/
structure Advances (row row' : JobRow) : Prop where
  id : row'.id = row.id
  maxAttempts : row'.maxAttempts = row.maxAttempts
  attempts : row.attempts ≤ row'.attempts
  attempts_le : row'.attempts ≤ row'.maxAttempts
  queued_lt : row'.status = .queued → row'.attempts < row'.maxAttempts

section

variable (h : Inv s)
include h

theorem Inv.advances_self (hrow : s.row id = some row) : Advances row row :=
  ⟨rfl, rfl, Nat.le_refl _, h.attempts_le _ _ hrow, h.queued_lt _ _ hrow⟩

/-- The rows may advance and new ones appear, as long as the executions and starts stay. -/
theorem Inv.rows (hexec : s'.exec = s.exec) (hstarted : s'.started = s.started)
    (hold : ∀ id row, s.row id = some row → ∃ row', s'.row id = some row' ∧ Advances row row')
    (hnew : ∀ id row', s'.row id = some row' → s.row id = none →
      row'.id = id ∧ row'.attempts < row'.maxAttempts) : Inv s' := by
  have hrows : ∀ id row', s'.row id = some row' → row'.id = id ∧
      row'.attempts ≤ row'.maxAttempts ∧
        (row'.status = .queued → row'.attempts < row'.maxAttempts) := by
    intro id row' hrow'
    cases hrow : s.row id with
    | none =>
      obtain ⟨hid, hlt⟩ := hnew id row' hrow' hrow
      exact ⟨hid, Nat.le_of_lt hlt, fun _ => hlt⟩
    | some row =>
      obtain ⟨row₁, hrow₁, hadv⟩ := hold id row hrow
      obtain rfl : row₁ = row' := some.inj (hrow₁.symm.trans hrow')
      exact ⟨hadv.id.trans (h.rowId id row hrow), hadv.attempts_le, hadv.queued_lt⟩
  refine ⟨fun id row hr => (hrows id row hr).1, fun id row hr => (hrows id row hr).2.1,
    fun id row hr => (hrows id row hr).2.2, ?_, ?_, ?_, ?_, ?_⟩
  · intro w e he
    rw [hexec] at he
    obtain ⟨row, hrow, hmax, hone, hle⟩ := h.exec_row w e he
    obtain ⟨row', hrow', hadv⟩ := hold _ _ hrow
    exact ⟨row', hrow', hadv.maxAttempts.trans hmax, hone, Nat.le_trans hle hadv.attempts⟩
  · rw [hexec]; exact h.exec_distinct
  · rw [hstarted]; exact h.started_nodup
  · intro p hp
    rw [hstarted] at hp
    obtain ⟨row, hrow, hone, hle⟩ := h.started_row p hp
    obtain ⟨row', hrow', hadv⟩ := hold _ _ hrow
    exact ⟨row', hrow', hone, Nat.le_trans hle hadv.attempts⟩
  · rw [hexec, hstarted]; exact h.claimed_fresh

section

variable (hf : ∀ row row', s.row id = some row → f row = some row' → Advances row row')
include hf

/-- One statement, on a row it lets advance. -/
theorem Inv.update : Inv (s.update id f) := by
  refine h.rows (update_exec ..) (update_started ..) ?_ ?_
  · intro i row hrow
    rcases update_row s id f i with heq | ⟨rfl, row₀, row', hrow₀, hstmt, heq⟩
    · exact ⟨row, heq.trans hrow, h.advances_self hrow⟩
    · obtain rfl : row₀ = row := some.inj (hrow₀.symm.trans hrow)
      exact ⟨row', heq, hf _ _ hrow₀ hstmt⟩
  · intro i row' hrow' hnone
    rcases update_row s id f i with heq | ⟨rfl, row₀, _, hrow₀, _, _⟩
    · rw [heq, hnone] at hrow'; cases hrow'
    · rw [hnone] at hrow₀; cases hrow₀

theorem Inv.commit {ack : Ack} : Inv (s.commit ack id f) := by
  unfold State.commit
  split
  · exact h.update hf
  · exact h

end

/-- An execution moves on, past the lookup of its handler. -/
theorem Inv.setPhase {e : Execution} {phase : Phase} (he : s.exec w = some e)
    (hphase : phase ≠ .claimed) : Inv (s.setPhase w e phase) := by
  have hexec : ∀ v e', (s.setPhase w e phase).exec v = some e' →
      ∃ e₀, s.exec v = some e₀ ∧ e₀.job = e'.job ∧ (e'.phase = .claimed → e₀ = e') := by
    intro v e' hv
    by_cases hvw : v = w
    · subst hvw
      obtain rfl : { e with phase := phase } = e' := by
        simpa [State.setPhase] using hv
      exact ⟨e, he, rfl, fun hc => absurd hc hphase⟩
    · have hv' : s.exec v = some e' := by
        simpa [State.setPhase, update_of_ne hvw] using hv
      exact ⟨e', hv', rfl, fun _ => rfl⟩
  refine ⟨h.rowId, h.attempts_le, h.queued_lt, ?_, ?_, h.started_nodup, h.started_row, ?_⟩
  · intro v e' hv
    obtain ⟨e₀, he₀, hjob, -⟩ := hexec v e' hv
    rw [← hjob]
    exact h.exec_row v e₀ he₀
  · intro v e₁ v' e₂ hv hv' hid hatt
    obtain ⟨e₃, he₃, hjob₃, -⟩ := hexec v e₁ hv
    obtain ⟨e₄, he₄, hjob₄, -⟩ := hexec v' e₂ hv'
    rw [← hjob₃, ← hjob₄] at hid hatt
    exact h.exec_distinct v e₃ v' e₄ he₃ he₄ hid hatt
  · intro v e' hv hc
    obtain ⟨e₀, he₀, -, heq⟩ := hexec v e' hv
    obtain rfl := heq hc
    exact h.claimed_fresh v e₀ he₀ hc

/-- A statement that leaves the attempts, and requeues only below the maximum. -/
theorem Inv.advances {row' : JobRow} (hrow : s.row id = some row)
    (hst : Statement row row') (hatt : row'.attempts = row.attempts)
    (hq : row'.status = .queued → row.attempts < row.maxAttempts) : Advances row row' where
  __ := hst
  attempts_le := by rw [hatt, hst.maxAttempts]; exact h.attempts_le id row hrow
  queued_lt hs := by rw [hatt, hst.maxAttempts]; exact hq hs

/-- A claim takes an attempt that was left, and starts an execution no other shares. -/
theorem Inv.claim {row' : JobRow} (hfree : s.exec w = none) (hrow : s.row id = some row)
    (hst : Statement row row') (hatt : row'.attempts = row.attempts + 1) (hq : row.status = .queued)
    (hrun : row'.status = .running) :
    Inv { s with
      row := Function.update s.row id (some row')
      exec := Function.update s.exec w (some ⟨row', .claimed⟩) } := by
  have hlt := h.queued_lt id row hrow hq
  have hid : row'.id = id := hst.id.trans (h.rowId id row hrow)
  have hadv : Advances row row' :=
    ⟨hst.id, hst.maxAttempts, hst.attempts, by rw [hatt, hst.maxAttempts]; omega,
      fun hs => absurd hs (by rw [hrun]; decide)⟩
  -- first the row, with nobody holding it yet
  have hrows : Inv { s with row := Function.update s.row id (some row') } := by
    refine h.rows rfl rfl ?_ ?_
    · intro i row₀ hrow₀
      by_cases hi : i = id
      · subst hi
        obtain rfl : row₀ = row := some.inj (hrow₀.symm.trans hrow)
        exact ⟨row', update_self .., hadv⟩
      · exact ⟨row₀, (update_of_ne hi ..).trans hrow₀, h.advances_self hrow₀⟩
    · intro i row₁ hrow₁ hnone
      by_cases hi : i = id
      · subst hi; rw [hnone] at hrow; cases hrow
      · have hrow₂ : s.row i = some row₁ := (update_of_ne hi ..).symm.trans hrow₁
        rw [hnone] at hrow₂; cases hrow₂
  have hexec : ∀ v e, Function.update s.exec w (some ⟨row', .claimed⟩) v = some e →
      (v = w ∧ e = ⟨row', .claimed⟩) ∨ (v ≠ w ∧ s.exec v = some e) := by
    intro v e hv
    by_cases hvw : v = w
    · subst hvw
      exact .inl ⟨rfl, (by simpa using hv : _ = e).symm⟩
    · exact .inr ⟨hvw, by rwa [update_of_ne hvw] at hv⟩
  -- an older execution of the job was claimed as an earlier attempt
  have holder : ∀ v e, s.exec v = some e → e.job.id = id → e.job.attempts < row'.attempts := by
    intro v e he heid
    obtain ⟨row₀, hrow₀, -, -, hle⟩ := h.exec_row v e he
    rw [heid, hrow] at hrow₀
    cases hrow₀
    omega
  refine ⟨hrows.rowId, hrows.attempts_le, hrows.queued_lt, ?_, ?_, h.started_nodup,
    hrows.started_row, ?_⟩
  · intro v e hv
    rcases hexec v e hv with ⟨rfl, rfl⟩ | ⟨-, he⟩
    · have hone : 1 ≤ row'.attempts := by omega
      exact ⟨row', by rw [hid]; exact update_self .., rfl, hone, Nat.le_refl _⟩
    · exact hrows.exec_row v e he
  · intro v e v' e' hv hv' heid heatt
    rcases hexec v e hv with ⟨rfl, rfl⟩ | ⟨hvw, he⟩ <;>
      rcases hexec v' e' hv' with ⟨rfl, rfl⟩ | ⟨hvw', he'⟩
    · rfl
    · have := holder v' e' he' (by rw [← heid]; exact hid)
      simp only at heatt; omega
    · have := holder v e he (by rw [heid]; exact hid)
      simp only at heatt; omega
    · exact h.exec_distinct v e v' e' he he' heid heatt
  · intro v e hv hc
    rcases hexec v e hv with ⟨rfl, rfl⟩ | ⟨-, he⟩
    · intro hmem
      obtain ⟨row₀, hrow₀, -, hle⟩ := h.started_row _ hmem
      simp only [hid, hrow, some.injEq] at hrow₀ hle
      subst hrow₀
      omega
    · exact h.claimed_fresh v e he hc

/-- A start is of an attempt that had not been started. -/
theorem Inv.start {job : JobRow} (he : s.exec w = some ⟨job, .claimed⟩) :
    Inv { s.setPhase w ⟨job, .claimed⟩ .handling with
      started := s.started ++ [(job.id, job.attempts)] } := by
  have hp : Inv (s.setPhase w ⟨job, .claimed⟩ .handling) := h.setPhase he (by simp)
  obtain ⟨row, hrow, -, hone, hle⟩ := h.exec_row w _ he
  have hfresh := h.claimed_fresh w _ he rfl
  refine ⟨hp.rowId, hp.attempts_le, hp.queued_lt, hp.exec_row, hp.exec_distinct, ?_, ?_, ?_⟩
  · rw [List.nodup_append]
    refine ⟨h.started_nodup, by simp, ?_⟩
    intro p hp' q hq heq
    rw [List.mem_singleton] at hq
    exact hfresh (hq ▸ heq ▸ hp')
  · intro p hp'
    rcases List.mem_append.mp hp' with hold | hnew
    · exact h.started_row p hold
    · obtain rfl := List.mem_singleton.mp hnew
      exact ⟨row, hrow, hone, hle⟩
  · intro v e hv hc hmem
    rcases List.mem_append.mp hmem with hold | hnew
    · exact hp.claimed_fresh v e hv hc hold
    · obtain ⟨hid, hatt⟩ := Prod.mk.injEq .. ▸ List.mem_singleton.mp hnew
      have hw := hp.exec_distinct v e w ⟨job, .handling⟩ hv (by simp [State.setPhase]) hid hatt
      subst hw
      obtain rfl : ⟨job, .handling⟩ = e := by simpa [State.setPhase] using hv
      cases hc

/-- A job is created with its attempts before it. -/
theorem Inv.create {type : String} {maxAttempts : Nat} {runAt : Option Int} {now : Int}
    (hnone : s.row id = none) (hins : insert id type maxAttempts runAt now = some row) :
    Inv { s with row := Function.update s.row id (some row) } := by
  obtain ⟨hid, hatt⟩ : row.id = id ∧ row.attempts < row.maxAttempts := by
    unfold insert at hins
    split at hins
    · rename_i hcheck
      cases hins
      exact ⟨rfl, Nat.lt_of_lt_of_le Nat.zero_lt_one hcheck.1⟩
    · cases hins
  refine h.rows rfl rfl ?_ ?_
  · intro i row₀ hrow₀
    have hi : i ≠ id := by rintro rfl; rw [hnone] at hrow₀; cases hrow₀
    exact ⟨row₀, (update_of_ne hi ..).trans hrow₀, h.advances_self hrow₀⟩
  · intro i row₁ hrow₁ hnone₁
    by_cases hi : i = id
    · subst hi
      obtain rfl : row = row₁ := by simpa using hrow₁
      exact ⟨hid, hatt⟩
    · have hrow₂ : s.row i = some row₁ := (update_of_ne hi ..).symm.trans hrow₁
      rw [hnone₁] at hrow₂; cases hrow₂

/-- The failure of an attempt is decided by the execution's own copy of the attempt counter, so
that the row must still be its own. -/
theorem Inv.fail {job : JobRow} {message : String} {permanent : Bool} {now : Int} {ack : Ack}
    (hf : Fenced s (.fail w now ack)) (he : s.exec w = some ⟨job, .threw message permanent⟩) :
    Inv ((s.commit ack job.id (failAttempt cfg.tuning now job message permanent)).setPhase w
      ⟨job, .threw message permanent⟩ .ended) := by
  have hc : Inv (s.commit ack job.id (failAttempt cfg.tuning now job message permanent)) := by
    refine h.commit fun row row' hrow hstmt => ?_
    obtain ⟨hst, hatt, hrun, hend⟩ := failAttempt_spec hstmt
    -- the row is running, so the execution that fails it is the one that holds it
    have hcur : row.attempts = job.attempts := by
      by_contra hne
      exact hf w _ he rfl ⟨row, hrow, hne⟩ row hrow hrun
    obtain ⟨row₀, hrow₀, hmax, -, -⟩ := h.exec_row w _ he
    obtain rfl : row = row₀ := some.inj (hrow.symm.trans hrow₀)
    refine h.advances hrow hst hatt fun hq => ?_
    rcases hend with hdead | ⟨-, hlt⟩
    · rw [hdead] at hq; cases hq
    · rw [hcur, hmax]; exact hlt
  exact hc.setPhase (by rw [commit_exec]; exact he) (by simp)

/-- A reaper dead-letters a job whose attempts are spent, and requeues the others. -/
theorem Inv.reap (staleAfterMs now : Int) :
    Inv { s with row := fun id => (s.row id).map fun row =>
      (reapStuck staleAfterMs now row).getD row } := by
  refine h.rows rfl rfl ?_ ?_
  · intro id row hrow
    refine ⟨(reapStuck staleAfterMs now row).getD row, by simp [hrow], ?_⟩
    cases hreap : reapStuck staleAfterMs now row with
    | none => exact h.advances_self hrow
    | some row' =>
      obtain ⟨hst, hatt, -, hend⟩ := reapStuck_spec hreap
      refine h.advances hrow hst hatt fun hq => ?_
      rcases hend with hdead | ⟨-, hlt⟩
      · rw [getD_some] at hq; rw [hdead] at hq; cases hq
      · exact hlt
  · intro id row' hrow' hnone
    simp [hnone] at hrow'

/-- **One step.**  Every action that meets the condition keeps the invariant; it is only the
failure of an attempt that needs it, since that is decided by the execution's own copy of the
attempt counter. -/
theorem inv_step (hf : Fenced s a) (hs : step cfg s a = some s') : Inv s' := by
  cases a with
  | create id type maxAttempts runAt now =>
    simp only [step] at hs
    split at hs
    · rename_i row hnone hins
      cases hs
      exact h.create hnone hins
    · cases hs
  | claim w id workerId now =>
    simp only [step] at hs
    split at hs
    · rename_i row' hfree hbind
      cases hs
      obtain ⟨row, hrow, hclaim⟩ := bind_eq_some_iff.mp hbind
      obtain ⟨hst, hatt, hq, hrun⟩ := claimOn_spec hclaim
      exact h.claim hfree hrow hst hatt hq hrun
    · cases hs
  | start w =>
    simp only [step] at hs
    split at hs
    · rename_i job he
      split at hs
      · cases hs; exact h.start he
      · cases hs; exact h.setPhase he (by simp)
    · cases hs
  | progress w percent now =>
    simp only [step] at hs
    split at hs
    · cases hs
      refine h.update fun row row' hrow hstmt => ?_
      obtain ⟨hst, hatt, -, hrun⟩ := reportProgress_spec hstmt
      exact h.advances hrow hst hatt fun hq => absurd hq (by rw [hrun]; decide)
    · cases hs
  | handlerReturns _ _ | handlerThrows _ _ _ =>
    simp only [step] at hs
    split at hs
    · rename_i job he
      cases hs; exact h.setPhase he (by simp)
    · cases hs
  | complete w now ack =>
    simp only [step] at hs
    split at hs
    · rename_i job result he
      have hc : Inv (s.commit ack job.id (completeJob now result)) := by
        refine h.commit fun row row' hrow hstmt => ?_
        obtain ⟨hst, hatt, -, hend⟩ := completeJob_spec hstmt
        exact h.advances hrow hst hatt fun hq => absurd hq (by rw [hend]; decide)
      have he' : (s.commit ack job.id (completeJob now result)).exec w =
          some ⟨job, .returned result⟩ := by rw [commit_exec]; exact he
      cases ack <;> (cases hs; exact hc.setPhase he' (by simp))
    · cases hs
  | fail w now ack =>
    simp only [step] at hs
    split at hs
    · rename_i job message permanent he
      cases hs
      exact h.fail hf he
    · cases hs
  | crash w =>
    simp only [step] at hs
    split at hs
    · rename_i e he
      cases hs; exact h.setPhase he (by simp)
    · cases hs
  | reap staleAfterMs now =>
    cases hs
    exact h.reap staleAfterMs now
  | cancel id reason now =>
    cases hs
    refine h.update fun row row' hrow hstmt => ?_
    obtain ⟨hst, hatt, hend⟩ := cancelOn_spec hstmt
    exact h.advances hrow hst hatt fun hq => absurd hq (by rw [hend]; decide)
  | reschedule id runAt =>
    cases hs
    refine h.update fun row row' hrow hstmt => ?_
    obtain ⟨hst, hatt, hq, -⟩ := rescheduleOn_spec hstmt
    exact h.advances hrow hst hatt fun _ => h.queued_lt id row hrow hq

end

/-! ## What follows -/

/-- The attempts a job's handler was started for are distinct ones it has been claimed for. -/
theorem Inv.starts_ledger (h : Inv s) (hrow : s.row id = some row) :
    Ledger row.attempts ((s.started.filter fun p => p.1 = id).map Prod.snd) := by
  refine ⟨?_, ?_⟩
  · refine List.Nodup.map_on ?_ (h.started_nodup.filter _)
    rintro ⟨i, m⟩ hp ⟨j, n⟩ hq heq
    have hi := (List.mem_filter.mp hp).2
    have hj := (List.mem_filter.mp hq).2
    simp only [decide_eq_true_eq] at hi hj heq
    rw [hi, hj, heq]
  · intro n hn
    obtain ⟨⟨i, m⟩, hp, rfl⟩ := List.mem_map.mp hn
    obtain ⟨hmem, hi⟩ := List.mem_filter.mp hp
    obtain rfl : i = id := by simpa using hi
    obtain ⟨row₀, hrow₀, hone, hle⟩ := h.started_row _ hmem
    obtain rfl : row₀ = row := some.inj (hrow₀.symm.trans hrow)
    exact ⟨hone, hle⟩

theorem Inv.starts_le (h : Inv s) (hrow : s.row id = some row) :
    s.starts id ≤ row.maxAttempts :=
  calc s.starts id = ((s.started.filter fun p => p.1 = id).map Prod.snd).length :=
        (List.length_map ..).symm
    _ ≤ row.attempts := (h.starts_ledger hrow).length_le
    _ ≤ row.maxAttempts := h.attempts_le _ _ hrow

section

variable (hf : ∀ row row', f row = some row' → Statement row row')
include hf

/-- An update by a statement that finds its row alive leaves the ended ones. -/
theorem update_keeps_ended (hrow : s.row i = some row) (hend : row.status.terminal = true) :
    (s.update id f).row i = some row := by
  rcases update_row s id f i with heq | ⟨rfl, row₀, row', hrow₀, hstmt, -⟩
  · exact heq.trans hrow
  · obtain rfl : row₀ = row := some.inj (hrow₀.symm.trans hrow)
    rw [(hf _ _ hstmt).not_terminal] at hend
    cases hend

theorem commit_keeps_ended {ack : Ack} (hrow : s.row i = some row)
    (hend : row.status.terminal = true) : (s.commit ack id f).row i = some row := by
  unfold State.commit
  split
  · exact update_keeps_ended hf hrow hend
  · exact hrow

end

/-- **A job that has ended is not touched again**, by any action and under no condition. -/
theorem step_keeps_ended (hs : step cfg s a = some s') (hrow : s.row i = some row)
    (hend : row.status.terminal = true) : s'.row i = some row := by
  cases a with
  | create id type maxAttempts runAt now =>
    simp only [step] at hs
    split at hs
    · rename_i new hnone _
      cases hs
      have hi : i ≠ id := by rintro rfl; rw [hnone] at hrow; cases hrow
      exact (update_of_ne hi ..).trans hrow
    · cases hs
  | claim w id workerId now =>
    simp only [step] at hs
    split at hs
    · rename_i row' _ hbind
      cases hs
      obtain ⟨row₀, hrow₀, hclaim⟩ := bind_eq_some_iff.mp hbind
      have hi : i ≠ id := by
        rintro rfl
        obtain rfl : row₀ = row := some.inj (hrow₀.symm.trans hrow)
        rw [(claimOn_spec hclaim).1.not_terminal] at hend
        cases hend
      exact (update_of_ne hi ..).trans hrow
    · cases hs
  | start w =>
    simp only [step] at hs
    split at hs
    · split at hs <;> (cases hs; exact hrow)
    · cases hs
  | progress w percent now =>
    simp only [step] at hs
    split at hs
    · cases hs
      exact update_keeps_ended (fun _ _ h => (reportProgress_spec h).1) hrow hend
    · cases hs
  | handlerReturns _ _ | handlerThrows _ _ _ | crash _ =>
    simp only [step] at hs
    split at hs
    · cases hs; exact hrow
    · cases hs
  | complete w now ack =>
    simp only [step] at hs
    split at hs
    · cases ack <;>
        (cases hs; exact commit_keeps_ended (fun _ _ h => (completeJob_spec h).1) hrow hend)
    · cases hs
  | fail w now ack =>
    simp only [step] at hs
    split at hs
    · cases hs
      exact commit_keeps_ended (fun _ _ h => (failAttempt_spec h).1) hrow hend
    · cases hs
  | reap staleAfterMs now =>
    cases hs
    have hnone : reapStuck staleAfterMs now row = none := by
      cases hreap : reapStuck staleAfterMs now row with
      | none => rfl
      | some row' =>
        rw [(reapStuck_spec hreap).1.not_terminal] at hend
        cases hend
    simp [hrow, hnone]
  | cancel id reason now =>
    cases hs
    exact update_keeps_ended (fun _ _ h => (cancelOn_spec h).1) hrow hend
  | reschedule id runAt =>
    cases hs
    exact update_keeps_ended (fun _ _ h => (rescheduleOn_spec h).1) hrow hend

theorem run_keeps_ended {as : List Action} (hrun : (queue cfg).run s as = some s')
    (hrow : s.row i = some row) (hend : row.status.terminal = true) : s'.row i = some row :=
  (queue cfg).invariant_run (I := fun t => t.row i = some row)
    (fun _ _ _ ht hs => step_keeps_ended hs ht hend) hrow hrun

/-- Under the condition a superseded execution's write finds its job no longer running, and changes
nothing. -/
theorem stale_write_unchanged {e : Execution} (he : s.exec w = some e) (hw : a.writesFor w)
    (hsup : Superseded s e) (hf : Fenced s a) (hs : step cfg s a = some s') : s'.row = s.row := by
  have hidle := hf w e he hw hsup
  have hkeep : ∀ f : JobRow → Option JobRow,
      (∀ row row', f row = some row' → row.status = .running) → s.update e.job.id f = s := by
    intro f hrunning
    refine update_of_none fun row hrow => ?_
    cases hstmt : f row with
    | none => rfl
    | some row' => exact absurd (hrunning _ _ hstmt) (hidle row hrow)
  have hcommit : ∀ (ack : Ack) (f : JobRow → Option JobRow),
      (∀ row row', f row = some row' → row.status = .running) →
        s.commit ack e.job.id f = s := by
    intro ack f hrunning
    unfold State.commit
    split
    · exact hkeep f hrunning
    · rfl
  cases a with
  | progress v percent now =>
    obtain rfl : v = w := hw
    simp only [step, he, some.injEq] at hs
    rw [← hs, hkeep _ fun _ _ h => (reportProgress_spec h).2.2.1]
  | complete v now ack =>
    obtain rfl : v = w := hw
    obtain ⟨job, phase⟩ := e
    simp only [step, he] at hs
    split at hs
    · rename_i job' result heq
      cases heq
      have hc := hcommit ack (completeJob now result) fun _ _ h => (completeJob_spec h).2.2.1
      cases ack <;> (cases hs; rw [setPhase_row, hc])
    · cases hs
  | fail v now ack =>
    obtain rfl : v = w := hw
    obtain ⟨job, phase⟩ := e
    simp only [step, he] at hs
    split at hs
    · rename_i job' message permanent heq
      cases heq
      have hc := hcommit ack (failAttempt cfg.tuning now job message permanent)
        fun _ _ h => (failAttempt_spec h).2.2.1
      cases hs
      rw [setPhase_row, hc]
    · cases hs
  | _ => exact hw.elim

/-- **Fencing.**  In every run in which no superseded execution writes to the running job, a
handler is started at most `max_attempts` times, an ended job stays as it is whatever happens
next, and the write of a superseded execution changes no row. -/
theorem fencing_along {cfg : Config} {as : List Action} {s : State}
    (hrun : (queue cfg).run init as = some s) (hfenced : (queue cfg).Along Fenced init as) :
    (∀ id row, s.row id = some row → s.starts id ≤ row.maxAttempts) ∧
    (∀ bs s' id row, (queue cfg).run s bs = some s' → s.row id = some row →
      row.status.terminal = true → s'.row id = some row) ∧
    (∀ w e a s', s.exec w = some e → a.writesFor w → Superseded s e → Fenced s a →
      (queue cfg).step s a = some s' → s'.row = s.row) := by
  have hinv : Inv s :=
    (queue cfg).invariant_along (fun _ _ _ hi hp hs => inv_step hi hp hs) inv_init hfenced hrun
  refine ⟨fun id row hrow => hinv.starts_le hrow, ?_, ?_⟩
  · intro bs s' id row hrun' hrow hend
    exact run_keeps_ended hrun' hrow hend
  · intro w e a s' he hw hsup hf hs
    exact stale_write_unchanged he hw hsup hf hs

/-- A deployment with one job type. -/
def oneType : Config := ⟨["message.release"], ⟨5000, 300000⟩⟩

/-- An action no execution writes with meets the condition in every state. -/
theorem fenced_of_not_write (h : ∀ w, ¬ a.writesFor w) (s : State) : Fenced s a :=
  fun w _ _ hw => absurd hw (h w)

/-- A job that is claimed, run and completed, and cancelled too late. -/
def quietRun : List Action :=
  [.create 0 "message.release" 2 none 0, .claim 0 0 "a" 0, .start 0, .handlerReturns 0 "sent",
   .complete 0 1000 .ok, .cancel 0 none 2000]

theorem quietRun_fenced : (queue oneType).Along Fenced init quietRun := by
  have hcomplete : ∀ s, (queue oneType).run init (quietRun.take 4) = some s →
      Fenced s (.complete 0 1000 .ok) := by
    intro s hs w e he hw
    cases hs
    obtain rfl : 0 = w := hw
    cases he
    rintro ⟨row, hrow, hne⟩
    cases hrow
    exact absurd rfl hne
  iterate 4 refine Transition.System.along_cons _ rfl (fenced_of_not_write (fun _ => id) _) ?_
  refine Transition.System.along_cons _ rfl (hcomplete _ rfl) ?_
  exact Transition.System.along_cons _ rfl (fenced_of_not_write (fun _ => id) _) trivial

theorem fencing_along_quietRun :
    ∃ s, (queue oneType).run init quietRun = some s ∧
      (∀ id row, s.row id = some row → s.starts id ≤ row.maxAttempts) :=
  ⟨_, rfl, (fencing_along rfl quietRun_fenced).1⟩

/-- A job allowed two attempts, whose first worker is reaped while it is still running. -/
def staleRun : List Action :=
  [.create 0 "message.release" 2 none 0, .claim 0 0 "a" 0, .start 0,
   -- the first worker's heartbeat is late, and its claim is given to a second worker
   .reap 1000 5000, .claim 1 0 "b" 5000, .start 1,
   -- the first worker fails its attempt: one of two by its own copy, so the job is requeued
   .handlerThrows 0 "carrier refused" false, .fail 0 6000 .ok,
   .claim 2 0 "c" 11000, .start 2]

/-- The second worker's run is requeued under it and the handler started a third time. -/
theorem stale_execution_requeues :
    ¬ ∀ as s, (queue oneType).run init as = some s →
      ∀ id row, s.row id = some row → s.starts id ≤ row.maxAttempts := by
  intro h
  obtain ⟨s, hs, row, hrow, hmax, hstarts⟩ : ∃ s, (queue oneType).run init staleRun = some s ∧
      ∃ row, s.row 0 = some row ∧ row.maxAttempts = 2 ∧ s.starts 0 = 3 :=
    ⟨_, rfl, _, rfl, rfl, rfl⟩
  have := h staleRun s hs 0 row hrow
  omega

end Jkannel.Platform.JobQueue

