import Jkannel.Platform.Workers
import Jkannel.Retry.Terminal

/-!
# Who will resolve a chain

A chain that is open is resolved by a dispatch, and a dispatch is a job of the queue: one for each
attempt, under a key of its own, so that asking for it again gives back the job that is there.
This file puts the chain and its jobs together.  An execution of a job claims it, runs the handler,
which is one dispatch of the chain's machine, and completes or fails the job; it may die, and the
queue may take the job back, give up on it, or have it cancelled.

* `step` is the machine, over the chain's own `Retry.step`.
* `Resolvable` is what the platform means to guarantee: an open chain has a job that is queued or
  running.
* `Tended` is the condition it holds under, `open_chain_has_job` says so for every run.
* `Cover` is the invariant: one of those jobs is in hands that cannot put it down with the chain
  still open.  `dispatch_cover` is why, by the phases of a dispatch.
* `chains_strand` are the runs that leave a chain open for good.
-/

namespace Jkannel.Retry.DispatchJobs

open Transition.System (along_cons)
open Option
open Function (update update_self update_of_ne)
open Platform (JobRow RetryTuning Grip Holds StaysLive updateJob updateJob_self updateJob_of_ne
  updateJob_eq_none staysLive_refl staysLive_updateJob staysLive_of_ne live_of_queued
  live_of_running)
open Transition (Ack)

def DELIVERY_RETRY_DISPATCH_JOB_TYPE : String := "delivery.retry.dispatch"

/-- The queue's own budget for a dispatch. -/
def DELIVERY_RETRY_DISPATCH_MAX_ATTEMPTS : Nat := 4

/-! ## The machine -/

/-- What an execution is doing with its job. -/
inductive Hand where
  /-- It has claimed the job. -/
  | claimed
  /-- It is in `dispatch`. -/
  | handling
  /-- The handler returned. -/
  | returned
  /-- The handler threw, or the completion did. -/
  | threw (message : String) (permanent : Bool)
  /-- It is done with the job, or dead. -/
  | ended
  deriving DecidableEq

/-- One claim of a job. -/
structure Execution where
  /-- The attempt the job was enqueued for. -/
  attemptNo : Nat
  /-- The row as the claim returned it. -/
  job : JobRow
  hand : Hand

/-- The chain with its dispatches, and the queue's side of them. -/
structure State where
  core : Retry.State
  /-- The dispatch jobs, by the attempt their idempotency key names. -/
  job : Nat → Option JobRow
  /-- The executions, under the names of the dispatches they run. -/
  execution : Nat → Option Execution

def init : State := ⟨Retry.init, fun _ => none, fun _ => none⟩

/-- One step of a scan, request or worker. -/
inductive Action where
  /-- The engine writes a delivery report. -/
  | report (place ref : Nat) (event : Int)
  /-- A scan opens the chain. -/
  | ingest (origin : Nat) (smscId : String) (maxAttempts : Nat) (refused : Option String)
      (delaySeconds now : Int)
  /-- A scan continues it. -/
  | continueWith (ref : Nat) (event : Int) (smscId : String) (delaySeconds now : Int)
  /-- A scan settles it. -/
  | settle (a : Retry.Action)
  /-- `claimNext`. -/
  | claimJob (w attemptNo : Nat) (workerId : String) (now : Int)
  /-- `dispatch` reads the chain and the policy. -/
  | begin (w : Nat) (enabled : Bool)
  /-- `dispatch` goes on. -/
  | dispatch (w : Nat) (a : Retry.Action)
  /-- A read fails, or a progress report, and the handler throws. -/
  | throws (w : Nat) (message : String) (permanent : Bool)
  /-- The worker dies. -/
  | dies (w : Nat)
  /-- A heartbeat or a progress report lands. -/
  | progress (w : Nat) (percent now : Int)
  /-- `completeJob`. -/
  | complete (w : Nat) (result : String) (now : Int) (ack : Ack)
  /-- `failAttempt`. -/
  | fail (w : Nat) (now : Int) (ack : Ack)
  /-- `reapStuck`, on one job. -/
  | reap (attemptNo : Nat) (staleAfterMs now : Int)
  /-- `cancelOn`. -/
  | cancel (attemptNo : Nat) (reason : Option String) (now : Int)

/-- `enqueueDispatch`: the job of the attempt, a new one unless there is one already. -/
def enqueueDispatch (job : Nat → Option JobRow) (attemptNo : Nat) (delaySeconds now : Int) :
    Nat → Option JobRow :=
  match job attemptNo with
  | some _ => job
  | none => update job attemptNo (Platform.insert attemptNo
      DELIVERY_RETRY_DISPATCH_JOB_TYPE DELIVERY_RETRY_DISPATCH_MAX_ATTEMPTS
      (if 0 < delaySeconds then some (now + delaySeconds * 1000) else none) now)

def State.setHand (s : State) (w : Nat) (x : Execution) (hand : Hand) : State :=
  { s with execution := update s.execution w (some { x with hand := hand }) }

/-- What a transaction that did not end well throws. -/
def thrown : Ack → Hand
  | .ok => .returned
  | .lost error | .refused error => .threw error false

/-- How the handler ends by the action that ends the dispatch. -/
def endsBy : Retry.Action → Hand
  | .claim _ ack | .finish _ ack => thrown ack
  | _ => .returned

/-- The actions of a dispatch after its first read. -/
def drives (w : Nat) (a : Retry.Action) : Bool :=
  match a with
  | .load _ _ | .crash _ => false
  | _ => decide (a.actor = some w)

/-- The actions that settle a chain. -/
def settles : Retry.Action → Bool
  | .settleLoad _ | .settleRead _ | .settleFinish _ _ => true
  | _ => false

/-- The dispatch an execution runs is over. -/
def stopDispatch (core : Retry.State) (w : Nat) : Retry.State :=
  if (core.dispatcher w).isSome then core.setPhase w .ended else core

/-- The hand of an execution whose dispatch may have ended. -/
def handOf (core : Retry.State) (w : Nat) (ending : Hand) : Hand :=
  if core.dispatcher w = some .ended then ending else .handling

/-- What one action does to the chain `retryId` and its jobs. -/
@[grind =] def step (retryId : String) (tuning : RetryTuning) (s : State) : Action → Option State
  | .report place ref event =>
    (Retry.step retryId s.core (.report place ref event)).map fun core => { s with core := core }
  | .ingest origin smscId maxAttempts refused delaySeconds now =>
    match s.core.chain, openChain origin smscId maxAttempts refused with
    | none, some c => some { s with
        core := { s.core with chain := some c }
        job := if refused.isNone then enqueueDispatch s.job 1 delaySeconds now else s.job }
    | _, _ => some s
  | .continueWith ref event smscId delaySeconds now =>
    (Retry.step retryId s.core (.continueWith ref event smscId)).map fun core => { s with
      core := core
      job := match s.core.chain, core.chain with
        | some c, some c' =>
          if c.status = .resent ∧ c'.status = .pending then
            enqueueDispatch s.job (c.attempts + 1) delaySeconds now
          else s.job
        | _, _ => s.job }
  | .settle a =>
    if settles a then (Retry.step retryId s.core a).map fun core => { s with core := core }
    else none
  | .claimJob w n workerId now =>
    match s.execution w, (s.job n).bind (Platform.claimOn now workerId) with
    | none, some row => some { s with
        job := update s.job n (some row)
        execution := update s.execution w (some ⟨n, row, .claimed⟩) }
    | _, _ => none
  | .begin w enabled =>
    match s.execution w with
    | some ⟨n, job, .claimed⟩ =>
      (Retry.step retryId s.core (.load w enabled)).map fun core =>
        { s with core := core }.setHand w ⟨n, job, .claimed⟩ (handOf core w .returned)
    | _ => none
  | .dispatch w a =>
    match s.execution w with
    | some ⟨n, job, .handling⟩ =>
      if drives w a then
        (Retry.step retryId s.core a).map fun core =>
          { s with core := core }.setHand w ⟨n, job, .handling⟩ (handOf core w (endsBy a))
      else none
    | _ => none
  | .throws w message permanent =>
    match s.execution w with
    | some x =>
      if x.hand = .claimed ∨ x.hand = .handling ∨ x.hand = .returned then
        some ({ s with core := stopDispatch s.core w }.setHand w x (.threw message permanent))
      else none
    | none => none
  | .dies w =>
    match s.execution w with
    | some x => some ({ s with core := stopDispatch s.core w }.setHand w x .ended)
    | none => none
  | .progress w percent now =>
    match s.execution w with
    | some x => some { s with
        job := updateJob s.job x.attemptNo (Platform.reportProgress now percent) }
    | none => none
  | .complete w result now ack =>
    match s.execution w with
    | some ⟨n, job, .returned⟩ =>
      let jobs := if ack.committed then updateJob s.job n (Platform.completeJob now result)
        else s.job
      -- an error out of the completion is caught with the handler's, and fails the attempt
      some ({ s with job := jobs }.setHand w ⟨n, job, .returned⟩ (match ack with
          | .ok => .ended
          | .lost error | .refused error => .threw error false))
    | _ => none
  | .fail w now ack =>
    match s.execution w with
    | some ⟨n, job, .threw message permanent⟩ =>
      let jobs := if ack.committed then
        updateJob s.job n (Platform.failAttempt tuning now job message permanent) else s.job
      some ({ s with job := jobs }.setHand w ⟨n, job, .threw message permanent⟩ .ended)
    | _ => none
  | .reap n staleAfterMs now =>
    some { s with job := updateJob s.job n (Platform.reapStuck staleAfterMs now) }
  | .cancel n reason now =>
    some { s with job := updateJob s.job n (Platform.cancelOn now reason) }

/-- The chain and its jobs as a transition system. -/
def dispatchJobs (retryId : String) (tuning : RetryTuning) : Transition.System State Action :=
  ⟨step retryId tuning⟩

/-! ## What is promised, and when -/

/-- The chain is waiting for a dispatch, or in one. -/
def Open (s : State) : Prop := ∃ c, s.core.chain = some c ∧ c.status.claimable = true

/-- **What is promised**: an open chain has a dispatch job that is queued or running. -/
def Resolvable (s : State) : Prop :=
  Open s → ∃ n row, s.job n = some row ∧ row.live = true

/-- No execution is on the job of attempt `n`. -/
def Unattended (s : State) (n : Nat) : Prop :=
  ∀ w x, s.execution w = some x → x.attemptNo = n → x.hand = .ended

/-- **The condition**: no dispatch job is dead-lettered or cancelled while the chain is open, and
one is only taken back or cancelled when no execution is on it. -/
def Tended (s : State) : Action → Prop
  | .fail w _ ack => ack.committed = true → ∀ x message permanent row, s.execution w = some x →
      x.hand = .threw message permanent → s.job x.attemptNo = some row → row.status = .running →
      Platform.exhausted x.job permanent = true → ¬ Open s
  | .reap n staleAfterMs now => ∀ row, s.job n = some row →
      Platform.stale staleAfterMs now row = true →
      Unattended s n ∧ (row.maxAttempts ≤ row.attempts → ¬ Open s)
  | .cancel n _ _ => ∀ row, s.job n = some row → row.live = true → Unattended s n ∧ ¬ Open s
  | _ => True

/-! ## The invariant

Cover is what carries it: an open chain has a job that will see to it. -/

/-- What an execution's hand is to its job. -/
def Hand.grip : Hand → Option Grip
  | .claimed | .handling | .returned => some .running
  | .threw _ _ => some .late
  | .ended => none

/-- The job an execution is on. -/
def Execution.grip (x : Execution) : Option (Nat × Grip) :=
  x.hand.grip.map fun g => (x.attemptNo, g)

/-- The job each execution is on. -/
def on : (Nat → Option Execution) → Nat → Option (Nat × Grip) := Platform.onOf Execution.grip

/-- A dispatch in this phase, of a chain that has handed out `a`, will end with the chain closed,
or sent, or with an error: it cannot return and leave the chain as it was. -/
def promising (a : Nat) : Phase → Bool
  | .fenced n _ _ _ => n = a
  | .sent _ _ | .ended => false
  | _ => true

/-- A dispatch that is to end the chain is to end it for good. -/
def endsWell : Phase → Bool
  | .finishing status _ _ => status.terminal
  | _ => true

/-- An execution that will not put its job down with the chain still open. -/
def Willing (core : Retry.State) (w : Nat) : Hand → Prop
  | .handling => ∃ p, core.dispatcher w = some p ∧ promising core.count p = true
  | .returned => False
  | _ => True

/-- Job `n` will run, or is run by executions that are willing. -/
structure Cover (s : State) (n : Nat) : Prop where
  live : ∃ row, s.job n = some row ∧ row.live = true
  willing : ∀ w x, s.execution w = some x → x.attemptNo = n → Willing s.core w x.hand

def numbers (core : Retry.State) : List Nat := core.attempts.map Attempt.attemptNo

/-- Which jobs there are. -/
structure Keyed (core : Retry.State) (job : Nat → Option JobRow) : Prop where
  /-- None before there is a chain. -/
  unopened : core.chain = none → ∀ n, job n = none
  /-- The job of the first attempt, and of those that follow a recorded one. -/
  key : ∀ n, job n ≠ none → n = 1 ∨ ∃ m ∈ numbers core, n = m + 1
  /-- The job of the attempt after the one that is in flight is yet to come. -/
  resent : ∀ c, core.chain = some c → c.status = .resent →
    c.attempts ∈ numbers core ∧ job (c.attempts + 1) = none

/-- The chain's own side: the budget's invariant, and that a dispatch ends a chain for good. -/
structure Sound (core : Retry.State) : Prop where
  inv : Retry.Inv core
  ends : ∀ d p, core.dispatcher d = some p → endsWell p = true

/-- What a step of the chains keeps. -/
structure Inv (s : State) : Prop where
  sound : Sound s.core
  holds : Holds s.job (on s.execution)
  keyed : Keyed s.core s.job
  /-- An open chain has a job that will see to it. -/
  cover : Open s → ∃ n, Cover s n

theorem inv_init : Inv init where
  sound := ⟨Retry.inv_init, fun _ _ h => by cases h⟩
  holds := Holds.empty
  keyed := ⟨fun _ _ => rfl, fun _ h => absurd rfl h, fun _ h => by cases h⟩
  cover := fun ⟨_, h, _⟩ => by cases h

theorem Inv.resolvable {s : State} (h : Inv s) : Resolvable s := by
  intro hopen
  obtain ⟨n, hn⟩ := h.cover hopen
  obtain ⟨row, hrow, hlive⟩ := hn.live
  exact ⟨n, row, hrow, hlive⟩

/-! ## The chain's own steps -/

variable {retryId : String} {core s s' core' : Retry.State} {d n w : Nat} {p : Phase}
  {a : Retry.Action} {job : Nat → Option JobRow} {hand : Hand} {x : Execution}
  {status : ChainStatus}

/-- Whatever happens to the chain, its machine or an execution that stops did it. -/
theorem core_step {tuning : RetryTuning} {s s' : State} {a : Action}
    (hs : step retryId tuning s a = some s') :
    s'.core = s.core ∨ (∃ b, Retry.step retryId s.core b = some s'.core) ∨
      ∃ w, s'.core = stopDispatch s.core w := by
  cases a with
  | report _ _ _ | continueWith _ _ _ _ _ =>
    rw [step] at hs
    obtain ⟨core, hcore, rfl⟩ := map_eq_some_iff.mp hs
    exact .inr (.inl ⟨_, hcore⟩)
  | ingest origin smscId maxAttempts refused delaySeconds now =>
    rw [step] at hs
    split at hs
    · rename_i c hnone hopen
      cases hs
      refine .inr (.inl ⟨.ingest origin smscId maxAttempts refused, ?_⟩)
      rw [Retry.step, hnone, hopen]
    · cases hs
      exact .inl rfl
  | settle b =>
    rw [step] at hs
    split at hs
    · obtain ⟨core, hcore, rfl⟩ := map_eq_some_iff.mp hs
      exact .inr (.inl ⟨b, hcore⟩)
    · cases hs
  | claimJob w n workerId now =>
    rw [step] at hs
    split at hs
    · cases hs
      exact .inl rfl
    · cases hs
  | begin w enabled =>
    rw [step] at hs
    split at hs
    · obtain ⟨core, hcore, rfl⟩ := map_eq_some_iff.mp hs
      exact .inr (.inl ⟨_, hcore⟩)
    · cases hs
  | dispatch w b =>
    rw [step] at hs
    split at hs
    · split at hs
      · obtain ⟨core, hcore, rfl⟩ := map_eq_some_iff.mp hs
        exact .inr (.inl ⟨b, hcore⟩)
      · cases hs
    · cases hs
  | throws w message permanent =>
    rw [step] at hs
    split at hs
    · split at hs
      · cases hs
        exact .inr (.inr ⟨w, rfl⟩)
      · cases hs
    · cases hs
  | dies w =>
    rw [step] at hs
    split at hs
    · cases hs
      exact .inr (.inr ⟨w, rfl⟩)
    · cases hs
  | progress _ _ _ | complete _ _ _ _ | fail _ _ _ =>
    simp only [step] at hs
    split at hs
    · cases hs
      exact .inl rfl
    · cases hs
  | reap _ _ _ | cancel _ _ _ =>
    cases hs
    exact .inl rfl

theorem Sound.setPhase (h : Sound core) {p' : Phase} (hp : core.dispatcher d = some p)
    (hw : Phase.Within p p') (hends : endsWell p' = true) : Sound (core.setPhase d p') where
  inv := h.inv.setPhase hp hw
  ends := by
    intro e q hq
    rcases setPhase_dispatcher hq with ⟨-, rfl⟩ | ⟨-, hq'⟩
    · exact hends
    · exact h.ends e q hq'

theorem Sound.stop (h : Sound core) (w : Nat) : Sound (stopDispatch core w) := by
  rw [stopDispatch]
  split
  · rename_i hsome
    obtain ⟨p, hp⟩ := isSome_iff_exists.mp hsome
    exact h.setPhase hp (Phase.within_ended p) rfl
  · exact h

/-- How an action leaves the dispatch it belongs to, whose phase was `p` and is `p'`. -/
inductive Exit (s : Retry.State) (p : Phase) (a : Retry.Action) (s' : Retry.State) (p' : Phase) :
    Prop where
  /-- With more to do, and bound to see to the chain. -/
  | goesOn (h : promising s'.count p' = true)
  /-- With an error. -/
  | throws (hended : p' = .ended) (message : String) (h : endsBy a = .threw message false)
  /-- With the chain sent or closed. -/
  | closes (h : ∀ c, s'.chain = some c → c.status.claimable = false)
  /-- With the chain as it was, which was not this dispatch's to see to. -/
  | spent (hchain : s'.chain = s.chain)
      (h : ∀ c, s.chain = some c → promising c.attempts p = false)
  /-- Dead. -/
  | dies (d : Nat) (ha : a = .crash d)

theorem recordAttempt_dispatcher (s : Retry.State) (n : Nat) (smscId : Option String)
    (outcome : AttemptOutcome) (reason : String) :
    (s.recordAttempt n smscId outcome reason).dispatcher = s.dispatcher := by
  rw [State.recordAttempt]
  split <;> rfl

theorem not_claimable (h : status.terminal = true) :
    status.claimable = false := by
  revert h
  cases status <;> decide

/-- What comes of one action of a dispatch. -/
def Exits (s : Retry.State) (d : Nat) (p : Phase) (a : Retry.Action) (s' : Retry.State) : Prop :=
  ∃ p', s'.dispatcher = update s.dispatcher d (some p') ∧ endsWell p' = true ∧ Exit s p a s' p'

variable {e : Nat} {ref : Nat} {smscId reason : String} {ack : Ack}

/-- The attempt is written only under a claim that the dispatch still holds. -/
theorem fence_exit (hs : dispatchStep retryId s d (.submitted n smscId ref reason) (.fence e) =
    some s') : Exits s d (.submitted n smscId ref reason) (.fence e) s' := by
  rw [dispatchStep] at hs
  split at hs
  · cases hs
    exact ⟨_, rfl, rfl, .goesOn rfl⟩
  · rename_i hheld
    split at hs
    · cases hs
      exact ⟨_, rfl, rfl, .goesOn rfl⟩
    · cases hs
      refine ⟨_, rfl, rfl, .goesOn ?_⟩
      -- the guard has just found the attempt to be the chain's
      have hfence : s.chain.any (holdsFence n) = true := by simpa using hheld
      obtain ⟨c, hc, hn⟩ := (Option.any_eq_true _ _).mp hfence
      have hcount : s.count = n := by
        rw [count_of_chain hc]
        simpa [holdsFence] using (Bool.and_eq_true_iff.mp hn).2
      show promising s.count (.fenced n smscId ref reason) = true
      simp [promising, hcount]

/-- The send commits, or is rolled back. -/
theorem commit_exit (hs : dispatchStep retryId s d (.fenced n smscId ref reason) (.commit e ack) =
    some s') : Exits s d (.fenced n smscId ref reason) (.commit e ack) s' := by
  cases ack with
  | ok =>
    cases hs
    refine ⟨.sent n smscId, by simp [State.commitSend, State.setPhase, Ack.committed],
      rfl, ?_⟩
    cases hm : s.chain.bind (markResent n smscId) with
    | some c' =>
      obtain ⟨c, hc, hc'⟩ := bind_eq_some_iff.mp hm
      refine .closes fun c₁ hc₁ => ?_
      have : c' = c₁ := by
        simpa [State.commitSend, State.setPhase, State.onChain, hm, Ack.committed] using hc₁
      rw [← this, (markResent_spec hc').2.1]
      rfl
    | none =>
      -- the counter has moved on, and the chain is another dispatch's
      refine .spent ?_ fun c hc => ?_
      · simp [State.commitSend, State.setPhase, State.onChain, hm, Ack.committed]
      · rw [hc, bind_some, markResent] at hm
        split at hm
        · cases hm
        · rename_i hne
          rw [promising, decide_eq_false_iff_not]
          exact fun hn => hne hn.symm
  | lost error =>
    cases hs
    exact ⟨.refused n smscId error, by simp [State.commitSend, State.setPhase, Ack.committed],
      rfl, .goesOn rfl⟩
  | refused error =>
    cases hs
    exact ⟨_, rfl, rfl, .goesOn rfl⟩

theorem finish_exit {m : Option Nat} (hends : status.terminal = true)
    (hs : dispatchStep retryId s d (.finishing status reason m) (.finish e ack) = some s') :
    Exits s d (.finishing status reason m) (.finish e ack) s' := by
  have hclosed : status.claimable = false := not_claimable hends
  have closes : ∀ c, ((s.onChain fun c => some (terminate status reason c)).setPhase d
      .ended).chain = some c → c.status.claimable = false := by
    intro c hc
    cases hchain : s.chain with
    | none => simp [State.setPhase, State.onChain, hchain] at hc
    | some c₀ =>
      have : terminate status reason c₀ = c := by
        simpa [State.setPhase, State.onChain, hchain] using hc
      rw [← this]
      exact hclosed
  cases ack with
  | ok | lost _ =>
    cases hs
    exact ⟨.ended, by simp [State.setPhase, Ack.committed], rfl, .closes closes⟩
  | refused error =>
    cases hs
    exact ⟨_, rfl, rfl, .throws rfl error rfl⟩

/-- **One action of a dispatch**, by the phases of the source. -/
theorem dispatch_exit (hends : endsWell p = true) (hs : dispatchStep retryId s d p a = some s') :
    Exits s d p a s' := by
  have hs' := hs
  unfold dispatchStep at hs
  split at hs
  case h_1 =>
    split at hs
    · cases hs
      exact ⟨_, rfl, rfl, .goesOn rfl⟩
    · split at hs
      all_goals
        cases hs
        exact ⟨_, rfl, rfl, .goesOn rfl⟩
  case h_2 c _ ack =>
    cases ack with
    | ok =>
      simp only [Ack.committed, if_true] at hs
      split at hs
      all_goals
        cases hs
        exact ⟨_, rfl, rfl, .goesOn rfl⟩
    | lost error =>
      simp only [Ack.committed, if_true] at hs
      split at hs
      all_goals
        cases hs
        exact ⟨_, rfl, rfl, .throws rfl error rfl⟩
    | refused error =>
      cases hs
      exact ⟨_, rfl, rfl, .throws rfl error rfl⟩
  case h_3 =>
    split at hs
    all_goals
      cases hs
      exact ⟨_, rfl, rfl, .goesOn rfl⟩
  case h_4 n smscId reason _ ack =>
    cases ack with
    | ok | lost _ | refused _ =>
      cases hs
      exact ⟨_, rfl, rfl, .goesOn rfl⟩
  case h_5 =>
    cases hs
    exact ⟨_, rfl, rfl, .goesOn rfl⟩
  case h_6 => exact fence_exit hs'
  case h_7 =>
    cases hs
    exact ⟨_, rfl, rfl, .goesOn rfl⟩
  case h_8 => exact commit_exit hs'
  case h_9 =>
    cases hs
    exact ⟨_, rfl, rfl, .goesOn rfl⟩
  case h_10 n smscId _ ack =>
    cases ack with
    | ok =>
      cases hs
      exact ⟨_, rfl, rfl, .spent rfl fun _ _ => rfl⟩
    | lost _ | refused _ =>
      cases hs
      exact ⟨_, rfl, rfl, .goesOn rfl⟩
  case h_11 n reason _ applied =>
    cases hs
    refine ⟨.finishing .exhausted reason (some n), ?_, rfl, .goesOn rfl⟩
    cases applied with
    | true => simp [State.setPhase, recordAttempt_dispatcher]
    | false => rfl
  case h_12 n smscId message _ applied =>
    cases hs
    refine ⟨.finishing .failed ("retry refused by the send path: " ++ message) (some n), ?_, rfl,
      .goesOn rfl⟩
    cases applied with
    | true => simp [State.setPhase, recordAttempt_dispatcher]
    | false => rfl
  case h_13 => exact finish_exit hends hs'
  case h_14 =>
    cases hs
    exact ⟨_, rfl, rfl, .dies _ rfl⟩
  case h_15 => cases hs

/-- The actions of the scans after a chain is opened, and the engine's. -/
def scans : Retry.Action → Bool
  | .report _ _ _ | .continueWith _ _ _ => true
  | a => settles a

theorem scans_actor (h : scans a = true) : a.actor = none := by
  cases a <;> first | rfl | cases h

/-- Whose action it is. -/
theorem step_cases (hs : Retry.step retryId s a = some s') :
    scans a = true ∨ (∃ origin smscId maxAttempts refused,
      a = .ingest origin smscId maxAttempts refused) ∨ (∃ d enabled, a = .load d enabled) ∨
    ∃ d p, a.actor = some d ∧ s.dispatcher d = some p ∧ dispatchStep retryId s d p a = some s' := by
  have hdispatch : ∀ d, a.actor = some d →
      (s.dispatcher d).bind (fun p => dispatchStep retryId s d p a) = some s' →
      ∃ d p, a.actor = some d ∧ s.dispatcher d = some p ∧
        dispatchStep retryId s d p a = some s' := by
    intro d hactor hbind
    obtain ⟨p, hp, hstep⟩ := bind_eq_some_iff.mp hbind
    exact ⟨d, p, hactor, hp, hstep⟩
  cases a with
  | report _ _ _ | continueWith _ _ _ | settleLoad _ | settleRead _ | settleFinish _ _ =>
    exact .inl rfl
  | ingest origin smscId maxAttempts refused => exact .inr (.inl ⟨_, _, _, _, rfl⟩)
  | load d enabled => exact .inr (.inr (.inl ⟨d, enabled, rfl⟩))
  | _ =>
    exact .inr (.inr (.inr (hdispatch _ rfl hs)))

/-- What a scan can do to a chain that is there. -/
structure Scanned (s : Retry.State) (a : Retry.Action) (s' : Retry.State) : Prop where
  dispatcher : s'.dispatcher = s.dispatcher
  numbers : numbers s' = numbers s
  /-- It leaves the chain, closes it, or reopens it. -/
  chain : s'.chain = s.chain ∨ (∃ c, s'.chain = some c ∧ c.status.terminal = true) ∨
    ∃ c c' ref event smscId, a = .continueWith ref event smscId ∧ s.chain = some c ∧
      s'.chain = some c' ∧ c.status = .resent ∧ c'.status = .pending ∧ c'.attempts = c.attempts

theorem Scanned.same (hdisp : s'.dispatcher = s.dispatcher) (hattempts : s'.attempts = s.attempts)
    (hchain : s'.chain = s.chain) : Scanned s a s' :=
  ⟨hdisp, congrArg (List.map Attempt.attemptNo) hattempts, .inl hchain⟩

theorem scanned (ha : scans a = true) (hs : Retry.step retryId s a = some s') : Scanned s a s' := by
  cases a with
  | report place ref event =>
    cases hs
    exact .same rfl rfl rfl
  | continueWith ref event smscId =>
    rw [Retry.step] at hs
    split at hs
    · cases hs
      refine ⟨onChain_dispatcher _ _, by simp [numbers], ?_⟩
      rcases onChain_chain (s.setDlrEvent (fun a => a.messageRef = some ref) event)
          (continueChain smscId event) with heq | ⟨c, c', hc, hc', heq⟩
      · exact .inl heq
      · obtain ⟨hresent, hstatus, hatt, -⟩ := continueChain_spec hc'
        rcases hstatus with hexhausted | hpending
        · exact .inr (.inl ⟨c', heq, by rw [hexhausted]; rfl⟩)
        · exact .inr (.inr ⟨c, c', ref, event, smscId, rfl, hc, heq, hresent, hpending, hatt⟩)
    · cases hs
  | settleLoad t =>
    simp only [Retry.step] at hs
    split at hs
    · split at hs
      · split at hs
        · split at hs <;> (obtain rfl := some.inj hs; exact .same rfl rfl rfl)
        · cases hs
          exact .same rfl rfl rfl
      · cases hs
        exact .same rfl rfl rfl
    · cases hs
  | settleRead t =>
    simp only [Retry.step] at hs
    split at hs
    · split at hs <;> (obtain rfl := some.inj hs; exact .same rfl rfl rfl)
    · cases hs
  | settleFinish t ack =>
    simp only [Retry.step] at hs
    split at hs
    · rename_i n smscId ht
      cases hs
      cases hack : ack.committed with
      | false => exact .same rfl rfl rfl
      | true =>
        refine ⟨onChain_dispatcher _ _, by simp [numbers, State.setSettle], ?_⟩
        rcases onChain_chain (s.setDlrEvent (fun a => a.attemptNo = n) DLR_EVENT_DELIVERED)
            (fun c => some (terminate .delivered ("retry " ++ toString n ++ " on " ++
              smscId.getD "unknown bind" ++ " was delivered") c)) with
          heq | ⟨c, c', hc, hc', heq⟩
        · exact .inl heq
        · cases hc'
          exact .inr (.inl ⟨_, heq, rfl⟩)
    · cases hs
  | _ => cases ha

/-- What `dispatch` finds when it reads the chain. -/
theorem load_step {enabled : Bool} (hs : Retry.step retryId s (.load d enabled) = some s') :
    ∃ c p', s.chain = some c ∧ s' = s.setPhase d p' ∧ endsWell p' = true ∧
      (promising s.count p' = true ∨ c.status.claimable = false) := by
  simp only [Retry.step] at hs
  split at hs
  · rename_i c hnone hc
    split at hs
    · cases hs
      exact ⟨c, _, hc, rfl, rfl, .inl rfl⟩
    · rename_i hclosed
      cases hs
      exact ⟨c, _, hc, rfl, rfl, .inr (by simpa using hclosed)⟩
  · cases hs

/-- A step of the chain's machine moves at most one dispatch. -/
theorem step_dispatcher (h : Sound s) (hs : Retry.step retryId s a = some s') :
    s'.dispatcher = s.dispatcher ∨ ∃ d p', s'.dispatcher = update s.dispatcher d (some p') ∧
      endsWell p' = true := by
  rcases step_cases hs with ha | ⟨origin, smscId, maxAttempts, refused, rfl⟩ | ⟨d, enabled, rfl⟩ |
    ⟨d, p, -, hp, hstep⟩
  · exact .inl (scanned ha hs).dispatcher
  · simp only [Retry.step] at hs
    split at hs <;> (obtain rfl := some.inj hs; exact .inl rfl)
  · obtain ⟨c, p', -, rfl, hends, -⟩ := load_step hs
    exact .inr ⟨d, p', rfl, hends⟩
  · obtain ⟨p', hdisp, hends, -⟩ := dispatch_exit (h.ends d p hp) hstep
    exact .inr ⟨d, p', hdisp, hends⟩

theorem Sound.step (h : Sound s) (hs : Retry.step retryId s a = some s') : Sound s' where
  inv := inv_step h.inv hs
  ends := by
    intro d p hp
    rcases step_dispatcher h hs with hsame | ⟨e, p', hupd, hends⟩
    · rw [hsame] at hp
      exact h.ends d p hp
    · rw [hupd] at hp
      by_cases hd : d = e
      · subst hd
        rw [update_self] at hp
        rwa [← some.inj hp]
      · rw [update_of_ne hd] at hp
        exact h.ends d p hp

/-- What the jobs see of the chain's steps: a chain that is in flight already was, or its attempt
has just been recorded. -/
structure Advances (s s' : Retry.State) : Prop where
  chain : s'.chain = none → s.chain = none
  recorded : ∀ n ∈ numbers s, n ∈ numbers s'
  resent : ∀ c, s'.chain = some c → c.status = .resent → s.chain = some c ∨
    (1 ≤ c.attempts ∧ c.attempts ∉ numbers s ∧ c.attempts ∈ numbers s')

/-- The chain stays, or ends up in another status. -/
theorem Advances.quiet (hchain : s'.chain = s.chain ∨ ∃ c, s'.chain = some c ∧ c.status ≠ .resent)
    (hnumbers : ∀ n ∈ numbers s, n ∈ numbers s') : Advances s s' where
  chain := by
    intro hnone
    rcases hchain with hsame | ⟨c, hc, -⟩
    · rwa [← hsame]
    · rw [hnone] at hc
      cases hc
  recorded := hnumbers
  resent := by
    intro c hc hresent
    rcases hchain with hsame | ⟨c', hc', hne⟩
    · exact .inl (hsame ▸ hc)
    · obtain rfl := some.inj (hc.symm.trans hc')
      exact absurd hresent hne

theorem Advances.effect (h : Sound s) (hp : s.dispatcher d = some p) (he : Effect s d p a s') :
    Advances s s' := by
  cases he with
  | move _ _ | insert _ _ _ hn _ _ => exact .quiet (.inl rfl) fun _ hn => hn
  | claim c c' p' hc hclaim hp' =>
    refine .quiet (.inr ⟨c', rfl, ?_⟩) fun _ hn => hn
    rw [(claim_spec hclaim).2.2.1]
    decide
  | commit n smscId ref reason p' hpf hw hdone =>
    subst hpf
    have hnumbers : numbers ((s.commitSend n smscId ref reason).setPhase d p') =
        numbers s ++ [n] := by
      simp [numbers, State.commitSend, State.setPhase]
    rcases onChain_chain s (markResent n smscId) with heq | ⟨c, c', hc, hm, heq⟩
    · exact .quiet (.inl heq) fun m hm => by
        rw [hnumbers]
        exact List.mem_append_left _ hm
    · obtain ⟨hn, -, hatt, -⟩ := markResent_spec hm
      refine ⟨fun hnone => ?_, fun m hm => ?_, fun c₁ hc₁ _ => .inr ?_⟩
      · have : (s.onChain (markResent n smscId)).chain = none := hnone
        rw [heq] at this
        cases this
      · rw [hnumbers]
        exact List.mem_append_left _ hm
      · have hsome : (s.onChain (markResent n smscId)).chain = some c₁ := hc₁
        obtain rfl := some.inj (heq.symm.trans hsome)
        rw [hatt, hn, hnumbers]
        exact ⟨(h.inv.fence d _ n hp rfl).1, h.inv.unrecorded d _ n hp rfl,
          List.mem_append_right _ (List.mem_singleton_self n)⟩
  | record n smscId outcome reason applied p' hn hw hdone =>
    cases applied with
    | false => exact .quiet (.inl rfl) fun _ hn => hn
    | true =>
      have hkept : ((s.recordAttempt n smscId outcome reason).setPhase d p').chain = s.chain ∧
          ∀ m ∈ numbers s, m ∈ numbers ((s.recordAttempt n smscId outcome reason).setPhase d p') := by
        rw [State.recordAttempt]
        split
        · exact ⟨rfl, fun _ hm => hm⟩
        · refine ⟨rfl, fun m hm => ?_⟩
          simp only [numbers, State.setPhase, List.map_append]
          exact List.mem_append_left _ hm
      exact .quiet (.inl hkept.1) hkept.2
  | finish status reason n ack hpf ha hcommitted =>
    subst hpf
    have hnumbers : numbers ((s.onChain fun c => some (terminate status reason c)).setPhase d
        .ended) = numbers s := by
      simp [numbers, State.setPhase]
    refine .quiet ?_ fun m hm => by rw [hnumbers]; exact hm
    rcases onChain_chain s (fun c => some (terminate status reason c)) with
      heq | ⟨c, c', hc, hstmt, heq⟩
    · exact .inl heq
    · refine .inr ⟨c', heq, ?_⟩
      cases hstmt
      have hterminal : status.terminal = true := h.ends d _ hp
      rintro (hresent : status = .resent)
      rw [hresent] at hterminal
      cases hterminal

theorem Advances.scan (h : Scanned s a s') : Advances s s' := by
  refine .quiet ?_ fun n hn => by rw [h.numbers]; exact hn
  rcases h.chain with hsame | ⟨c, hc, hterminal⟩ | ⟨-, c', -, -, -, -, -, hc', -, hpending, -⟩
  · exact .inl hsame
  · refine .inr ⟨c, hc, fun hresent => ?_⟩
    rw [hresent] at hterminal
    cases hterminal
  · exact .inr ⟨c', hc', by rw [hpending]; decide⟩

theorem advances_step (h : Sound s)
    (ha : ∀ origin smscId maxAttempts refused, a ≠ .ingest origin smscId maxAttempts refused)
    (hs : Retry.step retryId s a = some s') : Advances s s' := by
  rcases step_cases hs with hscan | ⟨origin, smscId, maxAttempts, refused, rfl⟩ |
    ⟨d, enabled, rfl⟩ | ⟨d, p, hactor, hp, hstep⟩
  · exact .scan (scanned hscan hs)
  · exact (ha _ _ _ _ rfl).elim
  · obtain ⟨c, p', -, rfl, -, -⟩ := load_step hs
    exact .quiet (.inl rfl) fun _ hn => hn
  · refine .effect h hp (dispatch_effect (fun e ack he => ?_) hstep)
    subst he
    exact some.inj hactor

theorem Advances.stop (core : Retry.State) (w : Nat) : Advances core (stopDispatch core w) := by
  rw [stopDispatch]
  split <;> exact .quiet (.inl rfl) fun _ hn => hn

/-! ## The jobs there are -/

theorem Keyed.advance {job' : Nat → Option JobRow} (h : Keyed core job) (ha : Advances core core')
    (hjob : ∀ n, job' n = none ↔ job n = none) :
    Keyed core' job' where
  unopened := fun hnone n => (hjob n).mpr (h.unopened (ha.chain hnone) n)
  key := by
    intro n hn
    rcases h.key n (fun hnone => hn ((hjob n).mpr hnone)) with hone | ⟨m, hm, heq⟩
    · exact .inl hone
    · exact .inr ⟨m, ha.recorded m hm, heq⟩
  resent := by
    intro c hc hresent
    rcases ha.resent c hc hresent with hsame | ⟨hone, hfresh, hnow⟩
    · obtain ⟨hmem, hnone⟩ := h.resent c hsame hresent
      exact ⟨ha.recorded _ hmem, (hjob _).mpr hnone⟩
    · refine ⟨hnow, (hjob _).mpr ?_⟩
      by_contra hthere
      rcases h.key _ hthere with heq | ⟨m, hm, heq⟩
      · omega
      · obtain rfl : c.attempts = m := by omega
        exact hfresh hm

theorem enqueueDispatch_new (hnone : job n = none) (delaySeconds now : Int) :
    ∃ row, row.status = .queued ∧
      enqueueDispatch job n delaySeconds now = update job n (some row) := by
  obtain ⟨row, hrow, hqueued, -⟩ := Platform.insert_spec n DELIVERY_RETRY_DISPATCH_JOB_TYPE
    (if 0 < delaySeconds then some (now + delaySeconds * 1000) else none) now
    (show Platform.AttemptsCheck 0 DELIVERY_RETRY_DISPATCH_MAX_ATTEMPTS by decide)
  refine ⟨row, hqueued, ?_⟩
  rw [enqueueDispatch, hnone]
  exact congrArg (update job n) hrow

/-! ## The hands -/

theorem Hand.grip_isSome (h : hand ≠ .ended) : ∃ g, hand.grip = some g := by
  cases hand with
  | claimed | handling | returned | threw _ _ => exact ⟨_, rfl⟩
  | ended => exact absurd rfl h

theorem on_eq {execution : Nat → Option Execution} {g : Grip} :
    on execution w = some (n, g) ↔
      ∃ x, execution w = some x ∧ x.attemptNo = n ∧ x.hand.grip = some g := by
  simp [on, Platform.onOf_eq, Execution.grip, and_left_comm]

theorem Unattended.nobody {s : State} (h : Unattended s n) (w : Nat) (g : Grip) :
    on s.execution w ≠ some (n, g) := by
  intro hw
  obtain ⟨x, hx, hn, hg⟩ := on_eq.mp hw
  rw [h w x hx hn] at hg
  cases hg

/-- The job an execution runs is running, and no other execution is on it. -/
theorem Inv.mine {s : State} (h : Inv s) (hx : s.execution w = some x)
    (hgrip : x.hand.grip = some .running) :
    (∃ row, s.job x.attemptNo = some row ∧ row.status = .running) ∧
      ∀ v y, s.execution v = some y → y.attemptNo = x.attemptNo → y.hand ≠ .ended → v = w := by
  have hw : on s.execution w = some (x.attemptNo, .running) := on_eq.mpr ⟨x, hx, rfl, hgrip⟩
  obtain ⟨row, hrow, -, hrunning⟩ := h.holds.held w _ _ hw
  refine ⟨⟨row, hrow, hrunning rfl⟩, fun v y hy hn hactive => ?_⟩
  obtain ⟨g, hg⟩ := Hand.grip_isSome hactive
  exact h.holds.alone v w _ _ _ (on_eq.mpr ⟨y, hy, hn, hg⟩) hw

/-- An execution that runs its job goes on with it, or fails. -/
theorem Inv.holds_run {s : State} (h : Inv s) (hx : s.execution w = some x)
    (hgrip : x.hand.grip = some .running) (hand : Hand) :
    Holds s.job (on (update s.execution w (some { x with hand := hand }))) := by
  obtain ⟨⟨row, hrow, hrunning⟩, -⟩ := h.mine hx hgrip
  refine h.holds.hand (g := .running) hx (by rw [Execution.grip, hgrip]; rfl) (fun _ _ => rfl)
    fun m g hg => ?_
  obtain ⟨g', -, heq⟩ := map_eq_some_iff.mp hg
  exact ⟨(Prod.mk.inj heq).1.symm, row, hrow, by rw [hrunning]; decide, fun _ => hrunning⟩

/-! ## Cover -/

theorem Willing.congr (hcount : core'.count = core.count)
    (hdisp : core'.dispatcher w = core.dispatcher w) (h : Willing core w hand) :
    Willing core' w hand := by
  cases hand with
  | handling =>
    obtain ⟨p, hp, hpromise⟩ := h
    exact ⟨p, hdisp.trans hp, by rw [hcount]; exact hpromise⟩
  | claimed => trivial
  | returned => exact h
  | threw _ _ | ended => trivial

/-- The executions stay as they are. -/
theorem Cover.frame {s : State} (h : Cover s n) (hcount : core.count = s.core.count)
    (hdisp : core.dispatcher = s.core.dispatcher) (hlive : StaysLive s.job job n) :
    Cover ⟨core, job, s.execution⟩ n := by
  obtain ⟨row, hrow, hl⟩ := h.live
  exact ⟨hlive row hrow hl, fun w x hx hn => (h.willing w x hx hn).congr hcount (by rw [hdisp])⟩

/-- One execution changes hands. -/
theorem Cover.setHand {s : State} (h : Cover s n) (hx : s.execution w = some x)
    (hcount : core.count = s.core.count)
    (hothers : ∀ v, v ≠ w → core.dispatcher v = s.core.dispatcher v)
    (hself : x.attemptNo = n → Willing s.core w x.hand → Willing core w hand)
    (hlive : StaysLive s.job job n) :
    Cover ((⟨core, job, s.execution⟩ : State).setHand w x hand) n := by
  obtain ⟨row, hrow, hl⟩ := h.live
  refine ⟨hlive row hrow hl, fun v y hy hn => ?_⟩
  by_cases hv : v = w
  · subst hv
    have hself' : some { x with hand := hand } = some y := by
      simpa [State.setHand] using hy
    cases hself'
    exact hself hn (h.willing v x hx hn)
  · have hy' : s.execution v = some y := by simpa [State.setHand, update_of_ne hv] using hy
    exact (h.willing v y hy' hn).congr hcount (hothers v hv)

theorem stopDispatch_chain (core : Retry.State) (w : Nat) :
    (stopDispatch core w).chain = core.chain := by
  rw [stopDispatch]
  split <;> rfl

theorem stopDispatch_of_ne (core : Retry.State) {v : Nat} (hv : v ≠ w) :
    (stopDispatch core w).dispatcher v = core.dispatcher v := by
  rw [stopDispatch]
  split
  · exact update_of_ne hv ..
  · rfl

theorem count_congr (hchain : core'.chain = core.chain) : core'.count = core.count := by
  rw [State.count, State.count, hchain]

/-! ## The step -/

section Step

variable {tuning : RetryTuning}

variable {s s' : State} {b : Retry.Action}
  {f : JobRow → Option JobRow}

/-- A scan leaves the jobs alone unless it reopens the chain. -/
theorem Inv.scan {a : Retry.Action} (h : Inv s) (hsound : Sound core) (hs : Scanned s.core a core)
    (ha : ∀ ref event smscId, a = .continueWith ref event smscId →
      core.chain = s.core.chain ∨ ∃ c, core.chain = some c ∧ c.status ≠ .pending) :
    Inv { s with core := core } where
  sound := hsound
  holds := h.holds
  keyed := h.keyed.advance (.scan hs) fun _ => Iff.rfl
  cover := by
    intro hopen
    have same : core.chain = s.core.chain → ∃ n, Cover { s with core := core } n := by
      intro hsame
      obtain ⟨c, hc, hclaimable⟩ := hopen
      obtain ⟨n, hn⟩ := h.cover ⟨c, hsame ▸ hc, hclaimable⟩
      exact ⟨n, hn.frame (count_congr hsame) hs.dispatcher (staysLive_refl _ n)⟩
    rcases hs.chain with hsame | ⟨c, hc, hterminal⟩ |
      ⟨-, c', ref, event, smscId, hact, -, hc', -, hpending, -⟩
    · exact same hsame
    · obtain ⟨c', hc', hclaimable⟩ := hopen
      obtain rfl := some.inj (hc.symm.trans hc')
      rw [not_claimable hterminal] at hclaimable
      cases hclaimable
    · rcases ha ref event smscId hact with hsame | ⟨c, hc, hne⟩
      · exact same hsame
      · obtain rfl := some.inj (hc.symm.trans hc')
        exact absurd hpending hne

/-- A job that has just been enqueued covers the chain. -/
theorem Inv.enqueue {n : Nat} {row : JobRow} (h : Inv s) (hsound : Sound core)
    (hnone : s.job n = none) (hqueued : row.status = .queued)
    (hkeyed : Keyed core (update s.job n (some row))) :
    Inv { s with core := core, job := update s.job n (some row) } where
  sound := hsound
  holds := h.holds.frame fun w m g hw => by
    refine update_of_ne ?_ ..
    rintro rfl
    exact h.holds.nobody_of_none hnone w g hw
  keyed := hkeyed
  cover := fun _ => by
    refine ⟨n, ⟨row, update_self .., live_of_queued hqueued⟩, ?_⟩
    intro w x hx hn
    by_cases hactive : x.hand = .ended
    · rw [hactive]
      trivial
    · obtain ⟨g, hg⟩ := Hand.grip_isSome hactive
      exact absurd (on_eq.mpr ⟨x, hx, hn, hg⟩) (h.holds.nobody_of_none hnone w g)

/-- An action of the execution `w` on the chain. -/
theorem Inv.acts {x : Execution} {hand : Hand} (h : Inv s) (hsound : Sound core)
    (ha : Advances s.core core) (hx : s.execution w = some x) (hgrip : x.hand.grip = some .running)
    (hothers : ∀ v, v ≠ w → core.dispatcher v = s.core.dispatcher v)
    (hcover : (∃ c, core.chain = some c ∧ c.status.claimable = true) → Willing core w hand ∨
      core.chain = s.core.chain ∧ (Willing s.core w x.hand → Willing core w hand)) :
    Inv ({ s with core := core }.setHand w x hand) where
  sound := hsound
  holds := h.holds_run hx hgrip hand
  keyed := h.keyed.advance ha fun _ => Iff.rfl
  cover := by
    intro hopen
    obtain ⟨c, hc, hclaimable⟩ := hopen
    rcases hcover ⟨c, hc, hclaimable⟩ with hwilling | ⟨hsame, hwilling⟩
    · -- the execution's own job will do
      obtain ⟨⟨row, hrow, hrunning⟩, halone⟩ := h.mine hx hgrip
      refine ⟨x.attemptNo, ⟨row, hrow, live_of_running hrunning⟩, fun v y hy hn => ?_⟩
      by_cases hv : v = w
      · subst hv
        have hself : some { x with hand := hand } = some y := by
          simpa [State.setHand] using hy
        cases hself
        exact hwilling
      · have hy' : s.execution v = some y := by
          simpa [State.setHand, update_of_ne hv] using hy
        have hended : y.hand = .ended := by
          by_contra hactive
          exact hv (halone v y hy' hn hactive)
        rw [hended]
        trivial
    · obtain ⟨n, hn⟩ := h.cover ⟨c, hsame ▸ hc, hclaimable⟩
      exact ⟨n, hn.setHand hx (count_congr hsame) hothers (fun _ => hwilling)
        (staysLive_refl _ n)⟩

/-- An execution is done with its job, in one way or another. -/
theorem Inv.putsDown {x : Execution} {hand : Hand} {job : Nat → Option JobRow}
    (h : Inv s) (hx : s.execution w = some x)
    (hactive : x.hand ≠ .ended) (hjob : job = s.job ∨ job = updateJob s.job x.attemptNo f)
    (hgrip : ∀ g, hand.grip = some g → g = .late ∧
      ∀ row row', f row = some row' → row'.status ≠ .queued)
    (hcover : Open s → ¬ Willing s.core w x.hand ∨ Willing s.core w hand ∧
      ∀ row row', s.job x.attemptNo = some row → f row = some row' → row'.live = true) :
    Inv ({ s with job := job }.setHand w x hand) where
  sound := h.sound
  holds := by
    obtain ⟨g, hg⟩ := Hand.grip_isSome hactive
    obtain ⟨row, hrow, hqueued, -⟩ := h.holds.held w _ _ (on_eq.mpr ⟨x, hx, rfl, hg⟩)
    refine h.holds.hand (x := x) (g := g) hx (by rw [Execution.grip, hg]; rfl) (fun m hm => ?_)
      fun m g' hm => ?_
    · rcases hjob with rfl | rfl
      · rfl
      · exact updateJob_of_ne s.job f hm
    · obtain ⟨g₁, hg', heq⟩ := map_eq_some_iff.mp hm
      obtain ⟨rfl, rfl⟩ := Prod.mk.inj heq
      refine ⟨rfl, ?_⟩
      obtain ⟨rfl, hf⟩ := hgrip g₁ hg'
      rcases hjob with rfl | rfl
      · exact ⟨row, hrow, hqueued, fun he => by cases he⟩
      · refine ⟨_, updateJob_self f hrow, ?_, fun he => by cases he⟩
        cases hrow' : f row with
        | some row' => exact hf row row' hrow'
        | none => exact hqueued
  keyed := by
    refine h.keyed.advance (.quiet (.inl rfl) fun _ hn => hn) fun n => ?_
    rcases hjob with rfl | rfl
    · exact Iff.rfl
    · exact updateJob_eq_none s.job _ f n
  cover := by
    intro hopen
    obtain ⟨n, hn⟩ := h.cover hopen
    have hself : x.attemptNo = n → Willing s.core w x.hand → Willing s.core w hand := by
      intro _ hwilling
      rcases hcover hopen with hnot | ⟨hstill, -⟩
      · exact absurd hwilling hnot
      · exact hstill
    refine ⟨n, hn.setHand hx rfl (fun _ _ => rfl) hself ?_⟩
    rcases hjob with rfl | rfl
    · exact staysLive_refl _ n
    · rcases hcover hopen with hnot | ⟨-, hlive⟩
      · refine staysLive_of_ne _ _ ?_
        rintro rfl
        exact hnot (hn.willing w x hx rfl)
      · exact staysLive_updateJob hlive n

/-- A statement on a job keeps its status, or finds no execution on it. -/
theorem Inv.touch {n : Nat} (h : Inv s)
    (hf : ∀ row row', s.job n = some row → f row = some row' →
      row'.status = row.status ∨ Unattended s n)
    (hlive : Open s → ∀ row row', s.job n = some row → f row = some row' → row'.live = true) :
    Inv { s with job := updateJob s.job n f } where
  sound := h.sound
  holds := h.holds.updateJob fun row row' hrow hrow' =>
    (hf row row' hrow hrow').imp_right Unattended.nobody
  keyed := h.keyed.advance (.quiet (.inl rfl) fun _ hn => hn) (updateJob_eq_none s.job n f)
  cover := by
    intro hopen
    obtain ⟨m, hm⟩ := h.cover hopen
    exact ⟨m, hm.frame rfl rfl (staysLive_updateJob (hlive hopen) m)⟩

theorem drives_step {s s' : Retry.State} (hd : drives w b = true)
    (hs : Retry.step retryId s b = some s') :
    ∃ p, s.dispatcher w = some p ∧ dispatchStep retryId s w p b = some s' ∧
      ∀ d, b ≠ .crash d := by
  have hmine : b.actor = some w := by
    cases b <;> first | cases hd | exact of_decide_eq_true hd
  rcases step_cases hs with hscan | ⟨origin, smscId, maxAttempts, refused, rfl⟩ |
    ⟨d, enabled, rfl⟩ | ⟨d, p, hactor, hp, hstep⟩
  · rw [scans_actor hscan] at hmine
    cases hmine
  · cases hmine
  · cases hd
  · obtain rfl := some.inj (hactor.symm.trans hmine)
    refine ⟨p, hp, hstep, ?_⟩
    rintro e rfl
    cases hd

/-- **Why a dispatch can be relied on**: when it leaves its phases with the chain still open, it
throws, or the chain was not its to see to. -/
theorem dispatch_cover {s s' : Retry.State} (h : Sound s)
    (hd : drives w b = true) (hs : Retry.step retryId s b = some s')
    (hopen : ∃ c, s'.chain = some c ∧ c.status.claimable = true) :
    Willing s' w (handOf s' w (endsBy b)) ∨
      s'.chain = s.chain ∧ ¬ Willing s w .handling := by
  obtain ⟨p, hp, hstep, hcrash⟩ := drives_step hd hs
  obtain ⟨p', hdisp, -, hexit⟩ := dispatch_exit (h.ends w p hp) hstep
  have hp' : s'.dispatcher w = some p' := by rw [hdisp]; exact update_self ..
  obtain ⟨c, hc, hclaimable⟩ := hopen
  cases hexit with
  | goesOn hpromise =>
    refine .inl ?_
    rw [handOf, if_neg]
    · exact ⟨p', hp', hpromise⟩
    · intro hended
      obtain rfl := some.inj (hp'.symm.trans hended)
      cases hpromise
  | throws hended message hthrew =>
    refine .inl ?_
    rw [handOf, if_pos (by rw [hp', hended]), hthrew]
    trivial
  | closes hclosed =>
    rw [hclosed c hc] at hclaimable
    cases hclaimable
  | spent hchain hspent =>
    refine .inr ⟨hchain, ?_⟩
    rintro ⟨q, hq, hpromise⟩
    obtain rfl := some.inj (hp.symm.trans hq)
    rw [hchain] at hc
    rw [count_of_chain hc, hspent c hc] at hpromise
    cases hpromise
  | dies d ha => exact absurd ha (hcrash d)

section

variable (h : Inv s) {now : Int}
include h

section

variable (hsound : Sound s'.core) {delaySeconds : Int}
include hsound

theorem Inv.reopens {ref : Nat} {event : Int} {smscId : String}
    (hs : step retryId tuning s (.continueWith ref event smscId delaySeconds now) = some s') :
    Inv s' := by
  obtain ⟨core, hcore, rfl⟩ := map_eq_some_iff.mp hs
  have hscan := scanned (a := .continueWith ref event smscId) rfl hcore
  have quiet : (∀ c c', s.core.chain = some c → core.chain = some c' →
      c.status = .resent → c'.status ≠ .pending) → Inv { s with core := core } := by
    intro hquiet
    refine h.scan hsound hscan fun _ _ _ _ => ?_
    rcases hscan.chain with hsame | ⟨c, hc, hterminal⟩ |
      ⟨c, c', -, -, -, -, hc, hc', hresent, hpending, -⟩
    · exact .inl hsame
    · refine .inr ⟨c, hc, fun hpending => ?_⟩
      rw [hpending] at hterminal
      cases hterminal
    · exact absurd hpending (hquiet c c' hc hc' hresent)
  cases hc : s.core.chain with
  | none =>
    exact quiet fun c _ hsome => by rw [hc] at hsome; cases hsome
  | some c =>
    cases hc' : core.chain with
    | none =>
      exact quiet fun _ c' _ hsome => by rw [hc'] at hsome; cases hsome
    | some c' =>
      simp only
      split
      · rename_i hreopened
        obtain ⟨hresent, hpending⟩ := hreopened
        -- the attempt is recorded, so the next one has no job yet
        obtain ⟨hmem, hnone⟩ := h.keyed.resent c hc hresent
        obtain ⟨row, hqueued, hrow⟩ := enqueueDispatch_new hnone delaySeconds now
        rw [hrow]
        refine h.enqueue hsound hnone hqueued ⟨fun he => ?_, fun n hn => ?_, fun c₁ hc₁ hr => ?_⟩
        · rw [hc'] at he
          cases he
        · by_cases hself : n = c.attempts + 1
          · refine .inr ⟨c.attempts, ?_, hself⟩
            rw [hscan.numbers]
            exact hmem
          · rw [update_of_ne hself] at hn
            rw [hscan.numbers]
            exact h.keyed.key n hn
        · obtain rfl := some.inj (hc'.symm.trans hc₁)
          rw [hpending] at hr
          cases hr
      · rename_i hnot
        refine quiet fun c₁ c₁' hc₁ hc₁' hresent hpending => hnot ?_
        obtain rfl := some.inj (hc.symm.trans hc₁)
        obtain rfl := some.inj (hc'.symm.trans hc₁')
        exact ⟨hresent, hpending⟩

theorem Inv.opens {origin : Nat} {smscId : String} {maxAttempts : Nat} {refused : Option String}
    (hs : step retryId tuning s (.ingest origin smscId maxAttempts refused delaySeconds now) =
      some s') : Inv s' := by
  rw [step] at hs
  split at hs
  · rename_i c hnone hopen
    cases hs
    obtain ⟨hzero, -⟩ := openChain_spec hopen
    have hnot : c.status ≠ .resent := by
      rcases (openChain_spec hopen).2 with hstatus | hstatus <;> rw [hstatus] <;> decide
    cases refused with
    | none =>
      obtain ⟨row, hqueued, hrow⟩ :=
        enqueueDispatch_new (h.keyed.unopened hnone 1) delaySeconds now
      simp only [isNone_none, if_true, hrow] at hsound ⊢
      refine h.enqueue hsound (h.keyed.unopened hnone 1) hqueued
        ⟨fun he => ?_, fun n hn => .inl ?_, fun c₁ hc₁ hr => ?_⟩
      · cases he
      · by_contra hne
        rw [update_of_ne hne] at hn
        exact hn (h.keyed.unopened hnone n)
      · cases hc₁
        exact absurd hr hnot
    | some reason =>
      refine ⟨hsound, h.holds, ⟨fun he => ?_, fun n hn => ?_, fun c₁ hc₁ hr => ?_⟩, ?_⟩
      · cases he
      · exact absurd (h.keyed.unopened hnone n) hn
      · cases hc₁
        exact absurd hr hnot
      · rintro ⟨c₁, hc₁, hclaimable⟩
        cases hc₁
        have habandoned : c.status = .abandoned := by
          rw [openChain] at hopen
          split at hopen
          · cases hopen
            rfl
          · cases hopen
        rw [habandoned] at hclaimable
        cases hclaimable
  · cases hs
    exact h

theorem inv_claimJob {w n : Nat} {workerId : String}
    (hs : step retryId tuning s (.claimJob w n workerId now) = some s') :
    Inv s' := by
  rw [step] at hs
  split at hs
  · rename_i row hfree hclaim
    cases hs
    obtain ⟨row₀, hrow₀, hclaimed⟩ := bind_eq_some_iff.mp hclaim
    obtain ⟨-, -, hqueued, hrunning⟩ := Platform.claimOn_spec hclaimed
    refine ⟨hsound, ?_, ?_, fun hopen => ?_⟩
    · exact h.holds.begin ⟨n, row, .claimed⟩ hrow₀ hqueued hrunning rfl
    · refine h.keyed.advance (.quiet (.inl rfl) fun _ hn => hn) fun m => ?_
      show update s.job n (some row) m = none ↔ s.job m = none
      by_cases hm : m = n
      · subst hm
        simp [hrow₀]
      · rw [update_of_ne hm]
    · obtain ⟨m, hm⟩ := h.cover hopen
      refine ⟨m, ?_, fun v y hy hn => ?_⟩
      · by_cases hself : m = n
        · subst hself
          exact ⟨row, update_self .., live_of_running hrunning⟩
        · obtain ⟨row', hrow', hlive⟩ := hm.live
          exact ⟨row', by simpa [update_of_ne hself] using hrow', hlive⟩
      · by_cases hv : v = w
        · subst hv
          have : some (⟨n, row, .claimed⟩ : Execution) = some y := by simpa using hy
          cases this
          trivial
        · exact hm.willing v y (by simpa [update_of_ne hv] using hy) hn
  · cases hs

theorem inv_begin {enabled : Bool}
    (hs : step retryId tuning s (.begin w enabled) = some s') : Inv s' := by
  rw [step] at hs
  split at hs
  · rename_i n job hx
    obtain ⟨core, hcore, rfl⟩ := map_eq_some_iff.mp hs
    obtain ⟨c, p', hchain, rfl, -, hp'⟩ := load_step hcore
    have hadv : Advances s.core (s.core.setPhase w p') :=
      advances_step h.sound (fun _ _ _ _ he => by cases he) hcore
    refine h.acts (x := ⟨n, job, .claimed⟩) hsound hadv hx rfl
      (fun v hv => update_of_ne hv ..) fun hopen => ?_
    have hself : (s.core.setPhase w p').dispatcher w = some p' := update_self ..
    rcases hp' with hpromise | hclosed
    · refine .inl ?_
      rw [handOf, if_neg]
      · exact ⟨p', hself, hpromise⟩
      · rw [hself]
        rintro he
        cases he
        cases hpromise
    · obtain ⟨c', hc', hclaimable⟩ := hopen
      obtain rfl := some.inj (hchain.symm.trans hc')
      rw [hclosed] at hclaimable
      cases hclaimable
  · cases hs

theorem inv_dispatch (hs : step retryId tuning s (.dispatch w b) = some s') : Inv s' := by
  rw [step] at hs
  split at hs
  · rename_i n job hx
    split at hs
    · rename_i hdrives
      obtain ⟨core, hcore, rfl⟩ := map_eq_some_iff.mp hs
      obtain ⟨p, hp, hstep, -⟩ := drives_step hdrives hcore
      obtain ⟨p', hdisp, -, -⟩ := dispatch_exit (h.sound.ends w p hp) hstep
      have hadv : Advances s.core core :=
        advances_step h.sound (fun _ _ _ _ he => by subst he; cases hdrives) hcore
      refine h.acts (x := ⟨n, job, .handling⟩) hsound hadv hx rfl
        (fun v hv => by rw [hdisp]; exact update_of_ne hv ..) fun hopen => ?_
      rcases dispatch_cover h.sound hdrives hcore hopen with hwilling | ⟨hsame, hnot⟩
      · exact .inl hwilling
      · exact .inr ⟨hsame, fun hwilling => absurd hwilling hnot⟩
    · cases hs
  · cases hs

end

theorem inv_complete {result : String} {ack : Ack}
    (hs : step retryId tuning s (.complete w result now ack) = some s') : Inv s' := by
  simp only [step] at hs
  split at hs
  · rename_i n job hx
    cases hs
    refine h.putsDown (x := ⟨n, job, .returned⟩) (f := Platform.completeJob now result) hx
      (by simp) ?_ (fun g hg => ?_) fun _ => .inl (fun he => he)
    · split
      · exact .inr rfl
      · exact .inl rfl
    · refine ⟨?_, fun row row' hrow => by rw [(Platform.completeJob_spec hrow).2.2.2]; decide⟩
      cases ack with
      | ok => cases hg
      | lost _ | refused _ => exact (some.inj hg).symm
  · cases hs

theorem inv_fail {ack : Ack} (hc : Tended s (.fail w now ack))
    (hs : step retryId tuning s (.fail w now ack) = some s') : Inv s' := by
  simp only [step] at hs
  split at hs
  · rename_i n job message permanent hx
    cases hs
    cases hack : ack.committed with
    | false =>
      exact h.putsDown (x := ⟨n, job, .threw message permanent⟩) (f := fun _ => none) hx
        (by simp) (.inl rfl) (fun g hg => by cases hg)
        fun _ => .inr ⟨trivial, fun _ _ _ hrow => by cases hrow⟩
    | true =>
      refine h.putsDown (x := ⟨n, job, .threw message permanent⟩)
        (f := Platform.failAttempt tuning now job message permanent) hx
        (by simp) (.inr rfl) (fun g hg => by cases hg)
        fun hopen => .inr ⟨trivial, fun row row' hrow hfail => ?_⟩
      exact Platform.failAttempt_live (fun hexhausted => hc hack _ message permanent row hx rfl
        hrow (Platform.failAttempt_spec hfail).2.2.1 hexhausted hopen) hfail
  · cases hs

/-- **The step.** -/
theorem inv_step {a : Action} (hc : Tended s a)
    (hs : step retryId tuning s a = some s') : Inv s' := by
  have hsound : Sound s'.core := by
    rcases core_step hs with hsame | ⟨b, hb⟩ | ⟨w, hw⟩
    · rw [hsame]
      exact h.sound
    · exact h.sound.step hb
    · rw [hw]
      exact h.sound.stop w
  cases a with
  | report place ref event =>
    rw [step] at hs
    obtain ⟨core, hcore, rfl⟩ := map_eq_some_iff.mp hs
    exact h.scan hsound (scanned rfl hcore) fun _ _ _ he => by cases he
  | ingest origin smscId maxAttempts refused delaySeconds now => exact h.opens hsound hs
  | continueWith ref event smscId delaySeconds now => exact h.reopens hsound hs
  | settle b =>
    rw [step] at hs
    split at hs
    · rename_i hb
      obtain ⟨core, hcore, rfl⟩ := map_eq_some_iff.mp hs
      have hscan : scans b = true := by
        cases b <;> first | rfl | cases hb
      refine h.scan hsound (scanned hscan hcore) fun _ _ _ he => ?_
      subst he
      cases hb
    · cases hs
  | claimJob _ _ _ _ => exact inv_claimJob h hsound hs
  | begin _ _ => exact inv_begin h hsound hs
  | dispatch _ _ => exact inv_dispatch h hsound hs
  | throws w message permanent =>
    rw [step] at hs
    split at hs
    · rename_i x hx
      split at hs
      · rename_i hhand
        cases hs
        have hgrip : x.hand.grip = some .running := by
          rcases hhand with hhand | hhand | hhand <;> rw [hhand] <;> rfl
        exact h.acts hsound (.stop s.core w) hx hgrip (fun v hv => stopDispatch_of_ne s.core hv)
          fun _ => .inl trivial
      · cases hs
    · cases hs
  | dies w =>
    rw [step] at hs
    split at hs
    · rename_i x hx
      cases hs
      refine ⟨hsound, ?_, h.keyed.advance (.stop s.core w) fun _ => Iff.rfl, fun hopen => ?_⟩
      · exact h.holds.letGo { x with hand := .ended } rfl
      · obtain ⟨c, hchain, hclaimable⟩ := hopen
        have hsame := stopDispatch_chain s.core w
        obtain ⟨n, hn⟩ := h.cover ⟨c, hsame ▸ hchain, hclaimable⟩
        exact ⟨n, hn.setHand hx (count_congr hsame) (fun v hv => stopDispatch_of_ne s.core hv)
          (fun _ _ => trivial) (staysLive_refl _ n)⟩
    · cases hs
  | progress w percent now =>
    simp only [step] at hs
    split at hs
    · cases hs
      refine h.touch (fun row row' _ hrow => .inl ?_) fun _ row row' _ hrow => ?_
      · obtain ⟨-, -, hrunning, hrunning'⟩ := Platform.reportProgress_spec hrow
        exact hrunning'.trans hrunning.symm
      · exact live_of_running (Platform.reportProgress_spec hrow).2.2.2
    · cases hs
  | complete _ _ _ _ => exact inv_complete h hs
  | fail _ _ _ => exact inv_fail h hc hs
  | reap n staleAfterMs now =>
    cases hs
    have hstale : ∀ {row row'}, Platform.reapStuck staleAfterMs now row = some row' →
        Platform.stale staleAfterMs now row = true := Platform.stale_of_reapStuck
    refine h.touch (fun row row' hrow hrow' => .inr (hc row hrow (hstale hrow')).1)
      fun hopen row row' hrow hrow' => Platform.reapStuck_live (fun hspent => ?_) hrow'
    exact (hc row hrow (hstale hrow')).2 hspent hopen
  | cancel n reason now =>
    cases hs
    have live : ∀ row row', Platform.cancelOn now reason row = some row' → row.live = true :=
      fun row row' hrow => (Platform.cancelOn_spec hrow).1.was_live
    refine h.touch (fun row row' hrow hrow' => .inr (hc row hrow (live row row' hrow')).1)
      fun hopen row row' hrow hrow' => ?_
    exact absurd hopen (hc row hrow (live row row' hrow')).2

end

/-! ## Runs -/

/-- **An open chain has a job.**  In every run in which no dispatch job is dead-lettered or
cancelled while the chain is open, and none is taken from an execution that is on it, a chain in
`pending` or `retrying` has a dispatch job that is queued or running. -/
theorem open_chain_has_job (as : List Action) (s : State)
    (hrun : (dispatchJobs retryId tuning).run init as = some s)
    (htended : (dispatchJobs retryId tuning).Along Tended init as) : Resolvable s :=
  ((dispatchJobs retryId tuning).invariant_along (I := Inv)
    (fun _ _ _ h hc hs => inv_step h hc hs) inv_init htended hrun).resolvable

end Step

/-- The queue's settings in the runs below. -/
def tuning : RetryTuning := ⟨5000, 300000⟩

/-- A dispatch whose engine read fails: the handler throws, and the attempt is failed. -/
def outage (w : Nat) (now : Int) : List Action :=
  [.claimJob w 1 "worker" now, .begin w true, .throws w "connect ECONNREFUSED" false,
   .fail w now .ok]

/-- A chain whose first dispatch meets an outage, and whose second one claims it. -/
def recoveredRun : List Action :=
  .ingest 10 "bind-a" 2 none 60 0 :: outage 0 60000 ++
    [.claimJob 1 1 "worker" 70000, .begin 1 true, .dispatch 1 (.readReports 1),
     .dispatch 1 (.claim 1 .ok)]

theorem open_chain_has_job_recoveredRun :
    ∃ s, (dispatchJobs "r" tuning).run init recoveredRun = some s ∧ Open s ∧ Resolvable s := by
  obtain ⟨s, hs, hopen⟩ : ∃ s, (dispatchJobs "r" tuning).run init recoveredRun = some s ∧ Open s :=
    ⟨_, rfl, _, rfl, rfl⟩
  refine ⟨s, hs, hopen, open_chain_has_job recoveredRun s hs ?_⟩
  have hfail : ∀ t, (dispatchJobs "r" tuning).run init (recoveredRun.take 4) = some t →
      Tended t (.fail 0 60000 .ok) := by
    intro t ht _ x message permanent row hx hhand _ _ hexhausted
    obtain rfl := some.inj ht
    obtain rfl := some.inj hx
    obtain ⟨-, rfl⟩ := Hand.threw.inj hhand
    cases hexhausted
  iterate 4 refine along_cons _ rfl trivial ?_
  refine along_cons _ rfl (hfail _ rfl) ?_
  iterate 3 refine along_cons _ rfl trivial ?_
  exact along_cons _ rfl trivial trivial

/-- An operator cancels the dispatch. -/
def cancelledRun : List Action :=
  [.ingest 10 "bind-a" 1 none 60 0, .cancel 1 none 1000]

/-- The engine cannot be reached for as long as the queue tries. -/
def deadLetteredRun : List Action :=
  .ingest 10 "bind-a" 1 none 60 0 :: (outage 0 60000 ++ outage 1 100000 ++ outage 2 200000 ++
    outage 3 300000)

/-- **What leaves a chain open for good**: its job is cancelled, or the engine cannot be reached
for as long as the queue tries. -/
theorem chains_strand : ∀ as ∈ [cancelledRun, deadLetteredRun],
    ∃ s, (dispatchJobs "r" tuning).run init as = some s ∧ ¬ Resolvable s := by
  have stranded : ∀ s : State, Open s → (∃ row, s.job 1 = some row ∧ row.live = false) →
      (∀ n, s.job (n + 2) = none ∧ s.job 0 = none) → ¬ Resolvable s := by
    rintro s hopen ⟨row₁, hrow₁, hdead⟩ hnone h
    obtain ⟨n, row, hrow, hlive⟩ := h hopen
    match n with
    | 0 => rw [(hnone 0).2] at hrow; cases hrow
    | 1 =>
      obtain rfl := some.inj (hrow₁.symm.trans hrow)
      rw [hdead] at hlive
      cases hlive
    | n + 2 => rw [(hnone n).1] at hrow; cases hrow
  intro as has
  simp only [List.mem_cons, List.not_mem_nil, or_false] at has
  rcases has with rfl | rfl
  all_goals exact ⟨_, rfl, stranded _ ⟨_, rfl, rfl⟩ ⟨_, rfl, rfl⟩ fun n => ⟨rfl, rfl⟩⟩

/-- A chain is stranded while the engine is away. -/
theorem stranded_chain :
    ∃ s, (dispatchJobs "r" tuning).run init deadLetteredRun = some s ∧ ¬ Resolvable s :=
  chains_strand _ (by simp)

end Jkannel.Retry.DispatchJobs
