import Jkannel.Lib.Transition
import Jkannel.Platform.Workers

/-!
# Polls that keep themselves going

Three jobs of the queue are polls: the handler does one sweep and enqueues its own successor, so
that the queue is the clock.  What starts a poll and what continues it is the same check and
insert, `ensureScheduled`, which looks for another job of the type that is queued or running.

* `Poll` is a poll, as far as they differ: `moIngestPoll`, `deliveryRetryScan` and
  `dlrForwardPoll`.  The first is switched by one row of a table, the second by any number of them,
  and the third by the environment.
* `step` is the machine of one poll: the operators' starts, the runs of its handler, and the queue.
* `OnePoll` is what a poll is meant to keep up: exactly one job, while no handler is at work.
* `Orderly` is the condition it holds under, and `one_poll_job` says so for every run.
* `Counted` and `Standing` carry the invariant: a job counts until its successor is there, and
  stands unless its handler has found the poll switched off.
* `polls_die` is a run that breaks it.
-/

namespace Jkannel.Platform.Polls

open Option
open Function (update update_self update_of_ne)
open Transition (Ack)
open Transition.System (along_cons)

/-! ## The polls -/

/-- What switches a poll on. -/
inductive SwitchKind where
  /-- The tenant's one row of the poll's own table. -/
  | stateRow
  /-- Any of the tenant's policies, one for each scope. -/
  | policies
  /-- The environment of the process. -/
  | environment
  deriving DecidableEq

/-- A poll, as far as they differ. -/
structure Poll where
  type : String
  maxAttempts : Nat
  switch : SwitchKind
  /-- The seconds between sweeps, unless the tenant's row says otherwise. -/
  pollIntervalSeconds : Int
  /-- What the table's CHECK asks of a new job. -/
  check : AttemptsCheck 0 maxAttempts

def moIngestPoll : Poll := ⟨"mo.ingest.poll", 3, .stateRow, 30, by decide⟩

def deliveryRetryScan : Poll := ⟨"delivery.retry.scan", 3, .policies, 60, by decide⟩

def dlrForwardPoll : Poll := ⟨"dlr.forward.poll", 3, .environment, 30, by decide⟩

/-- A row that switches a poll on or off. -/
structure Switch where
  /-- What the row is of: one row for each. -/
  scope : Nat
  enabled : Bool
  /-- Whether there is anything to poll for when it is enabled. -/
  triggers : Bool

/-- The rows the poll's table can hold. -/
def SwitchKind.admits : SwitchKind → Switch → Bool
  | .stateRow, sw => sw.scope = 0 && sw.triggers
  | .policies, _ => true
  | .environment, _ => false

/-- Whether an operator switches the poll on. -/
def SwitchKind.startable : SwitchKind → Bool
  | .environment => false
  | _ => true

/-- `Number(interval) || pollIntervalSeconds`, where there is a row to hold an interval. -/
def Poll.delaySeconds (poll : Poll) (interval : Int) : Int :=
  if poll.switch = .environment ∨ interval = 0 then poll.pollIntervalSeconds else interval

/-! ## The machine -/

/-- What an execution is doing with its job. -/
inductive Hand where
  /-- It has claimed the job. -/
  | claimed
  /-- It has found the poll switched on, and is in the sweep. -/
  | sweeping
  /-- The sweep is over, and the transaction that schedules the successor is open. -/
  | checking
  /-- It has found no other job. -/
  | inserting
  /-- The handler is about to return, having enqueued a successor or not. -/
  | returned (scheduled : Bool)
  /-- The handler threw, or the completion did. -/
  | threw (message : String) (permanent : Bool)
  /-- It is done with the job, or dead. -/
  | ended
  deriving DecidableEq

/-- One claim of a job. -/
structure Execution where
  id : Nat
  /-- The row as the claim returned it. -/
  job : JobRow
  hand : Hand

/-- An open transaction of an operator's: the row it has written, and whether it is to insert a
job. -/
structure Start where
  switch : Switch
  inserts : Bool
  /-- It only looks for a job when it enables the poll. -/
  check : inserts = true → switch.enabled = true

/-- What an execution's hand is to its job. -/
def Hand.grip : Hand → Option Grip
  | .threw _ _ => some .late
  | .ended => none
  | _ => some .running

/-- The job an execution is on. -/
def Execution.grip (x : Execution) : Option (Nat × Grip) := x.hand.grip.map fun g => (x.id, g)

/-- The poll's jobs, its switches, and everything under way. -/
structure State where
  job : Nat → Option JobRow
  /-- The next job's id. -/
  next : Nat
  switches : List Switch
  execution : Nat → Option Execution
  /-- The operators' open transactions, by name. -/
  starts : List (Nat × Start)

/-- One step of a request or a worker. -/
inductive Action where
  /-- `setPolling` or `upsertPolicy` writes its row, and looks for a job if that enables the
  poll. -/
  | save (o : Nat) (switch : Switch)
  /-- It inserts the job it is to insert, and commits. -/
  | saved (o : Nat) (now : Int) (ack : Ack)
  /-- `removePolicy`. -/
  | remove (scope : Nat)
  /-- `POST /jobs`. -/
  | create (now : Int)
  /-- `claimNext`. -/
  | claimJob (w id : Nat) (workerId : String) (now : Int)
  /-- The handler looks whether the poll is on; a scan that cannot reach the engine does not. -/
  | look (w : Nat) (reached : Bool)
  /-- The sweep is over, and the switches are read again. -/
  | reread (w : Nat)
  /-- `ensureScheduled` looks for another job. -/
  | check (w : Nat)
  /-- It inserts the successor, and commits. -/
  | insert (w : Nat) (interval now : Int) (ack : Ack)
  /-- The handler throws. -/
  | throws (w : Nat) (message : String) (permanent : Bool)
  /-- The worker dies. -/
  | dies (w : Nat)
  /-- A heartbeat or a progress report lands. -/
  | progress (w : Nat) (percent now : Int)
  /-- `completeJob`. -/
  | complete (w : Nat) (result : String) (now : Int) (ack : Ack)
  /-- `failAttempt`. -/
  | fail (w : Nat) (now : Int) (ack : Ack)
  /-- `reapStuck`, on one job. -/
  | reap (id : Nat) (staleAfterMs now : Int)

/-- Whether some policy is enabled. -/
def anyEnabled (switches : List Switch) : Bool := switches.any Switch.enabled

/-- `scannableEvents`, `polling_enabled` or the allowlist: whether there is anything to poll for. -/
def switchedOn (switches : List Switch) : Bool := switches.any fun sw => sw.enabled && sw.triggers

/-- `INSERT … ON CONFLICT … DO UPDATE`. -/
def upsert (switches : List Switch) (sw : Switch) : List Switch :=
  sw :: switches.filter fun other => other.scope ≠ sw.scope

/-- Before anything has started the poll. -/
def init (poll : Poll) : State where
  job := fun _ => none
  next := 0
  switches := if poll.switch.startable then [] else [⟨0, true, true⟩]
  execution := fun _ => none
  starts := []

/-- The check of `ensureScheduled`: a job that is queued or running, other than the caller's. -/
def State.inFlight (s : State) (excludeJobId : Option Nat) : Bool :=
  (List.range s.next).any fun n => excludeJobId ≠ some n && (s.job n).any JobRow.live

/-- `createOn`. -/
def State.createOn (poll : Poll) (s : State) (delaySeconds now : Int) : State :=
  { s with
    job := update s.job s.next (Platform.insert s.next poll.type poll.maxAttempts
      (if 0 < delaySeconds then some (now + delaySeconds * 1000) else none) now)
    next := s.next + 1 }

def State.setHand (s : State) (w : Nat) (x : Execution) (hand : Hand) : State :=
  { s with execution := update s.execution w (some { x with hand := hand }) }

/-- Whether an open transaction holds the row of `scope`. -/
def State.locked (s : State) (scope : Nat) : Bool :=
  s.starts.any fun p => p.2.switch.scope = scope

/-- What one action does to the poll. -/
@[grind =] def step (poll : Poll) (tuning : RetryTuning) (s : State) : Action → Option State
  | .save o sw =>
    if poll.switch.admits sw ∧ s.locked sw.scope = false ∧ (s.starts.lookup o).isNone then
      some { s with starts := (o, ⟨sw, sw.enabled && !s.inFlight none,
        fun h => (Bool.and_eq_true_iff.mp h).1⟩) :: s.starts }
    else none
  | .saved o now ack =>
    match s.starts.lookup o with
    | some x =>
      let s' := { s with starts := s.starts.filter fun p => p.1 ≠ o }
      if ack.committed then
        let saved := { s' with switches := upsert s.switches x.switch }
        some (if x.inserts then saved.createOn poll 0 now else saved)
      else some s'
    | none => none
  | .remove scope =>
    if poll.switch = .policies ∧ s.locked scope = false then
      some { s with switches := s.switches.filter fun sw => sw.scope ≠ scope }
    else none
  | .create now => some (s.createOn poll 0 now)
  | .claimJob w id workerId now =>
    match s.execution w, (s.job id).bind (claimOn now workerId) with
    | none, some row => some { s with
        job := update s.job id (some row)
        execution := update s.execution w (some ⟨id, row, .claimed⟩) }
    | _, _ => none
  | .look w reached =>
    match s.execution w with
    | some ⟨id, job, .claimed⟩ =>
      -- a scan asks for the engine first, and goes on without having looked when it is away
      some (s.setHand w ⟨id, job, .claimed⟩
        (if switchedOn s.switches || (poll.switch = .policies && !reached) then .sweeping
          else .returned false))
    | _ => none
  | .reread w =>
    match s.execution w with
    | some ⟨id, job, .sweeping⟩ =>
      some (s.setHand w ⟨id, job, .sweeping⟩
        (if poll.switch = .environment || switchedOn s.switches then .checking
          else .returned false))
    | _ => none
  | .check w =>
    match s.execution w with
    | some ⟨id, job, .checking⟩ =>
      some (s.setHand w ⟨id, job, .checking⟩
        (if s.inFlight (some id) then .returned false else .inserting))
    | _ => none
  | .insert w interval now ack =>
    match s.execution w with
    | some ⟨id, job, .inserting⟩ =>
      let s' := if ack.committed then s.createOn poll (poll.delaySeconds interval) now else s
      some (s'.setHand w ⟨id, job, .inserting⟩ (match ack with
          | .ok => .returned true
          | .lost error | .refused error => .threw error false))
    | _ => none
  | .throws w message permanent =>
    match s.execution w with
    | some x =>
      if x.hand.grip = some .running then some (s.setHand w x (.threw message permanent)) else none
    | none => none
  | .dies w => (s.execution w).map fun x => s.setHand w x .ended
  | .progress w percent now => (s.execution w).map fun x =>
    { s with job := updateJob s.job x.id (reportProgress now percent) }
  | .complete w result now ack =>
    match s.execution w with
    | some ⟨id, job, .returned scheduled⟩ =>
      let jobs := if ack.committed then updateJob s.job id (completeJob now result) else s.job
      some ({ s with job := jobs }.setHand w ⟨id, job, .returned scheduled⟩ (match ack with
          | .ok => .ended
          | .lost error | .refused error => .threw error false))
    | _ => none
  | .fail w now ack =>
    match s.execution w with
    | some ⟨id, job, .threw message permanent⟩ =>
      let jobs := if ack.committed then
        updateJob s.job id (failAttempt tuning now job message permanent) else s.job
      some ({ s with job := jobs }.setHand w ⟨id, job, .threw message permanent⟩ .ended)
    | _ => none
  | .reap id staleAfterMs now =>
    some { s with job := updateJob s.job id (reapStuck staleAfterMs now) }

/-- The poll as a transition system. -/
def polls (poll : Poll) (tuning : RetryTuning) : Transition.System State Action :=
  ⟨step poll tuning⟩

/-! ## What a poll keeps up, and when -/

/-- Job `n` is queued or running. -/
def LiveAt (s : State) (n : Nat) : Prop := ∃ row, s.job n = some row ∧ row.live = true

/-- No execution is on the job. -/
def Unattended (s : State) (n : Nat) : Prop :=
  ∀ w x, s.execution w = some x → x.id = n → x.hand = .ended

/-- The poll has been started: by its switch, or by hand where there is none. -/
def Started (poll : Poll) (s : State) : Prop := poll.switch.startable = true ∨ s.next ≠ 0

/-- **What a poll keeps up**: while it is enabled and has been started, exactly one job of its type
is queued or running once no handler is at work. -/
def OnePoll (poll : Poll) (s : State) : Prop :=
  anyEnabled s.switches = true → Started poll s → (∀ n, Unattended s n) → ∃! n, LiveAt s n

/-- The poll is to go on. -/
def Wanted (poll : Poll) (s : State) : Prop := switchedOn s.switches = true ∧ Started poll s

/-- A job that is live, and whose handler is not about to return. -/
def Standing (s : State) (n : Nat) : Prop :=
  LiveAt s n ∧ ∀ w x, s.execution w = some x → x.id = n → ∀ scheduled, x.hand ≠ .returned scheduled

/-- **The condition.**  An operator's start commits while what its check saw still holds: it inserts
when nothing is live, and leaves it to a job that stands; `POST /jobs` is used when nothing is live;
the policies that are enabled have something to retry.  The check of a handler finds no other job;
what comes after its successor is committed neither throws nor dies, and is completed; no job is
dead-lettered while the poll is wanted, and none is taken from an execution that is on it. -/
def Orderly (poll : Poll) (s : State) : Action → Prop
  | .saved o _ ack => ack.committed = true → ∀ x, s.starts.lookup o = some x →
      x.switch.enabled = true → x.switch.triggers = true ∧
        if x.inserts then ∀ n, ¬ LiveAt s n else ∃ n, Standing s n
  | .create _ => ∀ n, ¬ LiveAt s n
  | .check w => ∀ x, s.execution w = some x → s.inFlight (some x.id) = false
  | .insert _ _ _ ack => ∀ error, ack ≠ .lost error
  | .throws w _ _ | .dies w => ∀ x, s.execution w = some x → x.hand ≠ .returned true
  | .complete w _ _ ack => ∀ x, s.execution w = some x → x.hand = .returned true →
      ack.committed = true
  | .fail w _ ack => ack.committed = true → ∀ x message permanent row, s.execution w = some x →
      x.hand = .threw message permanent → s.job x.id = some row → row.status = .running →
      exhausted x.job permanent = true → ¬ Wanted poll s
  | .reap n staleAfterMs now => ∀ row, s.job n = some row → stale staleAfterMs now row = true →
      Unattended s n ∧ (row.maxAttempts ≤ row.attempts → ¬ Wanted poll s)
  | _ => True

/-! ## The invariant

A poll that is wanted stands by one job, and no second one counts. -/

/-- A job that is live, and whose successor is not there yet. -/
def Counted (s : State) (n : Nat) : Prop :=
  LiveAt s n ∧ ∀ w x, s.execution w = some x → x.id = n → x.hand ≠ .returned true

/-- What a step of a poll keeps. -/
structure Inv (poll : Poll) (s : State) : Prop where
  holds : Holds s.job (onOf Execution.grip s.execution)
  fresh : ∀ n, s.next ≤ n → s.job n = none
  triggers : ∀ sw ∈ s.switches, sw.enabled = true → sw.triggers = true
  /-- There is one poll. -/
  sole : ∀ n m, Counted s n → Counted s m → n = m
  /-- And it goes on while it is wanted. -/
  wanted : Wanted poll s → ∃ n, Standing s n

theorem inv_init (poll : Poll) : Inv poll (init poll) where
  holds := Holds.empty
  fresh := fun _ _ => rfl
  triggers := by
    intro sw hsw _
    rw [init] at hsw
    split at hsw
    · cases hsw
    · rw [List.mem_singleton.mp hsw]
  sole := fun _ _ h => by
    obtain ⟨⟨row, hrow, -⟩, -⟩ := h
    cases hrow
  wanted := by
    rintro ⟨hon, hstarted⟩
    rcases hstarted with hstartable | hnext
    · simp [init, hstartable, switchedOn] at hon
    · exact absurd rfl hnext

/-- What is enabled has something to poll for. -/
theorem Inv.switchedOn {poll : Poll} {s : State} (h : Inv poll s)
    (hon : anyEnabled s.switches = true) : switchedOn s.switches = true := by
  obtain ⟨sw, hsw, henabled⟩ := List.any_eq_true.mp hon
  refine List.any_eq_true.mpr ⟨sw, hsw, ?_⟩
  rw [henabled, h.triggers sw hsw henabled]
  rfl

theorem Inv.onePoll {poll : Poll} {s : State} (h : Inv poll s) : OnePoll poll s := by
  intro hon hstarted hquiet
  obtain ⟨n, hlive, -⟩ := h.wanted ⟨h.switchedOn hon, hstarted⟩
  -- with no handler at work, every live job counts
  have counted : ∀ m, LiveAt s m → Counted s m := by
    refine fun m hm => ⟨hm, fun w x hx hid => ?_⟩
    rw [hquiet m w x hx hid]
    simp
  exact ⟨n, hlive, fun m hm => h.sole m n (counted m hm) (counted n hlive)⟩

/-! ## What the steps are made of -/

section Steps

variable {poll : Poll} {s : State}

/-- A job that has just been created is in the queue, and due. -/
theorem createOn_spec (poll : Poll) (s : State) (delaySeconds now : Int) :
    ∃ row, row.status = .queued ∧ s.createOn poll delaySeconds now =
      { s with job := update s.job s.next (some row), next := s.next + 1 } := by
  obtain ⟨row, hrow, hqueued, -⟩ := insert_spec s.next poll.type
    (if 0 < delaySeconds then some (now + delaySeconds * 1000) else none) now poll.check
  exact ⟨row, hqueued, by rw [State.createOn, hrow]⟩

/-- The jobs that count stay those, and those that stand stay up. -/
theorem Inv.frame {s' : State} (h : Inv poll s)
    (hholds : Holds s'.job (onOf Execution.grip s'.execution))
    (hfresh : ∀ n, s'.job n = none ↔ s.job n = none) (hnext : s'.next = s.next)
    (hswitches : s'.switches = s.switches) (hcounted : ∀ n, Counted s' n → Counted s n)
    (hstanding : Wanted poll s → ∀ n, Standing s n → Standing s' n) : Inv poll s' where
  holds := hholds
  fresh := fun n hn => (hfresh n).mpr (h.fresh n (hnext ▸ hn))
  triggers := by
    rw [hswitches]
    exact h.triggers
  sole := fun n m hn hm => h.sole n m (hcounted n hn) (hcounted m hm)
  wanted := by
    intro hw
    have hwanted : Wanted poll s := by
      rw [Wanted, Started, hswitches, hnext] at hw
      exact hw
    obtain ⟨n, hn⟩ := h.wanted hwanted
    exact ⟨n, hstanding hwanted n hn⟩

variable {w : Nat} {x : Execution} {f : JobRow → Option JobRow} {job : Nat → Option JobRow}

/-- The row of a job whose execution runs it is running. -/
theorem Inv.running (h : Inv poll s) (hx : s.execution w = some x)
    (hgrip : x.hand.grip = some .running) :
    ∃ row, s.job x.id = some row ∧ row.status = .running := by
  have hw : onOf Execution.grip s.execution w = some (x.id, .running) :=
    onOf_eq.mpr ⟨x, hx, by rw [Execution.grip, hgrip]; rfl⟩
  obtain ⟨row, hrow, -, hrunning⟩ := h.holds.held w _ _ hw
  exact ⟨row, hrow, hrunning rfl⟩

/-- And nobody else is on it. -/
theorem Inv.alone (h : Inv poll s) {v : Nat} {y : Execution} (hx : s.execution w = some x)
    (hy : s.execution v = some y) (hgrip : x.hand.grip ≠ none) (hid : y.id = x.id)
    (hactive : y.hand.grip ≠ none) : v = w := by
  obtain ⟨g, hg⟩ := ne_none_iff_exists'.mp hgrip
  obtain ⟨g', hg'⟩ := ne_none_iff_exists'.mp hactive
  refine h.holds.alone v w x.id g' g (onOf_eq.mpr ⟨y, hy, ?_⟩) (onOf_eq.mpr ⟨x, hx, ?_⟩)
  · rw [Execution.grip, hg', ← hid]
    rfl
  · rw [Execution.grip, hg]
    rfl

/-- **An execution changes hands**, and with them perhaps its job. -/
theorem Inv.hand {hand : Hand} (h : Inv poll s)
    (hx : s.execution w = some x)
    (hholds : Holds job (onOf Execution.grip (update s.execution w
      (some { x with hand := hand })))) (hfresh : ∀ n, job n = none ↔ s.job n = none)
    (hlive : ∀ n, LiveAt { s with job := job } n → LiveAt s n)
    (hdone : x.hand = .returned true → ¬ LiveAt { s with job := job } x.id)
    (hreturns : ∀ scheduled, hand = .returned scheduled → scheduled = false ∧ ¬ Wanted poll s)
    (hstays : Wanted poll s → ∀ n, Standing s n → LiveAt { s with job := job } n) :
    Inv poll ({ s with job := job }.setHand w x hand) := by
  refine h.frame hholds hfresh rfl rfl (fun n hn => ?_) fun hw n hn => ?_
  · refine ⟨hlive n hn.1, fun v y hy hid hscheduled => ?_⟩
    by_cases hv : v = w
    · subst hv
      obtain rfl := some.inj (hx.symm.trans hy)
      exact hdone hscheduled (hid ▸ hn.1)
    · exact hn.2 v y (by rw [← hy]; exact update_of_ne hv ..) hid hscheduled
  · refine ⟨hstays hw n hn, fun v y hy hid scheduled hreturned => ?_⟩
    by_cases hv : v = w
    · subst hv
      have hself : some { x with hand := hand } = some y := by simpa [State.setHand] using hy
      cases hself
      exact (hreturns scheduled hreturned).2 hw
    · exact hn.2 v y (by rw [← hy]; exact (update_of_ne hv ..).symm) hid scheduled hreturned

/-- An execution goes on with its job, or fails, or stops for want of anything to do. -/
theorem Inv.goes {hand : Hand} (h : Inv poll s) (hx : s.execution w = some x)
    (hgrip : x.hand.grip = some .running) (hnot : x.hand ≠ .returned true)
    (hreturns : ∀ scheduled, hand = .returned scheduled → scheduled = false ∧ ¬ Wanted poll s) :
    Inv poll (s.setHand w x hand) := by
  obtain ⟨row, hrow, hrunning⟩ := h.running hx hgrip
  refine h.hand hx ?_ (fun _ => Iff.rfl) (fun _ hn => hn) (fun hdone => absurd hdone hnot) hreturns
    fun _ _ hn => hn.1
  refine h.holds.hand (g := .running) hx (by rw [Execution.grip, hgrip]; rfl) (fun _ _ => rfl)
    fun m g hg => ?_
  obtain ⟨g', -, heq⟩ := map_eq_some_iff.mp hg
  exact ⟨(Prod.mk.inj heq).1.symm, row, hrow, by rw [hrunning]; decide, fun _ => hrunning⟩

theorem liveAt_updateJob {id n : Nat} (hf : ∀ row row', f row = some row' → Statement row row')
    (hn : LiveAt { s with job := updateJob s.job id f } n) : LiveAt s n := by
  obtain ⟨row', hrow', hlive⟩ := hn
  by_cases hid : n = id
  · subst hid
    cases hrow : s.job n with
    | none =>
      have hnone : updateJob s.job n f n = none := (updateJob_eq_none s.job n f n).mpr hrow
      cases hnone.symm.trans hrow'
    | some row =>
      have hself : updateJob s.job n f n = some row' := hrow'
      rw [updateJob_self f hrow] at hself
      cases hself
      refine ⟨row, hrow, ?_⟩
      cases hrow₁ : f row with
      | some row₁ => exact (hf row row₁ hrow₁).was_live
      | none => simpa [hrow₁] using hlive
  · have hsame : updateJob s.job id f n = some row' := hrow'
    rw [updateJob_of_ne s.job f hid] at hsame
    exact ⟨row', hsame, hlive⟩

section

variable (h : Inv poll s)
include h

/-- An execution puts down a job it has returned from, or failed. -/
theorem Inv.putsDown {hand : Hand}
    (hx : s.execution w = some x) (hactive : x.hand.grip ≠ none)
    (hf : ∀ row row', f row = some row' → Statement row row')
    (hjob : job = s.job ∨ job = updateJob s.job x.id f)
    (hgrip : ∀ g, hand.grip = some g → g = .late ∧
      ∀ row row', f row = some row' → row'.status ≠ .queued)
    (hdone : x.hand = .returned true → ¬ LiveAt { s with job := job } x.id)
    (hstays : Wanted poll s → Standing s x.id → LiveAt { s with job := job } x.id) :
    Inv poll ({ s with job := job }.setHand w x hand) := by
  obtain ⟨g, hg⟩ := ne_none_iff_exists'.mp hactive
  obtain ⟨row, hrow, hqueued, -⟩ := h.holds.held w x.id g
    (onOf_eq.mpr ⟨x, hx, by rw [Execution.grip, hg]; rfl⟩)
  have hother : ∀ m, m ≠ x.id → job m = s.job m := by
    intro m hm
    rcases hjob with rfl | rfl
    · rfl
    · exact updateJob_of_ne s.job f hm
  refine h.hand hx ?_ (fun n => ?_) (fun n hn => ?_) hdone (fun scheduled hreturned => ?_)
    fun hw n hn => ?_
  · refine h.holds.hand (x := x) (g := g) hx (by rw [Execution.grip, hg]; rfl) hother
      fun m g' hm => ?_
    obtain ⟨g₁, hg', heq⟩ := map_eq_some_iff.mp hm
    obtain ⟨rfl, rfl⟩ := Prod.mk.inj heq
    refine ⟨rfl, ?_⟩
    obtain ⟨rfl, hqueued'⟩ := hgrip g₁ hg'
    rcases hjob with rfl | rfl
    · exact ⟨row, hrow, hqueued, fun he => by cases he⟩
    · refine ⟨_, updateJob_self f hrow, ?_, fun he => by cases he⟩
      cases hrow' : f row with
      | some row' => exact hqueued' row row' hrow'
      | none => exact hqueued
  · rcases hjob with rfl | rfl
    · exact Iff.rfl
    · exact updateJob_eq_none s.job x.id f n
  · rcases hjob with rfl | rfl
    · exact hn
    · exact liveAt_updateJob hf hn
  · subst hreturned
    obtain ⟨hlate, -⟩ := hgrip .running rfl
    cases hlate
  · by_cases hid : n = x.id
    · subst hid
      exact hstays hw hn
    · obtain ⟨row', hrow', hlive'⟩ := hn.1
      exact ⟨row', (hother n hid).trans hrow', hlive'⟩

/-- A statement on a job keeps its status, or finds no execution on it. -/
theorem Inv.touch {id : Nat} (hf : ∀ row row', f row = some row' → Statement row row')
    (hfree : ∀ row row', s.job id = some row → f row = some row' →
      row'.status = row.status ∨ Unattended s id)
    (hstays : Wanted poll s → ∀ row row', s.job id = some row → f row = some row' →
      row'.live = true) : Inv poll { s with job := updateJob s.job id f } := by
  refine h.frame (h.holds.updateJob fun row row' hrow hrow' => ?_) (updateJob_eq_none s.job id f)
    rfl rfl (fun n hn => ⟨liveAt_updateJob hf hn.1, hn.2⟩) fun hw n hn => ⟨?_, hn.2⟩
  · refine (hfree row row' hrow hrow').imp_right fun hun w g hw => ?_
    obtain ⟨x, hx, hgrip⟩ := onOf_eq.mp hw
    obtain ⟨g', hg', heq⟩ := map_eq_some_iff.mp hgrip
    rw [hun w x hx (Prod.mk.inj heq).1] at hg'
    cases hg'
  · obtain ⟨row, hrow, hlive⟩ := hn.1
    exact staysLive_updateJob (hstays hw) n row hrow hlive

/-- No execution is on a job that is yet to be created. -/
theorem Inv.unborn (hx : s.execution w = some x) (hid : x.id = s.next) :
    x.hand.grip = none := by
  by_contra hactive
  obtain ⟨g, hg⟩ := ne_none_iff_exists'.mp hactive
  exact h.holds.nobody_of_none (h.fresh x.id (Nat.le_of_eq hid.symm)) w g
    (onOf_eq.mpr ⟨x, hx, by rw [Execution.grip, hg]; rfl⟩)

theorem Inv.createOn_holds (row : JobRow) :
    Holds (update s.job s.next (some row)) (onOf Execution.grip s.execution) :=
  h.holds.frame fun w n g hw => by
    refine update_of_ne ?_ ..
    rintro rfl
    exact h.holds.nobody_of_none (h.fresh s.next (Nat.le_refl _)) w g hw

theorem Inv.createOn_fresh (row : JobRow) (n : Nat) (hn : s.next + 1 ≤ n) :
    update s.job s.next (some row) n = none := by
  rw [update_of_ne (by omega)]
  exact h.fresh n (by omega)

/-- **A start** inserts a job when none is live. -/
theorem Inv.starts {switches : List Switch} {starts : List (Nat × Start)}
    (htriggers : ∀ sw ∈ switches, sw.enabled = true → sw.triggers = true)
    (hnone : ∀ n, ¬ LiveAt s n) (now : Int) :
    Inv poll (({ s with switches := switches, starts := starts }).createOn poll 0 now) := by
  obtain ⟨row, hqueued, heq⟩ :=
    createOn_spec poll { s with switches := switches, starts := starts } 0 now
  rw [heq]
  have hself : LiveAt { s with job := update s.job s.next (some row) } s.next :=
    ⟨row, update_self .., live_of_queued hqueued⟩
  have only : ∀ n, LiveAt { s with job := update s.job s.next (some row) } n →
      n = s.next := by
    rintro n ⟨row', hrow', hlive⟩
    by_contra hne
    exact hnone n ⟨row', (update_of_ne hne ..).symm.trans hrow', hlive⟩
  refine ⟨h.createOn_holds row, h.createOn_fresh row, htriggers, fun n m hn hm => ?_, fun _ => ?_⟩
  · exact (only n hn.1).trans (only m hm.1).symm
  · refine ⟨s.next, hself, fun w x hx hid scheduled hreturned => ?_⟩
    have hgrip := h.unborn hx hid
    rw [hreturned] at hgrip
    cases hgrip

/-- **A handler** inserts its successor, and its own job counts no more. -/
theorem Inv.succeeds (hx : s.execution w = some x) (hhand : x.hand = .inserting)
    (delaySeconds now : Int) :
    Inv poll ((s.createOn poll delaySeconds now).setHand w x (.returned true)) := by
  obtain ⟨row, hqueued, heq⟩ := createOn_spec poll s delaySeconds now
  rw [heq]
  have hgrip : x.hand.grip = some .running := by rw [hhand]; rfl
  obtain ⟨own, hown, hrunning⟩ := h.running hx hgrip
  have hid : x.id ≠ s.next := by
    intro hid
    rw [h.fresh x.id (Nat.le_of_eq hid.symm)] at hown
    cases hown
  have hcounted : Counted s x.id := by
    refine ⟨⟨own, hown, live_of_running hrunning⟩, fun v y hy hyid hreturned => ?_⟩
    have hv : v = w := h.alone hx hy (by rw [hgrip]; simp) hyid (by rw [hreturned]; simp [Hand.grip])
    subst hv
    obtain rfl := some.inj (hx.symm.trans hy)
    rw [hhand] at hreturned
    cases hreturned
  refine ⟨?_, h.createOn_fresh row, h.triggers, ?_, fun _ => ?_⟩
  · refine (h.createOn_holds row).hand (g := .running) hx (by rw [Execution.grip, hgrip]; rfl)
      (fun _ _ => rfl) fun m g hg => ?_
    obtain ⟨g', -, heq'⟩ := map_eq_some_iff.mp hg
    refine ⟨(Prod.mk.inj heq').1.symm, own, ?_, by rw [hrunning]; decide, fun _ => hrunning⟩
    exact (update_of_ne hid ..).trans hown
  · -- only the successor counts
    have only : ∀ n, Counted (({ s with
        job := update s.job s.next (some row), next := s.next + 1 } : State).setHand w x
          (.returned true)) n → n = s.next := by
      rintro n ⟨⟨row', hrow', hlive⟩, hcount⟩
      by_contra hne
      have hnx : n ≠ x.id := fun hnx =>
        hcount w { x with hand := .returned true } (update_self ..) hnx.symm rfl
      refine hnx (h.sole n x.id ⟨⟨row', ?_, hlive⟩, fun v y hy hyid => ?_⟩ hcounted)
      · exact (update_of_ne hne ..).symm.trans hrow'
      · by_cases hv : v = w
        · subst hv
          obtain rfl := some.inj (hx.symm.trans hy)
          exact absurd hyid.symm hnx
        · exact hcount v y (by rw [← hy]; exact update_of_ne hv ..) hyid
    exact fun n m hn hm => (only n hn).trans (only m hm).symm
  · refine ⟨s.next, ⟨row, update_self .., live_of_queued hqueued⟩, ?_⟩
    intro v y hy hyid scheduled hreturned
    by_cases hv : v = w
    · subst hv
      have hself : some { x with hand := .returned true } = some y := by
        simpa [State.setHand] using hy
      cases hself
      exact hid hyid
    · have hy' : s.execution v = some y := by rw [← hy]; exact (update_of_ne hv ..).symm
      have hgrip' := h.unborn hy' hyid
      rw [hreturned] at hgrip'
      cases hgrip'

end

theorem mem_upsert {switches : List Switch} {sw other : Switch} (h : other ∈ upsert switches sw) :
    other = sw ∨ other ∈ switches :=
  (List.mem_cons.mp h).imp_right List.mem_of_mem_filter

/-- Switching off what was on does not switch anything on. -/
theorem switchedOn_mono {switches switches' : List Switch}
    (h : ∀ sw ∈ switches', sw.enabled = true → sw ∈ switches)
    (hon : Polls.switchedOn switches' = true) : Polls.switchedOn switches = true := by
  obtain ⟨sw, hsw, hboth⟩ := List.any_eq_true.mp hon
  exact List.any_eq_true.mpr ⟨sw, h sw hsw (Bool.and_eq_true_iff.mp hboth).1, hboth⟩

/-- The switches change, and the jobs do not. -/
theorem Inv.switches {switches : List Switch} {starts : List (Nat × Start)} (h : Inv poll s)
    (htriggers : ∀ sw ∈ switches, sw.enabled = true → sw.triggers = true)
    (hwanted : Wanted poll { s with switches := switches } → ∃ n, Standing s n) :
    Inv poll { s with switches := switches, starts := starts } where
  __ := h
  triggers := htriggers
  wanted := hwanted

end Steps

section Run

variable {poll : Poll} {tuning : RetryTuning} {s s' : State} {w id : Nat} {now : Int} {ack : Ack}

section

variable (h : Inv poll s)
include h

theorem Inv.saved {o : Nat} (hc : Orderly poll s (.saved o now ack))
    (hs : step poll tuning s (.saved o now ack) = some s') : Inv poll s' := by
  simp only [step] at hs
  split at hs
  · rename_i x hx
    split at hs
    · rename_i hack
      cases hs
      have hcond := hc hack x hx
      have htriggers : ∀ sw ∈ upsert s.switches x.switch, sw.enabled = true →
          sw.triggers = true := by
        intro sw hsw henabled
        rcases mem_upsert hsw with rfl | hold
        · exact (hcond henabled).1
        · exact h.triggers sw hold henabled
      cases henabled : x.switch.enabled with
      | false =>
        have hwanted : Wanted poll { s with switches := upsert s.switches x.switch } →
            ∃ n, Standing s n := by
          rintro ⟨hon, hstarted⟩
          refine h.wanted ⟨switchedOn_mono (fun sw hsw he => ?_) hon, hstarted⟩
          rcases mem_upsert hsw with rfl | hold
          · rw [henabled] at he
            cases he
          · exact hold
        split
        · rename_i hinserts
          rw [x.check hinserts] at henabled
          cases henabled
        · exact h.switches htriggers hwanted
      | true =>
        obtain ⟨-, hsaw⟩ := hcond henabled
        split
        · rename_i hinserts
          rw [if_pos hinserts] at hsaw
          exact h.starts htriggers hsaw now
        · rename_i hinserts
          rw [if_neg hinserts] at hsaw
          exact h.switches htriggers fun _ => hsaw
    · cases hs
      exact h.switches h.triggers h.wanted
  · cases hs

theorem Inv.claimJob {workerId : String}
    (hs : step poll tuning s (.claimJob w id workerId now) = some s') : Inv poll s' := by
  rw [step] at hs
  split at hs
  · rename_i row hfree hclaim
    cases hs
    obtain ⟨row₀, hrow₀, hclaimed⟩ := bind_eq_some_iff.mp hclaim
    obtain ⟨-, -, hqueued, hrunning⟩ := claimOn_spec hclaimed
    refine h.frame (h.holds.begin ⟨id, row, .claimed⟩ hrow₀ hqueued hrunning rfl)
      (fun n => ?_) rfl rfl (fun n hn => ⟨?_, fun v y hy => ?_⟩) fun _ n hn => ⟨?_, fun v y hy => ?_⟩
    · show update s.job id (some row) n = none ↔ s.job n = none
      by_cases hn : n = id
      · subst hn
        simp [hrow₀]
      · rw [update_of_ne hn]
    · obtain ⟨row', hrow', hlive⟩ := hn.1
      by_cases hid : n = id
      · subst hid
        exact ⟨row₀, hrow₀, live_of_queued hqueued⟩
      · exact ⟨row', (update_of_ne hid ..).symm.trans hrow', hlive⟩
    · refine hn.2 v y ?_
      have hv : v ≠ w := by
        rintro rfl
        rw [hfree] at hy
        cases hy
      rw [← hy]
      exact update_of_ne hv ..
    · by_cases hid : n = id
      · subst hid
        exact ⟨row, update_self .., live_of_running hrunning⟩
      · obtain ⟨row', hrow', hlive⟩ := hn.1
        exact ⟨row', (update_of_ne hid ..).trans hrow', hlive⟩
    · by_cases hv : v = w
      · subst hv
        have : some (⟨id, row, .claimed⟩ : Execution) = some y := by simpa using hy
        cases this
        intro _ scheduled hreturned
        cases hreturned
      · exact hn.2 v y (by rw [← hy]; exact (update_of_ne hv ..).symm)
  · cases hs

theorem Inv.look {reached : Bool}
    (hs : step poll tuning s (.look w reached) = some s') : Inv poll s' := by
  rw [step] at hs
  split at hs
  · rename_i id job hx
    cases hs
    refine h.goes (x := ⟨id, job, .claimed⟩) hx rfl (by simp) fun scheduled hreturned => ?_
    split at hreturned
    · cases hreturned
    · rename_i hoff
      obtain rfl := Hand.returned.inj hreturned
      refine ⟨rfl, fun hw => hoff ?_⟩
      rw [hw.1]
      rfl
  · cases hs

theorem Inv.reread (hs : step poll tuning s (.reread w) = some s') :
    Inv poll s' := by
  rw [step] at hs
  split at hs
  · rename_i id job hx
    cases hs
    refine h.goes (x := ⟨id, job, .sweeping⟩) hx rfl (by simp) fun scheduled hreturned => ?_
    split at hreturned
    · cases hreturned
    · rename_i hoff
      obtain rfl := Hand.returned.inj hreturned
      refine ⟨rfl, fun hw => hoff ?_⟩
      rw [hw.1, Bool.or_true]
  · cases hs

theorem Inv.complete {result : String} (hc : Orderly poll s (.complete w result now ack))
    (hs : step poll tuning s (.complete w result now ack) = some s') : Inv poll s' := by
  simp only [step] at hs
  split at hs
  · rename_i id job scheduled hx
    cases hs
    refine h.putsDown (x := ⟨id, job, .returned scheduled⟩) (f := completeJob now result) hx
      (by simp [Hand.grip]) (fun row row' hrow => (completeJob_spec hrow).1) ?_ (fun g hg => ?_)
      (fun hdone => ?_) fun hw hstanding => ?_
    · split
      · exact .inr rfl
      · exact .inl rfl
    · refine ⟨?_, fun row row' hrow => by rw [(completeJob_spec hrow).2.2.2]; decide⟩
      cases ack with
      | ok => cases hg
      | lost _ | refused _ => exact (some.inj hg).symm
    · -- the job is running, so the completion finds it
      obtain ⟨row, hrow, hrunning⟩ := h.running hx rfl
      have hcommitted : ack.committed = true := hc _ hx hdone
      rintro ⟨row', hrow', hlive⟩
      simp only [hcommitted, if_true] at hrow'
      rw [updateJob_self _ hrow, completeJob, if_pos hrunning] at hrow'
      cases hrow'
      cases hlive
    · exact absurd rfl (hstanding.2 w _ hx rfl scheduled)
  · cases hs

theorem Inv.fail (hc : Orderly poll s (.fail w now ack))
    (hs : step poll tuning s (.fail w now ack) = some s') : Inv poll s' := by
  simp only [step] at hs
  split at hs
  · rename_i id job message permanent hx
    cases hs
    refine h.putsDown (x := ⟨id, job, .threw message permanent⟩)
      (f := failAttempt tuning now job message permanent) hx (by simp [Hand.grip])
      (fun row row' hrow => (failAttempt_spec hrow).1) ?_ (fun g hg => by cases hg)
      (fun hdone => by cases hdone) fun hw hstanding => ?_
    · split
      · exact .inr rfl
      · exact .inl rfl
    · cases hack : ack.committed with
      | false => exact hstanding.1
      | true =>
        obtain ⟨row, hrow, hlive⟩ := hstanding.1
        refine ⟨_, updateJob_self _ hrow, ?_⟩
        cases hfail : failAttempt tuning now job message permanent row with
        | none => exact hlive
        | some row' =>
          have hmore : exhausted job permanent ≠ true := fun hexhausted =>
            hc hack _ message permanent row hx rfl hrow (failAttempt_spec hfail).2.2.1 hexhausted hw
          exact failAttempt_live hmore hfail
  · cases hs

theorem Inv.reap {staleAfterMs : Int} (hc : Orderly poll s (.reap id staleAfterMs now))
    (hs : step poll tuning s (.reap id staleAfterMs now) = some s') : Inv poll s' := by
  cases hs
  refine h.touch (fun row row' hrow => (reapStuck_spec hrow).1)
    (fun row row' hrow hrow' => .inr (hc row hrow (stale_of_reapStuck hrow')).1)
    fun hw row row' hrow hrow' => reapStuck_live (fun hspent => ?_) hrow'
  exact (hc row hrow (stale_of_reapStuck hrow')).2 hspent hw

/-- **The step.** -/
theorem inv_step {a : Action} (hc : Orderly poll s a)
    (hs : step poll tuning s a = some s') : Inv poll s' := by
  cases a with
  | save o sw =>
    rw [step] at hs
    split at hs
    · cases hs
      exact h.switches h.triggers h.wanted
    · cases hs
  | saved _ _ _ => exact h.saved hc hs
  | remove scope =>
    rw [step] at hs
    split at hs
    · cases hs
      refine h.switches (fun sw hsw => h.triggers sw (List.mem_of_mem_filter hsw)) ?_
      rintro ⟨hon, hstarted⟩
      exact h.wanted ⟨switchedOn_mono (fun sw hsw _ => List.mem_of_mem_filter hsw) hon, hstarted⟩
    · cases hs
  | create now =>
    cases hs
    exact h.starts h.triggers hc now
  | claimJob _ _ _ _ => exact h.claimJob hs
  | look _ _ => exact h.look hs
  | reread _ => exact h.reread hs
  | check w =>
    rw [step] at hs
    split at hs
    · rename_i id job hx
      cases hs
      have hnone : s.inFlight (some id) = false := hc _ hx
      refine h.goes (x := ⟨id, job, .checking⟩) hx rfl (by simp) fun scheduled hreturned => ?_
      rw [hnone] at hreturned
      cases hreturned
    · cases hs
  | insert w interval now ack =>
    simp only [step] at hs
    split at hs
    · rename_i id job hx
      cases hs
      cases ack with
      | ok => exact h.succeeds hx rfl (poll.delaySeconds interval) now
      | lost error => exact absurd rfl (hc error)
      | refused error =>
        exact h.goes (x := ⟨id, job, .inserting⟩) hx rfl (by simp) fun _ he => by cases he
    · cases hs
  | throws w message permanent =>
    rw [step] at hs
    split at hs
    · rename_i x hx
      split at hs
      · rename_i hgrip
        cases hs
        exact h.goes hx hgrip (hc x hx) fun _ he => by cases he
      · cases hs
    · cases hs
  | dies w =>
    obtain ⟨x, hx, rfl⟩ := map_eq_some_iff.mp hs
    exact h.hand hx (h.holds.letGo { x with hand := .ended } rfl) (fun _ => Iff.rfl)
      (fun _ hn => hn) (fun hdone => absurd hdone (hc x hx)) (fun _ he => by cases he)
      fun _ _ hn => hn.1
  | progress w percent now =>
    obtain ⟨x, hx, rfl⟩ := map_eq_some_iff.mp hs
    refine h.touch (fun row row' hrow => (reportProgress_spec hrow).1)
      (fun row row' _ hrow => .inl ?_) fun _ row row' _ hrow => ?_
    · obtain ⟨-, -, hrunning, hrunning'⟩ := reportProgress_spec hrow
      exact hrunning'.trans hrunning.symm
    · exact live_of_running (reportProgress_spec hrow).2.2.2
  | complete _ _ _ _ => exact h.complete hc hs
  | fail _ _ _ => exact h.fail hc hs
  | reap _ _ _ => exact h.reap hc hs

end

/-- **One poll, for good.**  In every orderly run, while the poll is enabled and has been started,
exactly one job of its type is queued or running once no handler is at work. -/
theorem one_poll_job (as : List Action) (s : State)
    (hrun : (polls poll tuning).run (init poll) as = some s)
    (horderly : (polls poll tuning).Along (Orderly poll) (init poll) as) : OnePoll poll s :=
  ((polls poll tuning).invariant_along (I := Inv poll)
    (fun _ _ _ h hc hs => inv_step h hc hs) (inv_init poll) horderly hrun).onePoll

end Run

/-! ## Runs that break it -/

/-- The queue's settings in the runs below. -/
def tuning : RetryTuning := ⟨5000, 300000⟩

/-- What starts a poll: an operator's switch, or `POST /jobs` where there is none. -/
def begins (poll : Poll) : List Action :=
  if poll.switch.startable then [.save 0 ⟨0, true, true⟩, .saved 0 0 .ok] else [.create 0]

/-- A run of the handler up to its successor's insert. -/
def sweeps (w id : Nat) (now : Int) : List Action :=
  [.claimJob w id "worker" now, .look w true, .reread w, .check w, .insert w 0 now .ok]

/-- A run of the handler whose sweep throws. -/
def throwsIn (w id : Nat) (now : Int) : List Action :=
  [.claimJob w id "worker" now, .look w true, .throws w "connect ECONNREFUSED" false,
   .fail w now .ok]

/-- A poll that is started and sweeps once. -/
def steadyRun (poll : Poll) : List Action :=
  begins poll ++ sweeps 0 0 1000 ++ [.complete 0 "" 1000 .ok]

theorem one_poll_job_steadyRun :
    ∃ s, (polls moIngestPoll tuning).run (init moIngestPoll) (steadyRun moIngestPoll) = some s ∧
      OnePoll moIngestPoll s := by
  obtain ⟨s, hs⟩ : ∃ s, (polls moIngestPoll tuning).run (init moIngestPoll)
      (steadyRun moIngestPoll) = some s := ⟨_, rfl⟩
  refine ⟨s, hs, one_poll_job _ s hs ?_⟩
  have hsaved : ∀ t, (polls moIngestPoll tuning).run (init moIngestPoll)
      ((steadyRun moIngestPoll).take 1) = some t → Orderly moIngestPoll t (.saved 0 0 .ok) := by
    intro t ht _ x hx _
    obtain rfl := some.inj ht
    obtain rfl := some.inj hx
    exact ⟨rfl, fun n ⟨row, hrow, _⟩ => by cases hrow⟩
  have hcheck : ∀ t, (polls moIngestPoll tuning).run (init moIngestPoll)
      ((steadyRun moIngestPoll).take 5) = some t → Orderly moIngestPoll t (.check 0) := by
    intro t ht x hx
    obtain rfl := some.inj ht
    obtain rfl := some.inj hx
    rfl
  refine along_cons _ rfl trivial ?_
  refine along_cons _ rfl (hsaved _ rfl) ?_
  iterate 3 refine along_cons _ rfl trivial ?_
  refine along_cons _ rfl (hcheck _ rfl) ?_
  refine along_cons _ rfl (fun _ he => by cases he) ?_
  exact along_cons _ rfl (fun _ _ _ => rfl) trivial

/-- The sweep throws for as long as the queue tries. -/
def deadLetteredRun (poll : Poll) : List Action :=
  begins poll ++ throwsIn 0 0 1000 ++ throwsIn 1 0 100000 ++ throwsIn 2 0 200000

/-- The successor's handler checks while its predecessor has yet to complete. -/
def overtakenRun (poll : Poll) : List Action :=
  begins poll ++ sweeps 0 0 1000 ++
    [.claimJob 1 1 "worker" 100000, .look 1 true, .reread 1, .check 1,
     .complete 1 "" 100000 .ok, .complete 0 "" 100000 .ok]

/-- **Two ways for a poll to die**, whichever it is: its job is dead-lettered, or it and its
successor each leave it to the other. -/
theorem polls_die : ∀ poll ∈ [moIngestPoll, deliveryRetryScan, dlrForwardPoll],
    ∀ as ∈ [deadLetteredRun poll, overtakenRun poll],
      ∃ s, (polls poll tuning).run (init poll) as = some s ∧ ¬ OnePoll poll s := by
  have died : ∀ (poll : Poll) (s : State), anyEnabled s.switches = true → Started poll s →
      (∀ w, (s.execution w).all (fun x => x.hand = .ended) = true) →
      (∀ n, (s.job n).any JobRow.live = false) → ¬ OnePoll poll s := by
    intro poll s hon hstarted hended hdead h
    obtain ⟨n, ⟨row, hrow, hlive⟩, -⟩ := h hon hstarted fun n w x hx _ => by
      simpa [hx] using hended w
    have := hdead n
    rw [hrow, any_some, hlive] at this
    cases this
  intro poll hpoll as has
  simp only [List.mem_cons, List.not_mem_nil, or_false] at hpoll has
  rcases hpoll with rfl | rfl | rfl <;> rcases has with rfl | rfl
  · exact ⟨_, rfl, died _ _ rfl (.inl rfl) (by rintro (_ | _ | _ | w) <;> rfl)
      (by rintro (_ | _ | n) <;> rfl)⟩
  · exact ⟨_, rfl, died _ _ rfl (.inl rfl) (by rintro (_ | _ | _ | w) <;> rfl)
      (by rintro (_ | _ | n) <;> rfl)⟩
  · exact ⟨_, rfl, died _ _ rfl (.inl rfl) (by rintro (_ | _ | _ | w) <;> rfl)
      (by rintro (_ | _ | n) <;> rfl)⟩
  · exact ⟨_, rfl, died _ _ rfl (.inl rfl) (by rintro (_ | _ | _ | w) <;> rfl)
      (by rintro (_ | _ | n) <;> rfl)⟩
  all_goals
    exact ⟨_, rfl, died _ _ rfl (.inr (by decide)) (by rintro (_ | _ | _ | w) <;> rfl)
      (by rintro (_ | _ | n) <;> rfl)⟩

/-- A poll dies of a sweep that keeps throwing. -/
theorem poll_dies : ∃ s, (polls moIngestPoll tuning).run (init moIngestPoll)
    (deadLetteredRun moIngestPoll) = some s ∧ ¬ OnePoll moIngestPoll s :=
  polls_die _ (by simp) _ (by simp)

end Jkannel.Platform.Polls

