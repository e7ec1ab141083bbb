import Jkannel.Messaging.MoFanOut

/-!
# Deliveries and their jobs

A delivery is run by jobs of the queue.  It gets its first from the fan-out that writes it, and one
more whenever an operator retries it; a message that is re-dispatched is fanned out again, into new
deliveries with jobs of their own.  Both operations look at the status of the deliveries, and the
status of a delivery does not say whether a job of it is still queued or running.

* `step` is the machine: ingest, re-dispatch (its check and its writes, which a second re-dispatch
  may come between), retry, and the workers of the queue, each with the transactions of `dispatch`
  and the call to the destination between them.
* `OneLiveDelivery` is what the platform means to guarantee for a message, a rule and a destination:
  at most one job that can still run, no two attempts at once, and no attempt after one that
  succeeded.
* `Careful` is the condition it holds under; `one_live_delivery` says so for every run, and
  `Inv` is the invariant behind it.
* `failed_delivery_has_a_job` is the run of a single failed attempt and a retry that breaks it.
-/

namespace Jkannel.Messaging.Mo.Deliveries

open List Option
open Function (update update_self update_of_ne update_eq_self)
open Platform (JobRow JobStatus RetryTuning)
open Transition (Ack)

/-- What a delivery is to: the message, the rule and the destination. -/
abbrev Key := Nat × String × String

def key (d : MoDelivery) : Key := (d.moMessageId, d.slot)

/-! ## One dispatch -/

/-- What the call to the destination came to. -/
structure DeliveryAttemptResult where
  delivered : Bool
  responseCode : Option Nat
  detail : String
  deriving DecidableEq

/-- How far a worker has got with its job. -/
inductive Phase where
  /-- It has claimed the job. -/
  | claimed
  /-- It has loaded the delivery, and the destination is being called. -/
  | attempting (delivery : MoDelivery)
  /-- The call is over and not yet recorded. -/
  | attempted (delivery : MoDelivery) (result : DeliveryAttemptResult)
  /-- The handler returned. -/
  | returned (status : MoDeliveryStatus)
  /-- The handler threw, or the completion did. -/
  | threw (message : String) (permanent : Bool)
  /-- The worker is done with the job, or dead. -/
  | ended
  deriving DecidableEq

/-- One claim of a job and what its worker is doing with it. -/
structure Worker where
  jobId : Nat
  /-- The row as the claim returned it. -/
  job : JobRow
  deliveryId : Nat
  phase : Phase

/-- The first transaction of `dispatch`. -/
def loadDelivery (s : Store) (deliveryId attempt : Nat) : Store × Phase :=
  match s.deliveries[deliveryId]? with
  | none => (s, .threw ("MO delivery " ++ toString deliveryId ++ " no longer exists") true)
  | some delivery =>
    if delivery.status = .delivered ∨ delivery.status = .cancelled then
      (s, .returned delivery.status)
    else
      let s' := { s with deliveries := s.deliveries.set deliveryId { delivery with
        status := .running
        attempts := attempt } }
      match s.messages[delivery.moMessageId]? with
      | none =>
        (s', .threw ("MO delivery " ++ toString deliveryId ++ " has no inbound message") true)
      | some _ => (s', .attempting delivery)

/-- A destination that has used its own attempt budget is done. -/
def exhausted (delivery : MoDelivery) (attempt : Nat) : Bool :=
  decide (delivery.maxAttempts ≤ attempt)

/-- The status an attempt leaves. -/
def statusAfter (delivery : MoDelivery) (attempt : Nat) (result : DeliveryAttemptResult) :
    MoDeliveryStatus :=
  if result.delivered then .delivered
  else if exhausted delivery attempt then .deadLetter else .failed

/-- The second transaction of `dispatch`, which looks at the id alone. -/
def recordAttempt (s : Store) (deliveryId attempt : Nat) (delivery : MoDelivery)
    (result : DeliveryAttemptResult) : Store :=
  { s with deliveries := s.deliveries.modify deliveryId fun row => { row with
      status := statusAfter delivery attempt result
      lastError := if result.delivered then none else some (Text.clip 2000 result.detail)
      responseCode := result.responseCode
      responseDetail := some (Text.clip 2000 result.detail) } }

/-- How `dispatch` ends once the attempt is recorded. -/
def afterRecord (delivery : MoDelivery) (attempt : Nat) (result : DeliveryAttemptResult) : Phase :=
  if result.delivered then .returned .delivered
  else
    let budget := toString attempt ++ "/" ++ toString delivery.maxAttempts
    let opening := "MO delivery to " ++ delivery.kind.text ++ " " ++ delivery.target ++ " failed "
    if exhausted delivery attempt then
      .threw (opening ++ "after " ++ budget ++ " attempts: " ++ result.detail) true
    else .threw (opening ++ "(attempt " ++ budget ++ "): " ++ result.detail) false

/-! ## The machine -/

/-- Messages, deliveries and workers. -/
structure State where
  store : Store
  /-- The re-dispatches that have found their message without a live delivery. -/
  redispatch : Nat → Option Nat
  worker : Nat → Option Worker
  /-- Every success, by what it was a delivery to. -/
  succeeded : List Key

def init : State := ⟨Store.empty, fun _ => none, fun _ => none, []⟩

/-- One step of a request or a worker. -/
inductive Action where
  /-- A message comes in. -/
  | ingest (tables : RuleTables) (now : Int) (prepared : PreparedInbound) (ack : Ack)
  /-- `redispatch` reads the message and counts its live deliveries. -/
  | check (op moMessageId : Nat)
  /-- It fans the message out and commits. -/
  | redispatch (op : Nat) (tables : RuleTables) (now : Int) (ack : Ack)
  /-- `retryDelivery`, under the lock of the delivery's row. -/
  | retryDelivery (id : Nat) (now : Int) (ack : Ack)
  /-- `claimNext`. -/
  | claim (w id : Nat) (workerId : String) (now : Int)
  /-- The first transaction of `dispatch`. -/
  | load (w : Nat) (ack : Ack)
  /-- The destination answers. -/
  | result (w : Nat) (result : DeliveryAttemptResult)
  /-- The second transaction of `dispatch`. -/
  | record (w : Nat) (ack : Ack)
  /-- A heartbeat or a progress report lands. -/
  | progress (w : Nat) (percent now : Int)
  /-- `completeJob`. -/
  | complete (w : Nat) (now : Int) (ack : Ack)
  /-- `failAttempt`. -/
  | fail (w : Nat) (now : Int) (ack : Ack)
  /-- The worker dies. -/
  | crash (w : Nat)
  /-- `reapStuck`, on one job. -/
  | reap (id : Nat) (staleAfterMs now : Int)

/-- `UPDATE api_jobs … WHERE id = …`. -/
def updateJob (s : Store) (id : Nat) (statement : JobRow → Option JobRow) : Store :=
  { s with jobs := s.jobs.modify id fun j => { j with row := (statement j.row).getD j.row } }

/-- Move a worker on. -/
def State.setPhase (s : State) (w : Nat) (x : Worker) (phase : Phase) : State :=
  { s with worker := update s.worker w (some { x with phase := phase }) }

/-- The deliveries of a message that wait for an attempt or are in one. -/
def liveDeliveries (s : Store) (moMessageId : Nat) : Nat :=
  ((s.deliveriesOf moMessageId).filter fun d =>
    decide (d.status = .pending ∨ d.status = .running)).length

/-- A delivery is put back to be attempted, by a new job. -/
def requeue (s : Store) (id : Nat) (d : MoDelivery) (now : Int) : Store :=
  { s with
    deliveries := s.deliveries.set id { d with
      status := .pending
      attempts := 0
      manualRetries := d.manualRetries + 1
      jobId := s.jobs.length }
    jobs := s.jobs ++ [createJob s.jobs.length id now] }

/-- What one action does. -/
@[grind =] def step (text : TextEngine) (countryCode : Option String) (tuning : RetryTuning) (s : State) :
    Action → Option State
  | .ingest tables now prepared ack =>
    some { s with store :=
      if ack.committed then (s.store.ingestInClient text countryCode tables now prepared).1
      else s.store }
  | .check op moMessageId =>
    match s.redispatch op, s.store.messages[moMessageId]? with
    | none, some _ =>
      if liveDeliveries s.store moMessageId = 0 then
        some { s with redispatch := update s.redispatch op (some moMessageId) }
      else none
    | _, _ => none
  | .redispatch op tables now ack =>
    match (s.redispatch op).bind fun id => (s.store.messages[id]?).map fun m => (id, m) with
    | some (id, m) => some { s with
        store := if ack.committed then
          matchAndFanOut text countryCode tables now s.store id m.inbound.context else s.store
        redispatch := update s.redispatch op none }
    | none => none
  | .retryDelivery id now ack =>
    match s.store.deliveries[id]? with
    | some d =>
      if d.status = .failed ∨ d.status = .deadLetter ∨ d.status = .cancelled then
        some { s with store := if ack.committed then requeue s.store id d now else s.store }
      else none
    | none => none
  | .claim w id workerId now =>
    match s.worker w, (s.store.jobs[id]?).bind fun j =>
        (Platform.claimOn now workerId j.row).map fun row => (j, row) with
    | none, some (j, row) => some { s with
        store := { s.store with jobs := s.store.jobs.set id { j with row := row } }
        worker := update s.worker w (some ⟨id, row, j.deliveryId, .claimed⟩) }
    | _, _ => none
  | .load w ack =>
    match s.worker w with
    | some ⟨id, job, deliveryId, .claimed⟩ =>
      let loaded := loadDelivery s.store deliveryId job.attempts
      let store := if ack.committed then loaded.1 else s.store
      match ack with
      | .ok => some ({ s with store := store }.setPhase w ⟨id, job, deliveryId, .claimed⟩ loaded.2)
      | .lost error | .refused error =>
        some ({ s with store := store }.setPhase w ⟨id, job, deliveryId, .claimed⟩
          (.threw error false))
    | _ => none
  | .result w result =>
    match s.worker w with
    | some ⟨id, job, deliveryId, .attempting d⟩ =>
      some { s.setPhase w ⟨id, job, deliveryId, .attempting d⟩ (.attempted d result) with
        succeeded := if result.delivered then key d :: s.succeeded else s.succeeded }
    | _ => none
  | .record w ack =>
    match s.worker w with
    | some ⟨id, job, deliveryId, .attempted d result⟩ =>
      let store := if ack.committed then recordAttempt s.store deliveryId job.attempts d result
        else s.store
      match ack with
      | .ok => some ({ s with store := store }.setPhase w
          ⟨id, job, deliveryId, .attempted d result⟩ (afterRecord d job.attempts result))
      | .lost error | .refused error => some ({ s with store := store }.setPhase w
          ⟨id, job, deliveryId, .attempted d result⟩ (.threw error false))
    | _ => none
  | .progress w percent now =>
    match s.worker w with
    | some x => some { s with
        store := updateJob s.store x.jobId (Platform.reportProgress now percent) }
    | none => none
  | .complete w now ack =>
    match s.worker w with
    | some ⟨id, job, deliveryId, .returned status⟩ =>
      let store := if ack.committed then
        updateJob s.store id (Platform.completeJob now status.text) else s.store
      match ack with
      | .ok => some ({ s with store := store }.setPhase w
          ⟨id, job, deliveryId, .returned status⟩ .ended)
      -- an error out of the completion is caught with the handler's, and fails the attempt
      | .lost error | .refused error => some ({ s with store := store }.setPhase w
          ⟨id, job, deliveryId, .returned status⟩ (.threw error false))
    | _ => none
  | .fail w now ack =>
    match s.worker w with
    | some ⟨id, job, deliveryId, .threw message permanent⟩ =>
      let store := if ack.committed then
        updateJob s.store id (Platform.failAttempt tuning now job message permanent) else s.store
      some ({ s with store := store }.setPhase w ⟨id, job, deliveryId, .threw message permanent⟩
        .ended)
    | _ => none
  | .crash w =>
    match s.worker w with
    | some x => some (s.setPhase w x .ended)
    | none => none
  | .reap id staleAfterMs now =>
    some { s with store := updateJob s.store id (Platform.reapStuck staleAfterMs now) }

/-- Deliveries as a transition system. -/
def deliveries (text : TextEngine) (countryCode : Option String) (tuning : RetryTuning) :
    Transition.System State Action := ⟨step text countryCode tuning⟩

/-! ## What is promised -/

/-- A job that can still run. -/
def live (j : DeliveryJob) : Bool := j.row.status = .queued || j.row.status = .running

/-- What a job delivers to. -/
def keyOf (s : Store) (j : DeliveryJob) : Option Key :=
  (s.deliveries[j.deliveryId]?).map key

/-- The jobs that can still run for a message, a rule and a destination. -/
def liveJobs (s : Store) (k : Key) : List DeliveryJob :=
  s.jobs.filter fun j => live j && decide (keyOf s j = some k)

/-- A worker is calling a destination. -/
def Attempting (s : State) (w : Nat) (k : Key) : Prop :=
  ∃ x d, s.worker w = some x ∧ x.phase = .attempting d ∧ key d = k

/-- **One destination, one live delivery.** -/
structure OneLiveDelivery (s : State) : Prop where
  /-- At most one job can still run for it. -/
  live : ∀ k, (liveJobs s.store k).length ≤ 1
  /-- No two attempts overlap. -/
  apart : ∀ w w' k, Attempting s w k → Attempting s w' k → w = w'
  /-- Nothing is sent again after a success. -/
  once : ∀ w k, Attempting s w k → k ∉ s.succeeded

/-! ## The condition -/

/-- A destination may be given another job: none that can still run is left, and none has
succeeded. -/
def Idle (s : State) (k : Key) : Prop := liveJobs s.store k = [] ∧ k ∉ s.succeeded

/-- **The condition.**  A re-dispatch that commits finds every delivery of its message idle, and a
retry its own; the success of an attempt gets recorded; a job is only reaped when its worker is
gone. -/
def Careful (s : State) : Action → Prop
  | .redispatch op _ _ ack => ack.committed = true → ∀ id, s.redispatch op = some id →
      ∀ k : Key, k.1 = id → Idle s k
  | .retryDelivery id _ ack => ack.committed = true → ∀ d, s.store.deliveries[id]? = some d →
      Idle s (key d)
  | .record w ack => ∀ x d result, s.worker w = some x → x.phase = .attempted d result →
      result.delivered = true → ack.committed = true
  | .crash w => ∀ x d result, s.worker w = some x → x.phase = .attempted d result →
      result.delivered = false
  | .reap id _ _ => ∀ w x, s.worker w = some x → x.jobId = id → x.phase = .ended
  | _ => True

/-! ## What every careful run keeps

No destination has two jobs that can run, and one left over after a success will find it
recorded. -/

/-- The job at a position can still run, and delivers to `k`. -/
def LiveAt (s : Store) (i : Nat) (k : Key) : Prop :=
  ∃ j, s.jobs[i]? = some j ∧ live j = true ∧ keyOf s j = some k

/-- The delivery of the job at a position has been delivered. -/
def DeliveredAt (s : Store) (i : Nat) : Prop :=
  ∃ j d, s.jobs[i]? = some j ∧ s.deliveries[j.deliveryId]? = some d ∧ d.status = .delivered

/-- A worker has the job in its hands: from the claim until the attempt is recorded. -/
def Phase.busy : Phase → Bool
  | .claimed | .attempting _ | .attempted _ _ => true
  | _ => false

/-- The delivery a worker has loaded. -/
def Phase.loaded : Phase → Option MoDelivery
  | .attempting d | .attempted d _ => some d
  | _ => none

/-- A worker holds a success it has not recorded. -/
def Phase.unrecorded : Phase → Bool
  | .attempted _ result => result.delivered
  | _ => false

/-- What a step of the deliveries keeps. -/
structure Inv (s : State) : Prop where
  messageIds : ∀ m ∈ s.store.messages, m.id < s.store.messages.length
  owner : ∀ d ∈ s.store.deliveries, d.moMessageId < s.store.messages.length
  jobDelivery : ∀ j ∈ s.store.jobs, j.deliveryId < s.store.deliveries.length
  asked : ∀ op id, s.redispatch op = some id → id < s.store.messages.length
  known : ∀ k ∈ s.succeeded, k.1 < s.store.messages.length
  /-- No destination has two jobs that can run. -/
  unique : ∀ i i' k, LiveAt s.store i k → LiveAt s.store i' k → i = i'
  /-- A job a worker is on is not in the queue, and is running until the attempt is recorded. -/
  held : ∀ w x, s.worker w = some x → x.phase ≠ .ended → ∃ j, s.store.jobs[x.jobId]? = some j ∧
    j.deliveryId = x.deliveryId ∧ j.row.status ≠ .queued ∧
      (x.phase.busy = true → j.row.status = .running)
  /-- It is on by itself. -/
  single : ∀ w x w' x', s.worker w = some x → s.worker w' = some x' → x.phase ≠ .ended →
    x'.phase ≠ .ended → x.jobId = x'.jobId → w = w'
  loaded : ∀ w x d, s.worker w = some x → x.phase.loaded = some d →
    ∃ d', s.store.deliveries[x.deliveryId]? = some d' ∧ key d' = key d
  /-- What is being attempted, or has been in vain, has not succeeded. -/
  unsent : ∀ w x d, s.worker w = some x → x.phase.loaded = some d → x.phase.unrecorded = false →
    key d ∉ s.succeeded
  /-- A job left over for a destination that has succeeded will find that recorded. -/
  settled : ∀ k ∈ s.succeeded, ∀ i, LiveAt s.store i k → DeliveredAt s.store i ∨
    ∃ w x, s.worker w = some x ∧ x.jobId = i ∧ x.phase.unrecorded = true

theorem inv_init : Inv init := by
  constructor <;> simp [init, Store.empty, LiveAt]

/-! ### Lists -/

theorem length_filter_le_one {α : Type} {p : α → Bool} {l : List α}
    (h : ∀ (i i' : Nat) (a a' : α), l[i]? = some a → l[i']? = some a' → p a = true →
      p a' = true → i = i') : (l.filter p).length ≤ 1 := by
  induction l with
  | nil => simp
  | cons a l ih =>
    have hrest : (l.filter p).length ≤ 1 := by
      refine ih fun i i' b b' hb hb' hpb hpb' => ?_
      have := h (i + 1) (i' + 1) b b' (by simpa using hb) (by simpa using hb') hpb hpb'
      omega
    by_cases hpa : p a = true
    · have hnone : l.filter p = [] := by
        refine filter_eq_nil_iff.mpr fun b hb hpb => ?_
        obtain ⟨i, hi⟩ := getElem?_of_mem hb
        have := h 0 (i + 1) a b (by simp) (by simpa using hi) hpa hpb
        omega
      rw [filter_cons_of_pos hpa, hnone]
      simp
    · rw [filter_cons_of_neg hpa]
      exact hrest

variable {s s' : State} {i w : Nat} {k : Key} {x : Worker} {d : MoDelivery}
  {f : JobRow → Option JobRow} {phase : Phase} {store : Store} {id : Nat} {moMessageId : Nat}

/-- The promise, from the invariant. -/
theorem Inv.oneLiveDelivery (h : Inv s) : OneLiveDelivery s where
  live := fun k => length_filter_le_one fun i i' j j' hj hj' hp hp' => by
    simp only [Bool.and_eq_true, decide_eq_true_eq] at hp hp'
    exact h.unique i i' k ⟨j, hj, hp⟩ ⟨j', hj', hp'⟩
  apart := by
    rintro w w' k ⟨x, d, hx, hphase, rfl⟩ ⟨x', d', hx', hphase', hkey⟩
    have hlive : ∀ {v : Nat} {y : Worker} {e : MoDelivery}, s.worker v = some y →
        y.phase = .attempting e → LiveAt s.store y.jobId (key e) := by
      intro v y e hy hp
      obtain ⟨j, hj, hdelivery, -, hrun⟩ := h.held v y hy (by rw [hp]; simp)
      obtain ⟨e', he', hkey'⟩ := h.loaded v y e hy (by rw [hp]; rfl)
      have hrun' := hrun (by rw [hp]; rfl)
      exact ⟨j, hj, by simp [live, hrun'], by rw [keyOf, hdelivery, he', map_some, hkey']⟩
    have hjob := h.unique _ _ _ (hlive hx hphase) (hkey ▸ hlive hx' hphase')
    exact h.single w x w' x' hx hx' (by rw [hphase]; simp) (by rw [hphase']; simp) hjob
  once := by
    rintro w k ⟨x, d, hx, hphase, rfl⟩
    exact h.unsent w x d hx (by rw [hphase]; rfl) (by rw [hphase]; rfl)

/-! ### Steps of the workers

A worker's step changes one job and its delivery; `Keeps` is what all of them leave alone. -/

/-- What a step of a worker leaves alone: deliveries stay what they are to, those that have
succeeded stay delivered, and a job that could not run cannot afterwards. -/
structure Keeps (s s' : State) : Prop where
  messages : s'.store.messages = s.store.messages
  redispatch : s'.redispatch = s.redispatch
  length : s'.store.deliveries.length = s.store.deliveries.length
  deliveries : ∀ (n : Nat) d, s.store.deliveries[n]? = some d → ∃ d', s'.store.deliveries[n]? = some d' ∧
    key d' = key d ∧ (d.status = .delivered → key d ∈ s.succeeded → d'.status = .delivered)
  jobs : ∀ (i : Nat) j', s'.store.jobs[i]? = some j' → ∃ j, s.store.jobs[i]? = some j ∧
    j'.deliveryId = j.deliveryId ∧ (live j' = true → live j = true)

theorem Keeps.delivery (h : Keeps s s') {n : Nat} {d' : MoDelivery}
    (hd' : s'.store.deliveries[n]? = some d') :
    ∃ d, s.store.deliveries[n]? = some d ∧ key d' = key d ∧
      (d.status = .delivered → key d ∈ s.succeeded → d'.status = .delivered) := by
  have hlt : n < s.store.deliveries.length := by
    rw [← h.length]
    exact (List.getElem?_eq_some_iff.mp hd').1
  obtain ⟨d₀, hd₀, hkey, hdone⟩ := h.deliveries n _ (getElem?_eq_getElem hlt)
  obtain rfl := some.inj (hd₀.symm.trans hd')
  exact ⟨_, getElem?_eq_getElem hlt, hkey, hdone⟩

theorem LiveAt.delivery {s : Store} (h : LiveAt s i k) :
    ∃ j d, s.jobs[i]? = some j ∧ live j = true ∧ s.deliveries[j.deliveryId]? = some d ∧
      key d = k := by
  obtain ⟨j, hj, hlive, hkey⟩ := h
  obtain ⟨d, hd, rfl⟩ := map_eq_some_iff.mp hkey
  exact ⟨j, d, hj, hlive, hd, rfl⟩

theorem Keeps.liveAt (h : Keeps s s') (hlive : LiveAt s'.store i k) : LiveAt s.store i k := by
  obtain ⟨j', d', hj', hl, hd', rfl⟩ := hlive.delivery
  obtain ⟨j, hj, hid, hlj⟩ := h.jobs i j' hj'
  obtain ⟨d, hd, hkey, -⟩ := h.delivery hd'
  exact ⟨j, hj, hlj hl, by rw [keyOf, ← hid, hd, map_some, hkey]⟩

theorem Keeps.deliveredAt (h : Keeps s s') (hk : k ∈ s.succeeded) (hlive : LiveAt s'.store i k)
    (hdone : DeliveredAt s.store i) : DeliveredAt s'.store i := by
  obtain ⟨j', d', hj', -, hd', rfl⟩ := hlive.delivery
  obtain ⟨j, hj, hid, -⟩ := h.jobs i j' hj'
  obtain ⟨d, hd, hkey, hkeep⟩ := h.delivery hd'
  obtain ⟨j₀, d₀, hj₀, hd₀, hstatus⟩ := hdone
  obtain rfl := some.inj (hj₀.symm.trans hj)
  rw [← hid, hd] at hd₀
  cases hd₀
  exact ⟨j', d', hj', hd', hkeep hstatus (hkey ▸ hk)⟩

/-- A worker that is on a job that can run is on a live job of its delivery. -/
theorem Inv.liveAt (h : Inv s) (hx : s.worker w = some x) (hloaded : x.phase.loaded = some d) :
    LiveAt s.store x.jobId (key d) := by
  have hbusy : x.phase.busy = true ∧ x.phase ≠ .ended := by
    rcases hp : x.phase with _ | _ | _ | _ | _ | _ <;> simp_all [Phase.loaded, Phase.busy]
  obtain ⟨j, hj, hdelivery, -, hrun⟩ := h.held w x hx hbusy.2
  obtain ⟨d', hd', hkey⟩ := h.loaded w x d hx hloaded
  exact ⟨j, hj, by simp [live, hrun hbusy.1], by rw [keyOf, hdelivery, hd', map_some, hkey]⟩

/-- **A worker moves.**  What is asked for is about the worker that moves, on a job no other worker
is on. -/
theorem Inv.moved (h : Inv s) (hkeeps : Keeps s s') {x' : Worker}
    (hworker : s'.worker = update s.worker w (some x'))
    (hold : ∀ x, s.worker w = some x → x.jobId = x'.jobId)
    (hmine : ∀ v x, s.worker v = some x → x.phase ≠ .ended → x.jobId = x'.jobId → v = w)
    (hothers : ∀ i : Nat, i ≠ x'.jobId → s'.store.jobs[i]? = s.store.jobs[i]?)
    (hself : x'.phase ≠ .ended → ∃ j, s'.store.jobs[x'.jobId]? = some j ∧
      j.deliveryId = x'.deliveryId ∧ j.row.status ≠ .queued ∧
        (x'.phase.busy = true → j.row.status = .running)) (hloaded : ∀ d, x'.phase.loaded = some d →
      ∃ d', s'.store.deliveries[x'.deliveryId]? = some d' ∧ key d' = key d)
    (hunsent : ∀ d, x'.phase.loaded = some d → x'.phase.unrecorded = false → key d ∉ s'.succeeded)
    (hnew : ∀ k ∈ s'.succeeded, k ∈ s.succeeded ∨
      (LiveAt s.store x'.jobId k ∧ x'.phase.unrecorded = true))
    (hsettled : ∀ k ∈ s.succeeded, LiveAt s'.store x'.jobId k →
      DeliveredAt s'.store x'.jobId ∨ x'.phase.unrecorded = true) : Inv s' where
  messageIds := by
    rw [hkeeps.messages]
    exact h.messageIds
  owner := by
    intro d' hd'
    obtain ⟨n, hn⟩ := getElem?_of_mem hd'
    obtain ⟨d, hd, hkey, -⟩ := hkeeps.delivery hn
    rw [hkeeps.messages, show d'.moMessageId = d.moMessageId from congrArg Prod.fst hkey]
    exact h.owner d (mem_of_getElem? hd)
  jobDelivery := by
    intro j' hj'
    obtain ⟨n, hn⟩ := getElem?_of_mem hj'
    obtain ⟨j, hj, hid, -⟩ := hkeeps.jobs n j' hn
    rw [hkeeps.length, hid]
    exact h.jobDelivery j (mem_of_getElem? hj)
  asked := by
    rw [hkeeps.redispatch, hkeeps.messages]
    exact h.asked
  known := by
    intro k hk
    rw [hkeeps.messages]
    rcases hnew k hk with hk | ⟨hlive, -⟩
    · exact h.known k hk
    · obtain ⟨j, d, -, -, hd, rfl⟩ := hlive.delivery
      exact h.owner d (mem_of_getElem? hd)
  unique := fun i i' k hi hi' => h.unique i i' k (hkeeps.liveAt hi) (hkeeps.liveAt hi')
  held := by
    intro v x hv hphase
    rw [hworker] at hv
    by_cases hvw : v = w
    · subst hvw
      obtain rfl : x' = x := by simpa using hv
      exact hself hphase
    · rw [update_of_ne hvw] at hv
      have hne : x.jobId ≠ x'.jobId := fun heq => hvw (hmine v x hv hphase heq)
      rw [hothers _ hne]
      exact h.held v x hv hphase
  single := by
    intro v x v' y hv hv' hphase hphase' hjob
    rw [hworker] at hv hv'
    by_cases hvw : v = w <;> by_cases hvw' : v' = w
    · rw [hvw, hvw']
    · subst hvw
      obtain rfl : x' = x := by simpa using hv
      rw [update_of_ne hvw'] at hv'
      exact absurd (hmine v' y hv' hphase' hjob.symm) hvw'
    · subst hvw'
      obtain rfl : x' = y := by simpa using hv'
      rw [update_of_ne hvw] at hv
      exact absurd (hmine v x hv hphase hjob) hvw
    · rw [update_of_ne hvw] at hv
      rw [update_of_ne hvw'] at hv'
      exact h.single v x v' y hv hv' hphase hphase' hjob
  loaded := by
    intro v x d hv hd
    rw [hworker] at hv
    by_cases hvw : v = w
    · subst hvw
      obtain rfl : x' = x := by simpa using hv
      exact hloaded d hd
    · rw [update_of_ne hvw] at hv
      obtain ⟨d₀, hd₀, hkey₀⟩ := h.loaded v x d hv hd
      obtain ⟨d₁, hd₁, hkey₁, -⟩ := hkeeps.deliveries _ _ hd₀
      exact ⟨d₁, hd₁, hkey₁.trans hkey₀⟩
  unsent := by
    intro v x d hv hd hphase hk
    rw [hworker] at hv
    by_cases hvw : v = w
    · subst hvw
      obtain rfl : x' = x := by simpa using hv
      exact hunsent d hd hphase hk
    · rw [update_of_ne hvw] at hv
      rcases hnew _ hk with hk | ⟨hlive, -⟩
      · exact h.unsent v x d hv hd hphase hk
      · have hjob := h.unique _ _ _ (h.liveAt hv hd) hlive
        have hactive : x.phase ≠ .ended := by
          intro hp
          rw [hp] at hd
          cases hd
        exact hvw (hmine v x hv hactive hjob)
  settled := by
    intro k hk i hlive
    have hmoved : s'.worker w = some x' := by rw [hworker, update_self]
    by_cases hi : i = x'.jobId
    · subst hi
      rcases hnew k hk with hk | ⟨-, hphase⟩
      · rcases hsettled k hk hlive with hdone | hphase
        · exact .inl hdone
        · exact .inr ⟨w, x', hmoved, rfl, hphase⟩
      · exact .inr ⟨w, x', hmoved, rfl, hphase⟩
    · rcases hnew k hk with hk | ⟨hlive', -⟩
      · rcases h.settled k hk i (hkeeps.liveAt hlive) with hdone | ⟨v, x, hv, hjob, hphase⟩
        · exact .inl (hkeeps.deliveredAt hk hlive hdone)
        · have hvw : v ≠ w := by
            rintro rfl
            exact hi (hjob.symm.trans (hold x hv))
          exact .inr ⟨v, x, by rw [hworker, update_of_ne hvw]; exact hv, hjob, hphase⟩
      · exact absurd (h.unique _ _ _ (hkeeps.liveAt hlive) hlive') hi

/-- A worker with no success in hand is on a job that has nothing left to do, once its destination
has succeeded. -/
theorem Inv.settled_self (h : Inv s) (hx : s.worker w = some x) (hactive : x.phase ≠ .ended)
    (hphase : x.phase.unrecorded = false) (hk : k ∈ s.succeeded)
    (hlive : LiveAt s.store x.jobId k) : DeliveredAt s.store x.jobId := by
  rcases h.settled k hk _ hlive with hdone | ⟨v, y, hy, hjob, hyphase⟩
  · exact hdone
  · have hyactive : y.phase ≠ .ended := by
      intro hp
      rw [hp] at hyphase
      cases hyphase
    obtain rfl := h.single v y w x hy hx hyactive hactive hjob
    obtain rfl : y = x := some.inj (hy.symm.trans hx)
    rw [hphase] at hyphase
    cases hyphase

theorem Inv.mine (h : Inv s) (hx : s.worker w = some x) (hactive : x.phase ≠ .ended) :
    ∀ v y, s.worker v = some y → y.phase ≠ .ended → y.jobId = x.jobId → v = w :=
  fun v y hy hyactive hjob => h.single v y w x hy hx hyactive hactive hjob

theorem Keeps.of_store (hstore : s'.store = s.store) (hredispatch : s'.redispatch = s.redispatch) :
    Keeps s s' where
  messages := by rw [hstore]
  redispatch := hredispatch
  length := by rw [hstore]
  deliveries := fun n d hd => ⟨d, by rwa [hstore], rfl, fun hs _ => hs⟩
  jobs := fun i j hj => ⟨j, by rwa [← hstore], rfl, fun hl => hl⟩

/-! ### The queue's statements -/

theorem updateJob_get (s : Store) (id : Nat) (f : JobRow → Option JobRow) (i : Nat) :
    (updateJob s id f).jobs[i]? = (s.jobs[i]?).map fun j =>
      if id = i then { j with row := (f j.row).getD j.row } else j := by
  rw [updateJob, getElem?_modify]
  rfl

theorem updateJob_of_ne (s : Store) (f : JobRow → Option JobRow) (h : i ≠ id) :
    (updateJob s id f).jobs[i]? = s.jobs[i]? := by
  rw [updateJob_get]
  cases s.jobs[i]? with
  | none => rfl
  | some j => rw [map_some, if_neg h.symm]

/-- A statement only matches a job that can run. -/
theorem Keeps.statement (hf : ∀ row row', f row = some row' → Platform.Statement row row')
    (hstore : s'.store = updateJob s.store id f) (hredispatch : s'.redispatch = s.redispatch) :
    Keeps s s' where
  messages := by rw [hstore]; rfl
  redispatch := hredispatch
  length := by rw [hstore]; rfl
  deliveries := fun n d hd => ⟨d, by rw [hstore]; exact hd, rfl, fun hs _ => hs⟩
  jobs := by
    intro i j' hj'
    rw [hstore, updateJob_get] at hj'
    obtain ⟨j, hj, rfl⟩ := map_eq_some_iff.mp hj'
    refine ⟨j, hj, ?_, ?_⟩
    · split <;> rfl
    · split
      · intro hl
        cases hrow : f j.row with
        | none => simpa [live, hrow] using hl
        | some row' =>
          have := (hf _ _ hrow).live
          simpa [live] using this
      · exact fun hl => hl

/-- The statuses of jobs stay, or the one that changes has no worker. -/
theorem Inv.statement (h : Inv s)
    (hf : ∀ row row', f row = some row' → Platform.Statement row row')
    (hstatus : ∀ j row', s.store.jobs[id]? = some j → f j.row = some row' →
      row'.status = j.row.status ∨
        ∀ w x, s.worker w = some x → x.jobId = id → x.phase = .ended) :
    Inv { s with store := updateJob s.store id f } := by
  have hkeeps : Keeps s { s with store := updateJob s.store id f } :=
    Keeps.statement hf rfl rfl
  refine ⟨h.messageIds, h.owner, ?_, h.asked, h.known,
    fun i i' k hi hi' => h.unique i i' k (hkeeps.liveAt hi) (hkeeps.liveAt hi'), ?_, h.single,
    h.loaded, h.unsent, ?_⟩
  · intro j' hj'
    obtain ⟨n, hn⟩ := getElem?_of_mem hj'
    obtain ⟨j, hj, hid, -⟩ := hkeeps.jobs n j' hn
    rw [hid]
    exact h.jobDelivery j (mem_of_getElem? hj)
  · intro w x hx hactive
    obtain ⟨j, hj, hdelivery, hq, hrun⟩ := h.held w x hx hactive
    by_cases hid : id = x.jobId
    · subst hid
      refine ⟨{ j with row := (f j.row).getD j.row }, ?_, hdelivery, ?_⟩
      · rw [updateJob_get, hj, map_some, if_pos rfl]
      · cases hrow : f j.row with
        | none => exact ⟨hq, hrun⟩
        | some row' =>
          rcases hstatus j row' hj hrow with heq | hnone
          · rw [getD_some, heq]
            exact ⟨hq, hrun⟩
          · exact absurd (hnone w x hx rfl) hactive
    · exact ⟨j, by rw [updateJob_of_ne _ _ (Ne.symm hid)]; exact hj, hdelivery, hq, hrun⟩
  · intro k hk i hlive
    rcases h.settled k hk i (hkeeps.liveAt hlive) with hdone | hworker
    · exact .inl (hkeeps.deliveredAt hk hlive hdone)
    · exact .inr hworker

/-! ### Dispatch -/

/-- What the first transaction of `dispatch` can come to, its failures included: nothing, or a
delivery that was not delivered is marked as running, and it is the one that is then attempted. -/
structure Loads (s : Store) (deliveryId : Nat) (s' : Store) (phase : Phase) : Prop where
  unrecorded : phase.unrecorded = false
  active : phase ≠ .ended
  cases : (s' = s ∧ phase.loaded = none) ∨ ∃ d attempt, s.deliveries[deliveryId]? = some d ∧
    d.status ≠ .delivered ∧
    s' = { s with deliveries := s.deliveries.set deliveryId { d with
      status := .running
      attempts := attempt } } ∧
    (phase.loaded = none ∨ phase.loaded = some d)

theorem Loads.threw {s s' : Store} {deliveryId : Nat} (h : Loads s deliveryId s' phase)
    (message : String) (permanent : Bool) :
    Loads s deliveryId s' (.threw message permanent) where
  unrecorded := rfl
  active := by simp
  cases := by
    rcases h.cases with ⟨hs, -⟩ | ⟨d, attempt, hd, hstatus, hs, -⟩
    · exact .inl ⟨hs, rfl⟩
    · exact .inr ⟨d, attempt, hd, hstatus, hs, .inl rfl⟩

theorem Loads.refused (s : Store) (deliveryId : Nat) (message : String) (permanent : Bool) :
    Loads s deliveryId s (.threw message permanent) :=
  ⟨rfl, by simp, .inl ⟨rfl, rfl⟩⟩

theorem loadDelivery_loads (s : Store) (deliveryId attempt : Nat) :
    Loads s deliveryId (loadDelivery s deliveryId attempt).1
      (loadDelivery s deliveryId attempt).2 := by
  unfold loadDelivery
  split
  · exact Loads.refused s deliveryId _ _
  · rename_i d hd
    split
    · exact ⟨rfl, by simp, .inl ⟨rfl, rfl⟩⟩
    · rename_i hstatus
      have hopen : d.status ≠ .delivered := fun hdone => hstatus (.inl hdone)
      split
      · exact ⟨rfl, by simp, .inr ⟨d, attempt, hd, hopen, rfl, .inl rfl⟩⟩
      · exact ⟨rfl, by simp, .inr ⟨d, attempt, hd, hopen, rfl, .inr rfl⟩⟩

/-- A claimed job is loaded. -/
theorem Inv.load (h : Inv s) (hx : s.worker w = some x) (hphase : x.phase = .claimed)
    (hload : Loads s.store x.deliveryId store phase) :
    Inv ({ s with store := store }.setPhase w x phase) := by
  have hactive : x.phase ≠ .ended := by rw [hphase]; simp
  have hself : x.phase.unrecorded = false := by rw [hphase]; rfl
  obtain ⟨j, hj, hdelivery, -, hrun⟩ := h.held w x hx hactive
  have hrunning : j.row.status = .running := hrun (by rw [hphase]; rfl)
  have hjobs : store.jobs = s.store.jobs := by
    rcases hload.cases with ⟨rfl, -⟩ | ⟨d, attempt, -, -, rfl, -⟩ <;> rfl
  have hdeliveries : ∀ (n : Nat) d, s.store.deliveries[n]? = some d → ∃ d', store.deliveries[n]? = some d' ∧
      key d' = key d ∧ (d.status = .delivered → key d ∈ s.succeeded → d'.status = .delivered) := by
    intro n d hd
    rcases hload.cases with ⟨rfl, -⟩ | ⟨d₀, attempt, hd₀, hopen, rfl, -⟩
    · exact ⟨d, hd, rfl, fun hs _ => hs⟩
    · by_cases hn : x.deliveryId = n
      · subst hn
        obtain rfl := some.inj (hd₀.symm.trans hd)
        refine ⟨_, getElem?_set_self (List.getElem?_eq_some_iff.mp hd).1, rfl, fun hs => ?_⟩
        exact absurd hs hopen
      · exact ⟨d, by rw [getElem?_set_ne hn]; exact hd, rfl, fun hs _ => hs⟩
  have hkeeps : Keeps s ({ s with store := store }.setPhase w x phase) := {
    messages := by
      rcases hload.cases with ⟨rfl, -⟩ | ⟨d, attempt, -, -, rfl, -⟩ <;> rfl
    redispatch := rfl
    length := by
      rcases hload.cases with ⟨rfl, -⟩ | ⟨d, attempt, -, -, rfl, -⟩
      · rfl
      · exact length_set
    deliveries := hdeliveries
    jobs := fun i j' hj' => ⟨j', by rwa [← hjobs], rfl, fun hl => hl⟩ }
  have hmine := h.mine hx hactive
  have hdone : ∀ k ∈ s.succeeded, LiveAt s.store x.jobId k → DeliveredAt s.store x.jobId :=
    fun k hk hlive => h.settled_self hx hactive hself hk hlive
  refine h.moved hkeeps rfl
    (fun y hy => by rw [some.inj (hy.symm.trans hx)]) hmine ?_ ?_ ?_ ?_ ?_ ?_
  · intro i _
    exact congrArg (·[i]?) hjobs
  · exact fun _ => ⟨j, (congrArg (·[x.jobId]?) hjobs).trans hj, hdelivery,
      by rw [hrunning]; simp, fun _ => hrunning⟩
  · intro d hd
    rcases hload.cases with ⟨-, hnone⟩ | ⟨d₀, attempt, hd₀, -, -, hnone | hsome⟩
    · rw [hnone] at hd
      cases hd
    · rw [hnone] at hd
      cases hd
    · obtain rfl := some.inj (hsome.symm.trans hd)
      obtain ⟨d', hd', hkey, -⟩ := hdeliveries _ _ hd₀
      exact ⟨d', hd', hkey⟩
  · intro d hd _ hk
    rcases hload.cases with ⟨-, hnone⟩ | ⟨d₀, attempt, hd₀, hopen, -, hnone | hsome⟩
    · rw [hnone] at hd
      cases hd
    · rw [hnone] at hd
      cases hd
    · -- its destination has succeeded, so the delivery would have been found delivered
      obtain rfl := some.inj (hsome.symm.trans hd)
      have hlive : LiveAt s.store x.jobId (key d₀) :=
        ⟨j, hj, by simp [live, hrunning], by rw [keyOf, hdelivery, hd₀, map_some]⟩
      obtain ⟨j', d', hj', hd', hstatus⟩ := hdone _ hk hlive
      obtain rfl := some.inj (hj'.symm.trans hj)
      rw [hdelivery, hd₀] at hd'
      cases hd'
      exact hopen hstatus
  · exact fun k hk => .inl hk
  · exact fun k hk hlive => .inl (hkeeps.deliveredAt hk hlive (hdone k hk (hkeeps.liveAt hlive)))

/-- The destination answers. -/
theorem Inv.result (h : Inv s) (hx : s.worker w = some x) (hphase : x.phase = .attempting d)
    (result : DeliveryAttemptResult) :
    Inv { s.setPhase w x (.attempted d result) with
      succeeded := if result.delivered then key d :: s.succeeded else s.succeeded } := by
  have hactive : x.phase ≠ .ended := by rw [hphase]; simp
  have hloaded : x.phase.loaded = some d := by rw [hphase]; rfl
  have hunrecorded : x.phase.unrecorded = false := by rw [hphase]; rfl
  have hmine := h.mine hx hactive
  have hlive : LiveAt s.store x.jobId (key d) := h.liveAt hx hloaded
  obtain ⟨j, hj, hdelivery, hq, hrun⟩ := h.held w x hx hactive
  have hrunning : j.row.status = .running := hrun (by rw [hphase]; rfl)
  have hdone : ∀ k ∈ s.succeeded, LiveAt s.store x.jobId k → DeliveredAt s.store x.jobId :=
    fun k hk hlive => h.settled_self hx hactive hunrecorded hk hlive
  refine h.moved (Keeps.of_store rfl rfl) rfl
    (fun y hy => by rw [some.inj (hy.symm.trans hx)]) hmine (fun i _ => rfl) ?_ ?_ ?_ ?_ ?_
  · exact fun _ => ⟨j, hj, hdelivery, hq, fun _ => hrunning⟩
  · intro d' hd'
    obtain rfl : d = d' := some.inj hd'
    exact h.loaded w x d hx hloaded
  · intro d' hd' hfailed
    obtain rfl : d = d' := some.inj hd'
    have hno : result.delivered = false := hfailed
    rw [hno]
    exact h.unsent w x d hx hloaded hunrecorded
  · intro k hk
    cases hok : result.delivered with
    | true =>
      rw [hok, if_pos rfl, mem_cons] at hk
      rcases hk with rfl | hk
      · exact .inr ⟨hlive, hok⟩
      · exact .inl hk
    | false =>
      rw [hok] at hk
      exact .inl hk
  · exact fun k hk hlive' => .inl (hdone k hk hlive')

theorem recordAttempt_get (s : Store) (deliveryId attempt : Nat) (d : MoDelivery)
    (result : DeliveryAttemptResult) (n : Nat) :
    ∀ row, s.deliveries[n]? = some row → ∃ row',
      (recordAttempt s deliveryId attempt d result).deliveries[n]? = some row' ∧
        key row' = key row ∧
        row'.status = if deliveryId = n then statusAfter d attempt result else row.status := by
  intro row hrow
  refine ⟨_, by rw [recordAttempt, getElem?_modify, hrow]; rfl, ?_, ?_⟩
  · split <;> rfl
  · split <;> rfl

/-- The attempt is recorded, which it has to be when it was a success. -/
theorem Inv.record (h : Inv s) {result : DeliveryAttemptResult} (hx : s.worker w = some x)
    (hphase : x.phase = .attempted d result)
    (hstore : store = recordAttempt s.store x.deliveryId x.job.attempts d result ∨
      (store = s.store ∧ result.delivered = false)) (hfree : phase.loaded = none)
    (hbusy : phase.busy = false) : Inv ({ s with store := store }.setPhase w x phase) := by
  have hactive : x.phase ≠ .ended := by rw [hphase]; simp
  have hloaded : x.phase.loaded = some d := by rw [hphase]; rfl
  have hmine := h.mine hx hactive
  have hlive : LiveAt s.store x.jobId (key d) := h.liveAt hx hloaded
  obtain ⟨j, hj, hdelivery, hq, hrun⟩ := h.held w x hx hactive
  obtain ⟨d₀, hd₀, hkey₀⟩ := h.loaded w x d hx hloaded
  have hfailed : result.delivered = false → key d ∉ s.succeeded := fun hno =>
    h.unsent w x d hx hloaded (by rw [hphase]; exact hno)
  have hjobs : store.jobs = s.store.jobs := by
    rcases hstore with rfl | ⟨rfl, -⟩ <;> rfl
  have hkeeps : Keeps s ({ s with store := store }.setPhase w x phase) := {
    messages := by
      rcases hstore with rfl | ⟨rfl, -⟩ <;> rfl
    redispatch := rfl
    length := by
      rcases hstore with rfl | ⟨rfl, -⟩
      · exact length_modify ..
      · rfl
    deliveries := by
      intro n row hrow
      rcases hstore with rfl | ⟨rfl, -⟩
      · obtain ⟨row', hrow', hkey, hstatus⟩ :=
          recordAttempt_get s.store x.deliveryId x.job.attempts d result n row hrow
        refine ⟨row', hrow', hkey, fun hdone hsucceeded => ?_⟩
        rw [hstatus]
        split
        · rename_i hn
          subst hn
          obtain rfl := some.inj (hd₀.symm.trans hrow)
          cases hok : result.delivered with
          | true => simp [statusAfter, hok]
          | false => exact absurd (hkey₀ ▸ hsucceeded) (hfailed hok)
        · exact hdone
      · exact ⟨row, hrow, rfl, fun hdone _ => hdone⟩
    jobs := fun i j' hj' => ⟨j', by rwa [← hjobs], rfl, fun hl => hl⟩ }
  have hnone : ∀ d', ¬ phase.loaded = some d' := fun d' hd' => by
    rw [hfree] at hd'
    cases hd'
  refine h.moved hkeeps rfl
    (fun y hy => by rw [some.inj (hy.symm.trans hx)]) hmine ?_ ?_ ?_ ?_ ?_ ?_
  · intro i _
    exact congrArg (·[i]?) hjobs
  · refine fun _ => ⟨j, (congrArg (·[x.jobId]?) hjobs).trans hj, hdelivery, hq, fun hb => ?_⟩
    exact absurd (hbusy.symm.trans hb) (by simp)
  · exact fun d' hd' => absurd hd' (hnone d')
  · exact fun d' hd' => absurd hd' (hnone d')
  · exact fun k hk => .inl hk
  · -- the destination of this job is the one that has just been recorded as delivered
    intro k hk hlive'
    obtain ⟨j', d', hj', -, hd', rfl⟩ := (hkeeps.liveAt hlive').delivery
    obtain rfl := some.inj (hj.symm.trans hj')
    rw [hdelivery, hd₀] at hd'
    cases hd'
    have hok : result.delivered = true := by
      by_contra hno
      exact hfailed (by simpa using hno) (hkey₀ ▸ hk)
    rcases hstore with rfl | ⟨-, hno⟩
    · obtain ⟨row', hrow', -, hstatus⟩ :=
        recordAttempt_get s.store x.deliveryId x.job.attempts d result _ _ hd₀
      refine .inl ⟨j, row', hj, by rw [hdelivery]; exact hrow', ?_⟩
      rw [hstatus, if_pos rfl, statusAfter, if_pos hok]
    · rw [hno] at hok
      cases hok

/-! ### The queue's workers -/

/-- A queued job is claimed, so nobody is on it. -/
theorem Inv.claim (h : Inv s) {workerId : String} {now : Int} {j : DeliveryJob}
    {row : JobRow} (hfree : s.worker w = none) (hj : s.store.jobs[id]? = some j)
    (hrow : Platform.claimOn now workerId j.row = some row) :
    Inv { s with
      store := { s.store with jobs := s.store.jobs.set id { j with row := row } }
      worker := update s.worker w (some ⟨id, row, j.deliveryId, .claimed⟩) } := by
  obtain ⟨-, -, hqueued, hrunning⟩ := Platform.claimOn_spec hrow
  have hid : id < s.store.jobs.length := (List.getElem?_eq_some_iff.mp hj).1
  have hset : (s.store.jobs.set id { j with row := row })[id]? = some { j with row := row } :=
    getElem?_set_self hid
  have hnobody : ∀ v x, s.worker v = some x → x.phase ≠ .ended → x.jobId ≠ id := by
    rintro v x hx hactive rfl
    obtain ⟨j', hj', -, hq, -⟩ := h.held v x hx hactive
    obtain rfl := some.inj (hj'.symm.trans hj)
    exact hq hqueued
  have hkeeps : Keeps s { s with
      store := { s.store with jobs := s.store.jobs.set id { j with row := row } }
      worker := update s.worker w (some ⟨id, row, j.deliveryId, .claimed⟩) } := {
    messages := rfl
    redispatch := rfl
    length := rfl
    deliveries := fun n d hd => ⟨d, hd, rfl, fun hs _ => hs⟩
    jobs := by
      intro i j' hj'
      by_cases hi : id = i
      · subst hi
        obtain rfl := some.inj (hset.symm.trans hj')
        exact ⟨j, hj, rfl, fun _ => by simp [live, hqueued]⟩
      · exact ⟨j', (getElem?_set_ne hi).symm.trans hj', rfl, fun hl => hl⟩ }
  refine h.moved hkeeps rfl (fun x hx => ?_) (fun v x hx hactive hjob => ?_) (fun i hi => ?_) ?_ ?_
    ?_ ?_ ?_
  · rw [hfree] at hx
    cases hx
  · exact absurd hjob (hnobody v x hx hactive)
  · exact getElem?_set_ne (Ne.symm hi)
  · exact fun _ => ⟨_, hset, rfl, by rw [hrunning]; simp, fun _ => hrunning⟩
  · exact nofun
  · exact nofun
  · exact fun k hk => .inl hk
  · intro k hk hlive
    rcases h.settled k hk id (hkeeps.liveAt hlive) with hdone | ⟨v, x, hx, hjob, hphase⟩
    · exact .inl (hkeeps.deliveredAt hk hlive hdone)
    · refine absurd hjob (hnobody v x hx fun hp => ?_)
      rw [hp] at hphase
      cases hphase

/-- A worker with nothing in hand takes its hands off the delivery; its job is what a statement of
the queue makes of it. -/
theorem Inv.release (h : Inv s) (hx : s.worker w = some x) (hactive : x.phase ≠ .ended)
    (hunrecorded : x.phase.unrecorded = false)
    (hf : ∀ row row', f row = some row' → Platform.Statement row row')
    (hstore : store = s.store ∨ store = updateJob s.store x.jobId f) (hfree : phase.loaded = none)
    (hbusy : phase.busy = false)
    (hqueued : phase ≠ .ended → ∀ row row', f row = some row' → row'.status ≠ .queued) :
    Inv ({ s with store := store }.setPhase w x phase) := by
  have hmine := h.mine hx hactive
  have hdone : ∀ k ∈ s.succeeded, LiveAt s.store x.jobId k → DeliveredAt s.store x.jobId :=
    fun k hk hlive => h.settled_self hx hactive hunrecorded hk hlive
  obtain ⟨j, hj, hdelivery, hq, -⟩ := h.held w x hx hactive
  have hkeeps : Keeps s ({ s with store := store }.setPhase w x phase) := by
    rcases hstore with rfl | rfl
    · exact Keeps.of_store rfl rfl
    · exact Keeps.statement hf rfl rfl
  have hnone : ∀ d', ¬ phase.loaded = some d' := fun d' hd' => by
    rw [hfree] at hd'
    cases hd'
  refine h.moved hkeeps rfl
    (fun y hy => by rw [some.inj (hy.symm.trans hx)]) hmine ?_ ?_ ?_ ?_ ?_ ?_
  · intro i hi
    rcases hstore with rfl | rfl
    · rfl
    · exact updateJob_of_ne _ _ hi
  · intro hp
    have hidle : phase.busy = true → ∀ st : JobStatus, st = .running := fun hb => by
      rw [hbusy] at hb
      cases hb
    rcases hstore with rfl | rfl
    · exact ⟨j, hj, hdelivery, hq, fun hb => hidle hb _⟩
    · refine ⟨{ j with row := (f j.row).getD j.row }, ?_, hdelivery, ?_, fun hb => hidle hb _⟩
      · show (updateJob s.store x.jobId f).jobs[x.jobId]? = _
        rw [updateJob_get, hj, map_some, if_pos rfl]
      · cases hrow : f j.row with
        | none => exact hq
        | some row' => exact hqueued hp _ _ hrow
  · exact fun d' hd' => absurd hd' (hnone d')
  · exact fun d' hd' => absurd hd' (hnone d')
  · exact fun k hk => .inl hk
  · exact fun k hk hlive => .inl (hkeeps.deliveredAt hk hlive (hdone k hk (hkeeps.liveAt hlive)))

/-- A worker dies, with no success in hand. -/
theorem Inv.crash (h : Inv s) (hx : s.worker w = some x)
    (hfailed : ∀ d result, x.phase = .attempted d result → result.delivered = false) :
    Inv (s.setPhase w x .ended) := by
  by_cases hactive : x.phase = .ended
  · have hsame : s.setPhase w x .ended = s := by
      have hx' : { x with phase := .ended } = x := by rw [← hactive]
      rw [State.setPhase, hx', ← hx, update_eq_self]
    rw [hsame]
    exact h
  · have hunrecorded : x.phase.unrecorded = false := by
      cases hp : x.phase with
      | attempted d result => exact hfailed d result hp
      | _ => rfl
    have hnone : ∀ row row', (fun _ : JobRow => (none : Option JobRow)) row = some row' →
        Platform.Statement row row' := fun row row' hrow => by cases hrow
    show Inv ({ s with store := s.store }.setPhase w x .ended)
    exact h.release hx hactive hunrecorded hnone (.inl rfl) rfl rfl (fun hne => absurd rfl hne)

/-! ### New jobs

A re-dispatch looks first and inserts later: `Idle` is what the insert needs. -/

theorem Idle.not_liveAt (h : Idle s k) (i : Nat) : ¬ LiveAt s.store i k := by
  rintro ⟨j, hj, hlive, hkey⟩
  have hmem : j ∈ liveJobs s.store k :=
    mem_filter.mpr ⟨mem_of_getElem? hj, by simp [hlive, hkey]⟩
  rw [h.1] at hmem
  cases hmem

/-- **Jobs are added.**  What is asked for is that they are to destinations that were idle, and to
different ones. -/
theorem Inv.creates (h : Inv s) (hworker : s'.worker = s.worker)
    (hsucceeded : s'.succeeded = s.succeeded)
    (hmessages : s.store.messages.length ≤ s'.store.messages.length)
    (hids : ∀ m ∈ s'.store.messages, m.id < s'.store.messages.length)
    (howner : ∀ d ∈ s'.store.deliveries, d.moMessageId < s'.store.messages.length)
    (hjobDelivery : ∀ j ∈ s'.store.jobs, j.deliveryId < s'.store.deliveries.length)
    (hasked : ∀ op id, s'.redispatch op = some id → id < s'.store.messages.length)
    (hdeliveries : ∀ (n : Nat) d, s.store.deliveries[n]? = some d →
      ∃ d', s'.store.deliveries[n]? = some d' ∧ key d' = key d ∧
        (d.status = .delivered → d'.status = .delivered))
    (hjobs : ∀ i, i < s.store.jobs.length → s'.store.jobs[i]? = s.store.jobs[i]?)
    (hidle : ∀ i k, s.store.jobs.length ≤ i → LiveAt s'.store i k →
      (∀ i', ¬ LiveAt s.store i' k) ∧ k ∉ s.succeeded)
    (hone : ∀ i i' k, s.store.jobs.length ≤ i → s.store.jobs.length ≤ i' →
      LiveAt s'.store i k → LiveAt s'.store i' k → i = i') : Inv s' := by
  have hsame : ∀ {i : Nat} {j : DeliveryJob}, s.store.jobs[i]? = some j →
      s'.store.jobs[i]? = some j := fun hj => by
    rw [hjobs _ (List.getElem?_eq_some_iff.mp hj).1]
    exact hj
  have hback : ∀ i k, i < s.store.jobs.length → LiveAt s'.store i k → LiveAt s.store i k := by
    intro i k hi hlive
    obtain ⟨j, d', hj, hl, hd', rfl⟩ := hlive.delivery
    rw [hjobs i hi] at hj
    have hlt := h.jobDelivery j (mem_of_getElem? hj)
    obtain ⟨d'', hd'', hkey, -⟩ := hdeliveries _ _ (getElem?_eq_getElem hlt)
    obtain rfl := some.inj (hd''.symm.trans hd')
    exact ⟨j, hj, hl, by rw [keyOf, getElem?_eq_getElem hlt, map_some, hkey]⟩
  refine ⟨hids, howner, hjobDelivery, hasked, ?_, ?_, ?_, ?_, ?_, ?_, ?_⟩
  · intro k hk
    rw [hsucceeded] at hk
    exact Nat.lt_of_lt_of_le (h.known k hk) hmessages
  · intro i i' k hi hi'
    by_cases hlt : i < s.store.jobs.length <;> by_cases hlt' : i' < s.store.jobs.length
    · exact h.unique i i' k (hback i k hlt hi) (hback i' k hlt' hi')
    · exact absurd (hback i k hlt hi) ((hidle i' k (by omega) hi').1 i)
    · exact absurd (hback i' k hlt' hi') ((hidle i k (by omega) hi).1 i')
    · exact hone i i' k (by omega) (by omega) hi hi'
  · intro w x hx hactive
    rw [hworker] at hx
    obtain ⟨j, hj, hrest⟩ := h.held w x hx hactive
    exact ⟨j, hsame hj, hrest⟩
  · rw [hworker]
    exact h.single
  · intro w x d hx hd
    rw [hworker] at hx
    obtain ⟨d₀, hd₀, hkey₀⟩ := h.loaded w x d hx hd
    obtain ⟨d₁, hd₁, hkey₁, -⟩ := hdeliveries _ _ hd₀
    exact ⟨d₁, hd₁, hkey₁.trans hkey₀⟩
  · rw [hworker, hsucceeded]
    exact h.unsent
  · intro k hk i hlive
    rw [hsucceeded] at hk
    by_cases hlt : i < s.store.jobs.length
    · rcases h.settled k hk i (hback i k hlt hlive) with ⟨j, d, hj, hd, hstatus⟩ | hworker'
      · obtain ⟨d', hd', -, hdone⟩ := hdeliveries _ _ hd
        exact .inl ⟨j, d', hsame hj, hd', hdone hstatus⟩
      · exact .inr (by rw [hworker]; exact hworker')
    · exact absurd hk (hidle i k (by omega) hlive).2

theorem created_get (moMessageId : Nat) (s : Store)
    (targets : List (CompiledMoRule × Destination)) (n : Nat) :
    (created moMessageId s targets)[n]? = (targets[n]?).map
      (newDelivery moMessageId (s.deliveries.length + n) (s.jobs.length + n)) :=
  getElem?_mapIdx

theorem createdJobs_get (now : Int) (s : Store) (targets : List (CompiledMoRule × Destination))
    (n : Nat) : (createdJobs now s targets)[n]? = (targets[n]?).map fun _ =>
      createJob (s.jobs.length + n) (s.deliveries.length + n) now :=
  getElem?_mapIdx

/-- A fan-out adds one job to every destination the message goes to. -/
theorem Inv.fanOut (h : Inv s) {now : Int}
    {targets : List (CompiledMoRule × Destination)} (hworker : s'.worker = s.worker)
    (hsucceeded : s'.succeeded = s.succeeded)
    (hmessages : s.store.messages.length ≤ s'.store.messages.length)
    (hids : ∀ m ∈ s'.store.messages, m.id < s'.store.messages.length)
    (hasked : ∀ op id, s'.redispatch op = some id → id < s'.store.messages.length)
    (hdeliveries : s'.store.deliveries = s.store.deliveries ++ created moMessageId s.store targets)
    (hjobs : s'.store.jobs = s.store.jobs ++ createdJobs now s.store targets)
    (hmessage : moMessageId < s'.store.messages.length)
    (hslots : (targets.map fun t => (t.1.id, t.2.id)).Nodup)
    (hidle : ∀ k : Key, k.1 = moMessageId → (∀ i, ¬ LiveAt s.store i k) ∧ k ∉ s.succeeded) :
    Inv s' := by
  -- a new job is to one of the targets, by its position
  have hnew : ∀ i k, s.store.jobs.length ≤ i → LiveAt s'.store i k →
      ∃ t, targets[i - s.store.jobs.length]? = some t ∧ k = (moMessageId, t.1.id, t.2.id) := by
    intro i k hi hlive
    obtain ⟨j, d, hj, -, hd, rfl⟩ := hlive.delivery
    rw [hjobs, getElem?_append_right hi, createdJobs_get] at hj
    obtain ⟨t, ht, rfl⟩ := map_eq_some_iff.mp hj
    refine ⟨t, ht, ?_⟩
    have hid : (createJob (s.store.jobs.length + (i - s.store.jobs.length))
        (s.store.deliveries.length + (i - s.store.jobs.length)) now).deliveryId =
          s.store.deliveries.length + (i - s.store.jobs.length) := rfl
    rw [hid, hdeliveries, getElem?_append_right (by omega), Nat.add_sub_cancel_left,
      created_get, ht] at hd
    cases hd
    rfl
  refine h.creates hworker hsucceeded hmessages hids ?_ ?_ hasked ?_ ?_ ?_ ?_
  · intro d hd
    rw [hdeliveries] at hd
    rcases mem_append.mp hd with hd | hd
    · exact Nat.lt_of_lt_of_le (h.owner d hd) hmessages
    · rw [created_moMessageId hd]
      exact hmessage
  · intro j hj
    rw [hjobs] at hj
    rw [hdeliveries, length_append]
    rcases mem_append.mp hj with hj | hj
    · exact Nat.lt_of_lt_of_le (h.jobDelivery j hj) (Nat.le_add_right _ _)
    · obtain ⟨n, hn, rfl⟩ := mem_mapIdx.mp hj
      simpa [createJob, created] using hn
  · intro n d hd
    refine ⟨d, ?_, rfl, fun hs => hs⟩
    rw [hdeliveries, getElem?_append_left (List.getElem?_eq_some_iff.mp hd).1]
    exact hd
  · intro i hi
    rw [hjobs, getElem?_append_left hi]
  · intro i k hi hlive
    obtain ⟨t, -, rfl⟩ := hnew i k hi hlive
    exact hidle _ rfl
  · intro i i' k hi hi' hlive hlive'
    obtain ⟨t, ht, rfl⟩ := hnew i k hi hlive
    obtain ⟨t', ht', heq⟩ := hnew i' _ hi' hlive'
    have hpos : i - s.store.jobs.length = i' - s.store.jobs.length := by
      refine (getElem?_inj ?_ hslots).mp ?_
      · rw [length_map]
        exact (List.getElem?_eq_some_iff.mp ht).1
      · rw [getElem?_map, getElem?_map, ht, ht']
        exact congrArg some (congrArg Prod.snd heq)
    omega

/-- A delivery goes back to be attempted, by one more job. -/
theorem Inv.retry (h : Inv s) (now : Int) (hd : s.store.deliveries[id]? = some d)
    (hopen : d.status ≠ .delivered) (hidle : Idle s (key d)) :
    Inv { s with store := requeue s.store id d now } := by
  have hid : id < s.store.deliveries.length := (List.getElem?_eq_some_iff.mp hd).1
  have hdeliveries : ∀ n : Nat, ((requeue s.store id d now).deliveries[n]?).map key =
      (s.store.deliveries[n]?).map key := by
    intro n
    by_cases hn : id = n
    · subst hn
      rw [requeue, getElem?_set_self hid, hd]
      rfl
    · rw [requeue, getElem?_set_ne hn]
  have hnew : ∀ i k, s.store.jobs.length ≤ i →
      LiveAt (requeue s.store id d now) i k → i = s.store.jobs.length ∧ k = key d := by
    rintro i k hi ⟨j, hj, -, hkey⟩
    rw [requeue, getElem?_append_right hi] at hj
    have hi' : i - s.store.jobs.length = 0 := by
      have := (List.getElem?_eq_some_iff.mp hj).1
      simp only [length_singleton] at this
      omega
    rw [hi'] at hj
    cases hj
    have hk : ((requeue s.store id d now).deliveries[id]?).map key = some k := hkey
    rw [hdeliveries, hd] at hk
    exact ⟨by omega, (some.inj hk).symm⟩
  refine h.creates rfl rfl (Nat.le_refl _) h.messageIds ?_ ?_ h.asked ?_ ?_ ?_ ?_
  · intro d' hd'
    rcases mem_or_eq_of_mem_set hd' with hmem | rfl
    · exact h.owner d' hmem
    · exact h.owner d (mem_of_getElem? hd)
  · intro j hj
    rw [requeue, length_set]
    rcases mem_append.mp hj with hj | hj
    · exact h.jobDelivery j hj
    · rw [mem_singleton.mp hj]
      exact hid
  · intro n d' hd'
    by_cases hn : id = n
    · subst hn
      obtain rfl := some.inj (hd.symm.trans hd')
      exact ⟨_, getElem?_set_self hid, rfl, fun hs => absurd hs hopen⟩
    · exact ⟨d', (getElem?_set_ne hn).trans hd', rfl, fun hs => hs⟩
  · exact fun i hi => getElem?_append_left hi
  · intro i k hi hlive
    obtain ⟨-, rfl⟩ := hnew i k hi hlive
    exact ⟨hidle.not_liveAt, hidle.2⟩
  · intro i i' k hi hi' hlive hlive'
    rw [(hnew i k hi hlive).1, (hnew i' k hi' hlive').1]

/-! ### Runs -/

section Runs

variable (text : TextEngine) (countryCode : Option String) (tuning : RetryTuning)

/-- A message comes in, and its destinations are new. -/
theorem Inv.ingest {s : State} (h : Inv s) (tables : RuleTables) (now : Int) (p : PreparedInbound) :
    Inv { s with store := (s.store.ingestInClient text countryCode tables now p).1 } := by
  rcases s.store.ingestInClient_cases text countryCode tables now h.messageIds p with
    ⟨hsame, -⟩ | ⟨-, -, row, hid, -, -, hstore⟩
  · rw [hsame]
    exact h
  · rw [hstore]
    have hjobs : (s.store.withMessage now row (targetsOf text countryCode tables p.context)).jobs =
        s.store.jobs ++
          createdJobs now s.store (targetsOf text countryCode tables p.context) := rfl
    refine h.fanOut rfl rfl ?_ ?_ ?_ rfl hjobs ?_
      (fanOutTargets_loaded text countryCode tables p.context) ?_
    · exact Nat.le_of_lt (by simp [Store.withMessage])
    · intro m hm
      rw [Store.withMessage, length_append, length_singleton]
      rcases mem_append.mp hm with hm | hm
      · exact Nat.lt_succ_of_lt (h.messageIds m hm)
      · rw [mem_singleton.mp hm, hid]
        exact Nat.lt_succ_self _
    · intro op id hop
      rw [Store.withMessage, length_append, length_singleton]
      exact Nat.lt_succ_of_lt (h.asked op id hop)
    · rw [Store.withMessage, length_append, length_singleton, hid]
      exact Nat.lt_succ_self _
    · intro k hk
      refine ⟨fun i hlive => ?_, fun hmem => ?_⟩
      · obtain ⟨j, d, -, -, hd, rfl⟩ := hlive.delivery
        have hlt := h.owner d (mem_of_getElem? hd)
        have heq : d.moMessageId = row.id := hk
        omega
      · have hlt := h.known k hmem
        omega

/-- A message is fanned out again, and its destinations are idle. -/
theorem Inv.redispatched {s : State} (h : Inv s) {op id : Nat} (tables : RuleTables) (now : Int)
    (context : MoMessageContext) (hop : s.redispatch op = some id)
    (hidle : ∀ k : Key, k.1 = id → Idle s k) :
    Inv { s with
      store := matchAndFanOut text countryCode tables now s.store id context
      redispatch := update s.redispatch op none } := by
  have hlength : (matchAndFanOut text countryCode tables now s.store id context).messages.length =
      s.store.messages.length := by
    simp only [matchAndFanOut, writeDeliveries_eq, length_map]
  have hdeliveries : (matchAndFanOut text countryCode tables now s.store id context).deliveries =
      s.store.deliveries ++ created id s.store (targetsOf text countryCode tables context) := by
    simp only [matchAndFanOut, writeDeliveries_eq]
  have hjobs : (matchAndFanOut text countryCode tables now s.store id context).jobs =
      s.store.jobs ++ createdJobs now s.store (targetsOf text countryCode tables context) := by
    simp only [matchAndFanOut, writeDeliveries_eq]
  refine h.fanOut rfl rfl (Nat.le_of_eq hlength.symm) ?_ ?_ hdeliveries hjobs ?_
    (fanOutTargets_loaded text countryCode tables context) ?_
  · intro m hm
    rw [hlength]
    simp only [matchAndFanOut, writeDeliveries_eq] at hm
    obtain ⟨m', hm', rfl⟩ := mem_map.mp hm
    have hlt := h.messageIds m' hm'
    split
    · exact hlt
    · exact hlt
  · intro op' id' hop'
    rw [hlength]
    by_cases heq : op' = op
    · subst heq
      simp at hop'
    · exact h.asked op' id' (by simpa [update_of_ne heq] using hop')
  · rw [hlength]
    exact h.asked op id hop
  · exact fun k hk => ⟨(hidle k hk).not_liveAt, (hidle k hk).2⟩

variable {op : Nat} {now : Int} {ack : Ack}

section

variable (h : Inv s)
include h

theorem inv_check
    (hs : step text countryCode tuning s (.check op moMessageId) = some s') : Inv s' := by
  rw [step] at hs
  split at hs
  · rename_i m hfree hm
    split at hs
    · cases hs
      refine { h with asked := fun op' id' hop' => ?_ }
      by_cases heq : op' = op
      · subst heq
        obtain rfl : moMessageId = id' := by simpa using hop'
        exact (List.getElem?_eq_some_iff.mp hm).1
      · exact h.asked op' id' (by simpa [update_of_ne heq] using hop')
    · cases hs
  · cases hs

theorem inv_redispatch {tables : RuleTables} (hc : Careful s (.redispatch op tables now ack))
    (hs : step text countryCode tuning s (.redispatch op tables now ack) = some s') : Inv s' := by
  rw [step] at hs
  split at hs
  · rename_i id m hop
    cases hs
    obtain ⟨id', hid', hm⟩ := bind_eq_some_iff.mp hop
    obtain ⟨m', -, heq⟩ := map_eq_some_iff.mp hm
    obtain ⟨rfl, rfl⟩ := Prod.mk.inj heq
    split
    · rename_i hack
      exact h.redispatched text countryCode tables now _ hid' (hc hack _ hid')
    · refine { h with asked := fun op' id hop' => ?_ }
      by_cases heq : op' = op
      · subst heq
        simp at hop'
      · exact h.asked op' id (by simpa [update_of_ne heq] using hop')
  · cases hs

theorem inv_retryDelivery (hc : Careful s (.retryDelivery id now ack))
    (hs : step text countryCode tuning s (.retryDelivery id now ack) = some s') : Inv s' := by
  rw [step] at hs
  split at hs
  · rename_i d hd
    split at hs
    · rename_i hstatus
      cases hs
      split
      · rename_i hack
        refine h.retry now hd (fun hdone => ?_) (hc hack d hd)
        rw [hdone] at hstatus
        simp at hstatus
      · exact h
    · cases hs
  · cases hs

theorem inv_load (hs : step text countryCode tuning s (.load w ack) = some s') :
    Inv s' := by
  rw [step] at hs
  split at hs
  · rename_i id job deliveryId hx
    have hloads := loadDelivery_loads s.store deliveryId job.attempts
    cases ack with
    | ok =>
      cases hs
      exact h.load hx rfl hloads
    | lost error =>
      cases hs
      exact h.load hx rfl (hloads.threw error false)
    | refused error =>
      cases hs
      exact h.load hx rfl (Loads.refused s.store deliveryId error false)
  · cases hs

theorem inv_record (hc : Careful s (.record w ack))
    (hs : step text countryCode tuning s (.record w ack) = some s') : Inv s' := by
  rw [step] at hs
  split at hs
  · rename_i id job deliveryId d result hx
    have hphase : (afterRecord d job.attempts result).loaded = none ∧
        (afterRecord d job.attempts result).busy = false := by
      unfold afterRecord
      split
      · exact ⟨rfl, rfl⟩
      · simp only
        split <;> exact ⟨rfl, rfl⟩
    cases ack with
    | ok =>
      cases hs
      exact h.record hx rfl (.inl rfl) hphase.1 hphase.2
    | lost error =>
      cases hs
      exact h.record hx rfl (.inl rfl) rfl rfl
    | refused error =>
      cases hs
      refine h.record hx rfl (.inr ⟨rfl, ?_⟩) rfl rfl
      by_contra hok
      exact absurd (hc _ d result hx rfl (by simpa using hok)) (by simp [Ack.committed])
  · cases hs

theorem inv_complete
    (hs : step text countryCode tuning s (.complete w now ack) = some s') : Inv s' := by
  rw [step] at hs
  split at hs
  · rename_i id job deliveryId status hx
    have hspec : ∀ row row', Platform.completeJob now status.text row = some row' →
        Platform.Statement row row' ∧ row'.status ≠ .queued := fun row row' hrow => by
      obtain ⟨hst, -, -, hstatus⟩ := Platform.completeJob_spec hrow
      exact ⟨hst, by rw [hstatus]; simp⟩
    cases ack with
    | ok | lost _ =>
      cases hs
      exact h.release hx (by simp) rfl (fun row row' hr => (hspec row row' hr).1) (.inr rfl)
        rfl rfl fun _ row row' hr => (hspec row row' hr).2
    | refused error =>
      cases hs
      exact h.release hx (by simp) rfl (fun row row' hr => (hspec row row' hr).1) (.inl rfl)
        rfl rfl fun _ row row' hr => (hspec row row' hr).2
  · cases hs

theorem inv_fail (hs : step text countryCode tuning s (.fail w now ack) = some s') :
    Inv s' := by
  rw [step] at hs
  split at hs
  · rename_i id job deliveryId message permanent hx
    cases hs
    refine h.release hx (by simp) rfl (f := Platform.failAttempt tuning now job message permanent)
      (fun row row' hr => (Platform.failAttempt_spec hr).1) ?_ rfl rfl
      (fun hne => absurd rfl hne)
    split
    · exact .inr rfl
    · exact .inl rfl
  · cases hs

/-- **One step.** -/
theorem inv_step {a : Action} (hc : Careful s a)
    (hs : step text countryCode tuning s a = some s') : Inv s' := by
  cases a with
  | ingest tables now prepared ack =>
    cases hs
    split
    · exact h.ingest text countryCode tables now prepared
    · exact h
  | check _ _ => exact inv_check text countryCode tuning h hs
  | redispatch _ _ _ _ => exact inv_redispatch text countryCode tuning h hc hs
  | retryDelivery _ _ _ => exact inv_retryDelivery text countryCode tuning h hc hs
  | claim w id workerId now =>
    rw [step] at hs
    split at hs
    · rename_i j row hfree hclaim
      cases hs
      obtain ⟨j', hj', hmap⟩ := bind_eq_some_iff.mp hclaim
      obtain ⟨row', hrow', heq⟩ := map_eq_some_iff.mp hmap
      obtain ⟨rfl, rfl⟩ := Prod.mk.inj heq
      exact h.claim hfree hj' hrow'
    · cases hs
  | load _ _ => exact inv_load text countryCode tuning h hs
  | result w result =>
    rw [step] at hs
    split at hs
    · rename_i id job deliveryId d hx
      cases hs
      exact h.result hx rfl result
    · cases hs
  | record _ _ => exact inv_record text countryCode tuning h hc hs
  | progress w percent now =>
    rw [step] at hs
    split at hs
    · cases hs
      refine h.statement (fun row row' hrow => (Platform.reportProgress_spec hrow).1) ?_
      intro j row' hj hrow
      obtain ⟨-, -, hrunning, hrunning'⟩ := Platform.reportProgress_spec hrow
      exact .inl (hrunning'.trans hrunning.symm)
    · cases hs
  | complete _ _ _ => exact inv_complete text countryCode tuning h hs
  | fail _ _ _ => exact inv_fail text countryCode tuning h hs
  | crash w =>
    rw [step] at hs
    split at hs
    · rename_i x hx
      cases hs
      exact h.crash hx fun d result hp => hc x d result hx hp
    · cases hs
  | reap id staleAfterMs now =>
    cases hs
    exact h.statement (fun row row' hrow => (Platform.reapStuck_spec hrow).1)
      fun j row' hj hrow => .inr hc

end

/-- **One live delivery for each destination, in every careful run**: at no time can two jobs run
for it, no two attempts at it overlap, and none follows one that succeeded. -/
theorem one_live_delivery (actions : List Action) (s : State)
    (hcareful : (deliveries text countryCode tuning).Along Careful init actions)
    (hrun : (deliveries text countryCode tuning).run init actions = some s) :
    OneLiveDelivery s :=
  ((deliveries text countryCode tuning).invariant_along
    (fun _ _ _ hi hc hs => inv_step text countryCode tuning hi hc hs) inv_init hcareful
      hrun).oneLiveDelivery

end Runs

/-! ### A run that keeps the promise, and one that does not -/

/-- One rule that takes everything, to one webhook. -/
def crm : RuleTables where
  rules := [{ id := "r", name := "all", priority := 0, createdAt := 0 }]
  destinations := [{
    id := "d", ruleId := "r", kind := .webhook, target := "https://crm.example/mo"
    maxAttempts := 3, createdAt := 0 }]
  ruleIds := by decide
  destinationIds := by decide

/-- A message comes in, and its webhook answers with an error. -/
def failedOnce (p : PreparedInbound) : List Action :=
  [.ingest crm 0 p .ok, .claim 0 0 "a" 0, .load 0 .ok,
    .result 0 ⟨false, some 503, "503 Service Unavailable"⟩, .record 0 .ok, .fail 0 1000 .ok]

/-- A message. -/
def hello : PreparedInbound :=
  ⟨.http, some "http:1", none, some "1", none, "256700000001", "8080", some "256700000001",
    some "8080", "hello"⟩

theorem one_live_delivery_failedOnce :
    ∃ s, (deliveries .ascii none ⟨5000, 300000⟩).run init (failedOnce hello) = some s ∧
      OneLiveDelivery s := by
  refine ⟨_, rfl, one_live_delivery .ascii none ⟨5000, 300000⟩ (failedOnce hello) _ ?_ rfl⟩
  refine Transition.System.along_of_mem _ (fun a ha s => ?_) init
  simp only [failedOnce, mem_cons, not_mem_nil, or_false] at ha
  rcases ha with rfl | rfl | rfl | rfl | rfl | rfl
  · trivial
  · trivial
  · trivial
  · trivial
  · exact fun _ _ _ _ _ _ => rfl
  · trivial

/-- **A failed attempt and a retry.**  The delivery is `failed` and its job is back in the queue;
the retry adds another, and both run: two workers call the webhook at the same time. -/
theorem failed_delivery_has_a_job :
    ∃ s, (deliveries .ascii none ⟨5000, 300000⟩).run init (failedOnce hello ++
        [.retryDelivery 0 2000 .ok, .claim 1 1 "b" 2000, .claim 2 0 "c" 6000, .load 1 .ok,
          .load 2 .ok]) = some s ∧
      (liveJobs s.store (0, "r", "d")).length = 2 ∧ Attempting s 1 (0, "r", "d") ∧
      Attempting s 2 (0, "r", "d") ∧ ¬ OneLiveDelivery s := by
  refine ⟨_, rfl, by decide +kernel, ⟨_, _, rfl, rfl, rfl⟩, ⟨_, _, rfl, rfl, rfl⟩, fun h => ?_⟩
  exact absurd (h.apart 1 2 (0, "r", "d") ⟨_, _, rfl, rfl, rfl⟩ ⟨_, _, rfl, rfl, rfl⟩) (by decide)

end Jkannel.Messaging.Mo.Deliveries
