import Mathlib.Algebra.Order.Ring.Rat
import Jkannel.Lib.Transition
import Jkannel.Text

/-!
# Idempotency keys

A request that carries a key claims the record of the key for its method and route, runs its
handler, and completes the record with the response; a repeat of the request is answered from the
record.  The record of a handler that failed may be claimed again at once, and one that nobody has
completed once it is stale.

* `verdict` is what a request makes of a record it finds, and `runStep` what it does, statement by
  statement; `step` is the machine of any number of requests under one key of one tenant.
* `AtMostOnce` is what a key is for: once a run has completed no handler is started, every repeat is
  answered with its response, nobody is answered with the response to another request, and a run
  whose record has been reclaimed leaves it alone.
* `Orderly` is the condition: a record is only reclaimed for its age when the run that owns it is
  over, and requests that differ do not hash alike.
* `at_most_once` is the result; `stale_owner_completes` is a run that breaks without it.

A row knows here which run claimed it last, and which run's response it holds; the table does not.
-/

namespace Jkannel.Platform.Idempotency

open List Option
open Function (update update_self update_of_ne)
open Transition (Ack)

/-! ## Requests -/

/-- The methods that are guarded. -/
inductive Method where
  | post | put | patch | delete
  deriving DecidableEq

def Method.text : Method → String
  | .post => "POST"
  | .put => "PUT"
  | .patch => "PATCH"
  | .delete => "DELETE"

/-- A request with a key. -/
structure Request where
  method : Method
  /-- `originalUrl`: the path with the query string. -/
  url : String
  /-- `JSON.stringify(body ?? null)`. -/
  body : String
  deriving DecidableEq

/-- The path without the version in front of it. -/
def normalizedRoute (url : String) : String :=
  let path := (Text.split '?' url).headD ""
  let route := if "/api/v1".toList.isPrefixOf path.toList then
    String.ofList (path.toList.drop 7) else path
  if route = "" then "/" else route

/-- What a key has one record for. -/
abbrev Slot := Method × String

def Request.slot (request : Request) : Slot := (request.method, normalizedRoute request.url)

/-- What the service is set up with. -/
structure Service where
  sha256 : String → String
  /-- `IDEMPOTENCY_STALE_MS`, when it is a number. -/
  setting : Option ℚ

def Service.staleMs (w : Service) : ℚ :=
  match w.setting with
  | some v => if 0 < v then v else 60000
  | none => 60000

/-- The hash a record is compared by. -/
def hashRequest (w : Service) (request : Request) : String :=
  w.sha256 ("\x7b\"method\":" ++ Text.jsonString request.method.text ++ ",\"route\":" ++
    Text.jsonString (normalizedRoute request.url) ++ ",\"body\":" ++ request.body ++ "\x7d")

/-! ## Records -/

inductive Status where
  | processing | completed | failed
  deriving DecidableEq

/-- A row of `api_idempotency_records`. -/
structure Row where
  requestHash : String
  status : Status
  responseBody : Option String
  updatedAt : Int
  /-- The run that claimed the record last. -/
  owner : Nat
  /-- The run that completed it. -/
  writer : Nat

/-- What a request makes of the record it finds. -/
inductive Verdict where
  | mismatch
  | replay (response : String)
  | processing
  | reclaim
  deriving DecidableEq

/-- What a record says of a request. -/
def verdict (w : Service) (row : Row) (hash : String) (now : Int) : Verdict :=
  if row.requestHash ≠ hash then .mismatch
  else match row.status with
    | .completed => .replay (row.responseBody.getD "null")
    | .failed => .reclaim
    | .processing => if w.staleMs ≤ (now - row.updatedAt : Int) then .reclaim else .processing

/-- The UPDATE of `complete`, whatever the status. -/
def Row.complete (row : Row) (i : Nat) (response : String) (now : Int) : Row :=
  { row with
    status := .completed
    responseBody := some response
    updatedAt := now
    writer := i }

/-- The UPDATE of `fail`, of a record that is still processing. -/
def Row.fail (row : Row) (now : Int) : Row :=
  if row.status = .processing then { row with status := .failed, updatedAt := now } else row

/-! ## The machine -/

/-- How a request ends. -/
inductive Outcome where
  /-- It is answered with the response of a run. -/
  | replayed (response : String) (writer : Nat)
  | conflict (message : String)
  | errored
  | answered (response : String)
  | crashed
  deriving DecidableEq

/-- Where a request is. -/
inductive Phase where
  /-- The transaction of `begin` has begun. -/
  | began (start : Int)
  /-- There was no record. -/
  | absent (start : Int)
  /-- The record is inserted or reclaimed, and locked. -/
  | claiming (start : Int)
  /-- The claim is committed; the handler is next. -/
  | owner
  | running
  | succeeded (response : String)
  | threw
  | ended (outcome : Outcome)
  deriving DecidableEq

/-- A request at work. -/
structure Run where
  request : Request
  phase : Phase
  deriving DecidableEq

/-- A completion that has been committed. -/
structure Completion where
  run : Nat
  request : Request
  response : String
  deriving DecidableEq

/-- The records and the requests. -/
structure State where
  now : Int
  rows : Slot → Option Row
  /-- The request that has the record locked, or is inserting it. -/
  holder : Slot → Option Nat
  runs : Nat → Option Run
  requests : List Request
  completions : List Completion

def init : State := ⟨0, fun _ => none, fun _ => none, fun _ => none, [], []⟩

/-- One statement of one request. -/
inductive Action where
  | tick (ms : Nat)
  /-- A request arrives, and its `begin` begins. -/
  | arrive (i : Nat) (request : Request)
  /-- The SELECT ... FOR UPDATE, and what follows from a record it finds. -/
  | select (i : Nat)
  | insert (i : Nat)
  | commit (i : Nat) (ack : Ack)
  /-- The handler is started. -/
  | handle (i : Nat)
  | succeed (i : Nat) (response : String)
  | throw (i : Nat)
  | complete (i : Nat) (ack : Ack)
  | fail (i : Nat) (ack : Ack)
  | crash (i : Nat)

def State.setRun (s : State) (i : Nat) (run : Run) (phase : Phase) : State :=
  { s with runs := update s.runs i (some { run with phase := phase }) }

def State.lock (s : State) (slot : Slot) (i : Nat) : State :=
  { s with holder := update s.holder slot (some i) }

/-- A request gives up its lock, if it has one. -/
def State.unlock (s : State) (slot : Slot) (i : Nat) : State :=
  if s.holder slot = some i then { s with holder := update s.holder slot none } else s

def State.setRow (s : State) (slot : Slot) (row : Row) : State :=
  { s with rows := update s.rows slot (some row) }

/-- A completion is committed. -/
def State.setCompletion (s : State) (c : Completion) : State :=
  { s with completions := s.completions ++ [c] }

/-- The SELECT finds a record. -/
def found (w : Service) (s : State) (i : Nat) (run : Run) (start : Int) (row : Row) : State :=
  match verdict w row (hashRequest w run.request) s.now with
  | .mismatch => s.setRun i run
    (.ended (.conflict "Idempotency-Key was already used with a different request body"))
  | .replay response => s.setRun i run (.ended (.replayed response row.writer))
  | .processing => s.setRun i run
    (.ended (.conflict "Request with this Idempotency-Key is still processing"))
  | .reclaim => (s.lock run.request.slot i).setRun i run (.claiming start)

/-- The record as it is claimed. -/
def claimed (w : Service) (run : Run) (i : Nat) (start : Int) : Row :=
  ⟨hashRequest w run.request, .processing, none, start, i, i⟩

/-- How the transaction of a claim ends. -/
def commitClaim (w : Service) (s : State) (i : Nat) (run : Run) (start : Int) : Ack → State
  | .ok => ((s.unlock run.request.slot i).setRow run.request.slot (claimed w run i start)).setRun i
      run .owner
  | .lost _ => ((s.unlock run.request.slot i).setRow run.request.slot
      (claimed w run i start)).setRun i run (.ended .errored)
  | .refused _ => (s.unlock run.request.slot i).setRun i run (.ended .errored)

/-- The transaction of `complete`. -/
def completeRecord (s : State) (i : Nat) (run : Run) (response : String) (row : Row) (ack : Ack) :
    State :=
  if ack.committed then
    ((s.setRow run.request.slot (row.complete i response s.now)).setCompletion
      ⟨i, run.request, response⟩).setRun i run
        (.ended (if ack = .ok then .answered response else .errored))
  else s.setRun i run (.ended .errored)

/-- The step of a request. -/
def runStep (w : Service) (s : State) (i : Nat) (run : Run) : Phase → Action → Option State
  | .began start, .select _ =>
    match s.rows run.request.slot with
    | none => some (s.setRun i run (.absent start))
    | some row =>
      if (s.holder run.request.slot).isSome then none else some (found w s i run start row)
  | .absent start, .insert _ =>
    -- the unique index refuses a record that has come in between
    if (s.rows run.request.slot).isSome then some (s.setRun i run (.ended .errored))
    else if (s.holder run.request.slot).isSome then none
    else some ((s.lock run.request.slot i).setRun i run (.claiming start))
  | .claiming start, .commit _ ack => some (commitClaim w s i run start ack)
  | .owner, .handle _ => some (s.setRun i run .running)
  | .running, .succeed _ response => some (s.setRun i run (.succeeded response))
  | .running, .throw _ => some (s.setRun i run .threw)
  | .succeeded response, .complete _ ack =>
    if (s.holder run.request.slot).isSome then none
    else (s.rows run.request.slot).map fun row => completeRecord s i run response row ack
  | .threw, .fail _ ack =>
    if (s.holder run.request.slot).isSome then none
    else (s.rows run.request.slot).map fun row =>
      (if ack.committed then s.setRow run.request.slot (row.fail s.now) else s).setRun i run
        (.ended .errored)
  | .ended _, .crash _ => none
  | _, .crash _ => some ((s.unlock run.request.slot i).setRun i run (.ended .crashed))
  | _, _ => none

/-- One statement of one request. -/
@[grind =] def step (w : Service) (s : State) (a : Action) : Option State :=
  match a with
  | .tick ms => some { s with now := s.now + ms }
  | .arrive i request =>
    if (s.runs i).isSome then none
    else some ({ s with requests := s.requests ++ [request] }.setRun i ⟨request, .began s.now⟩
      (.began s.now))
  | .select i | .insert i | .commit i _ | .handle i | .succeed i _ | .throw i | .complete i _
  | .fail i _ | .crash i => (s.runs i).bind fun run => runStep w s i run run.phase a

/-- The machine. -/
def idempotency (w : Service) : Transition.System State Action := ⟨step w⟩

/-! ## What a key is for -/

/-- **A key means at most once.** -/
structure AtMostOnce (w : Service) (s : State) : Prop where
  /-- No handler is started after a completion. -/
  once : ∀ i run s', s.runs i = some run → step w s (.handle i) = some s' →
    ∀ c ∈ s.completions, c.request.slot ≠ run.request.slot
  /-- A repeat of a completed request is answered with its response. -/
  repeated : ∀ c ∈ s.completions, ∀ i start s', s.runs i = some ⟨c.request, .began start⟩ →
    step w s (.select i) = some s' →
    s'.runs i = some ⟨c.request, .ended (.replayed c.response c.run)⟩
  /-- A request that is answered from a record is the one that was completed. -/
  own : ∀ i request response writer,
    s.runs i = some ⟨request, .ended (.replayed response writer)⟩ →
    ⟨writer, request, response⟩ ∈ s.completions
  /-- A run whose record has been reclaimed does not change it. -/
  fenced : ∀ i run row ack s', s.runs i = some run → s.rows run.request.slot = some row →
    row.owner ≠ i → step w s (.complete i ack) = some s' ∨ step w s (.fail i ack) = some s' →
    s'.rows = s.rows

def Phase.isEnded : Phase → Bool
  | .ended _ => true
  | _ => false

/-- The run is over. -/
def Over (s : State) (i : Nat) : Prop := ∃ run ∈ s.runs i, run.phase.isEnded = true

instance (s : State) (i : Nat) : Decidable (Over s i) :=
  inferInstanceAs (Decidable (∃ run ∈ s.runs i, _))

/-- What a run is asked for: requests for one record that hash alike are the same, and a record is
reclaimed for its age only when the run that owns it is over. -/
def Orderly (w : Service) (s : State) : Action → Prop
  | .arrive _ request => ∀ other ∈ s.requests, other.slot = request.slot →
      hashRequest w other = hashRequest w request → other = request
  | .select i => ∀ run ∈ s.runs i, ∀ row ∈ s.rows run.request.slot,
      row.status = .processing →
        verdict w row (hashRequest w run.request) s.now = .reclaim → Over s row.owner
  | _ => True

instance (w : Service) (s : State) (a : Action) : Decidable (Orderly w s a) := by
  unfold Orderly
  split <;> infer_instance

/-! ## The invariant

A live run owns its record, so no other run is at work on its request. -/

/-- The run has claimed its record and may still complete it. -/
def Phase.live : Phase → Bool
  | .owner | .running | .succeeded _ | .threw => true
  | _ => false

/-- The record holds a completion. -/
def Row.Holds (w : Service) (row : Row) (c : Completion) : Prop :=
  row.status = .completed ∧ row.responseBody = some c.response ∧ row.writer = c.run ∧
    row.requestHash = hashRequest w c.request

/-- What a step of the requests keeps. -/
structure Inv (w : Service) (s : State) : Prop where
  /-- A live run owns its record. -/
  live : ∀ i run, s.runs i = some run → run.phase.live = true →
    ∃ row, s.rows run.request.slot = some row ∧ row.owner = i ∧ row.status = .processing ∧
      row.requestHash = hashRequest w run.request
  /-- A record that is being claimed is locked, and nobody else's. -/
  claiming : ∀ i run start, s.runs i = some run → run.phase = .claiming start →
    s.holder run.request.slot = some i ∧ ∀ row, s.rows run.request.slot = some row →
      row.status ≠ .completed ∧ Over s row.owner
  failed : ∀ slot row, s.rows slot = some row → row.status = .failed → Over s row.owner
  completed : ∀ slot row, s.rows slot = some row → row.status = .completed →
    ∃ c ∈ s.completions, c.request.slot = slot ∧ row.Holds w c
  stored : ∀ c ∈ s.completions, ∃ row, s.rows c.request.slot = some row ∧ row.Holds w c
  known : ∀ i run, s.runs i = some run → run.request ∈ s.requests
  knownCompletions : ∀ c ∈ s.completions, c.request ∈ s.requests
  apart : ∀ a ∈ s.requests, ∀ b ∈ s.requests, a.slot = b.slot →
    hashRequest w a = hashRequest w b → a = b
  replayed : ∀ i request response writer,
    s.runs i = some ⟨request, .ended (.replayed response writer)⟩ →
    ⟨writer, request, response⟩ ∈ s.completions

theorem inv_init (w : Service) : Inv w init where
  live _ _ h := by cases h
  claiming _ _ _ h := by cases h
  failed _ _ h := by cases h
  completed _ _ h := by cases h
  stored _ h := by cases h
  known _ _ h := by cases h
  knownCompletions _ h := by cases h
  apart _ h := by cases h
  replayed _ _ _ _ h := by cases h

section Step

variable {w : Service} {s s' : State} {i : Nat} {run : Run}

theorem setRun_runs (s : State) (i : Nat) (run : Run) (phase : Phase) :
    (s.setRun i run phase).runs =
      update s.runs i (some { run with phase := phase }) := rfl

variable {j : Nat} {phase : Phase} {start : Int} {row : Row} {hash : String} {a : Action}
  {response : String}

/-- Another run is where it was. -/
theorem setRun_ne (h : j ≠ i) (phase : Phase) : (s.setRun i run phase).runs j = s.runs j := by
  rw [setRun_runs, update_of_ne h]

theorem setRun_self (phase : Phase) :
    (s.setRun i run phase).runs i = some { run with phase := phase } := by
  rw [setRun_runs, update_self]

/-- A run of the state after a step is the one that moved, or another one as it was. -/
theorem setRun_cases {other : Run} (h : (s.setRun i run phase).runs j = some other) :
    (j = i ∧ other = { run with phase := phase }) ∨ (j ≠ i ∧ s.runs j = some other) := by
  by_cases hj : j = i
  · subst hj
    rw [setRun_self] at h
    exact .inl ⟨rfl, (some.inj h).symm⟩
  · rw [setRun_ne hj] at h
    exact .inr ⟨hj, h⟩

theorem Over.setRun (h : Over s j) (hrun : s.runs i = some run) (hnot : run.phase.isEnded = false)
    (phase : Phase) : Over (s.setRun i run phase) j := by
  obtain ⟨other, hother, hended⟩ := h
  have hj : j ≠ i := by
    rintro rfl
    obtain rfl := some.inj (hrun.symm.trans hother)
    rw [hnot] at hended
    cases hended
  exact ⟨other, by rw [setRun_ne hj]; exact hother, hended⟩

theorem not_ended_of_live (h : phase.live = true) : phase.isEnded = false := by
  cases phase <;> first | rfl | cases h

/-- A request moves on, and leaves records and completions as they are. -/
theorem Inv.move (h : Inv w s) (hrun : s.runs i = some run) (hnot : run.phase.isEnded = false)
    (holder : Slot → Option Nat)
    (hholder : ∀ slot j, s.holder slot = some j → j ≠ i → holder slot = some j)
    (hlive : phase.live = true → ∃ row, s.rows run.request.slot = some row ∧ row.owner = i ∧
      row.status = .processing ∧ row.requestHash = hashRequest w run.request)
    (hclaim : ∀ start, phase = .claiming start → holder run.request.slot = some i ∧
      ∀ row, s.rows run.request.slot = some row → row.status ≠ .completed ∧ Over s row.owner)
    (hreplay : ∀ response writer, phase = .ended (.replayed response writer) →
      ⟨writer, run.request, response⟩ ∈ s.completions) :
    Inv w ({ s with holder := holder }.setRun i run phase) where
  live j other hother hotherLive := by
    rcases setRun_cases hother with ⟨rfl, rfl⟩ | ⟨-, hother⟩
    · exact hlive hotherLive
    · exact h.live j other hother hotherLive
  claiming j other start hother hclaiming := by
    rcases setRun_cases hother with ⟨rfl, rfl⟩ | ⟨hj, hother⟩
    · obtain ⟨hheld, hrows⟩ := hclaim start hclaiming
      exact ⟨hheld, fun row hrow => ⟨(hrows row hrow).1, (hrows row hrow).2.setRun hrun hnot phase⟩⟩
    · obtain ⟨hheld, hrows⟩ := h.claiming j other start hother hclaiming
      exact ⟨hholder _ _ hheld hj,
        fun row hrow => ⟨(hrows row hrow).1, (hrows row hrow).2.setRun hrun hnot phase⟩⟩
  failed slot row hrow hfailed := (h.failed slot row hrow hfailed).setRun hrun hnot phase
  __ := h
  known j other hother := by
    rcases setRun_cases hother with ⟨rfl, rfl⟩ | ⟨-, hother⟩
    · exact h.known j run hrun
    · exact h.known j other hother
  replayed j request response writer hother := by
    rcases setRun_cases hother with ⟨rfl, heq⟩ | ⟨-, hother⟩
    · obtain ⟨rfl, hphase⟩ := Run.mk.inj heq
      exact hreplay response writer hphase.symm
    · exact h.replayed j request response writer hother

/-- A step that changes nothing but where the request is, and is not one of the three that matter. -/
theorem Inv.setRun (h : Inv w s) (hrun : s.runs i = some run) (hnot : run.phase.isEnded = false)
    (hlive : phase.live = true → run.phase.live = true) (hclaim : ∀ start, phase ≠ .claiming start)
    (hreplay : ∀ response writer, phase ≠ .ended (.replayed response writer)) :
    Inv w (s.setRun i run phase) :=
  h.move hrun hnot s.holder (fun _ _ hj _ => hj) (fun hl => h.live i run hrun (hlive hl))
    (fun start heq => absurd heq (hclaim start))
    (fun response writer heq => absurd heq (hreplay response writer))

theorem unlock_holder (s : State) (slot : Slot) (i : Nat) :
    s.unlock slot i = { s with holder := (s.unlock slot i).holder } := by
  rw [State.unlock]
  split <;> rfl

theorem unlock_keeps (s : State) (slot : Slot) (i : Nat) :
    ∀ other j, s.holder other = some j → j ≠ i → (s.unlock slot i).holder other = some j := by
  intro other j hother hj
  rw [State.unlock]
  split
  · next hheld =>
    have hne : other ≠ slot := by
      rintro rfl
      exact hj (some.inj (hother.symm.trans hheld))
    show update s.holder slot none other = some j
    rw [update_of_ne hne, hother]
  · exact hother

/-- Taking a lock that is free takes none away. -/
theorem lock_keeps {slot : Slot} (hfree : ¬ (s.holder slot).isSome = true) :
    ∀ other j, s.holder other = some j → j ≠ i → (s.lock slot i).holder other = some j := by
  intro other j hother _
  have hne : other ≠ slot := by
    rintro rfl
    exact hfree (by rw [hother]; rfl)
  exact (update_of_ne hne ..).trans hother

/-- A request ends without having changed anything. -/
theorem Inv.drop (h : Inv w s) (hrun : s.runs i = some run) (hnot : run.phase.isEnded = false)
    {outcome : Outcome} (hreplay : ∀ response writer, outcome ≠ .replayed response writer) :
    Inv w ((s.unlock run.request.slot i).setRun i run (.ended outcome)) := by
  rw [unlock_holder]
  exact h.move hrun hnot _ (unlock_keeps s _ i) (fun hl => by cases hl) (fun _ heq => by cases heq)
    (fun response writer heq => absurd (Phase.ended.inj heq) (hreplay response writer))

/-- Nobody else has a part in the record of a run, and it has not been completed. -/
structure Sole (s : State) (i : Nat) (run : Run) : Prop where
  fresh : ∀ c ∈ s.completions, c.request.slot ≠ run.request.slot
  alone : ∀ j other, s.runs j = some other → j ≠ i → other.request.slot = run.request.slot →
    other.phase.live = false ∧ ∀ start, other.phase ≠ .claiming start

theorem Inv.sole_of_claiming (h : Inv w s) (hrun : s.runs i = some run)
    (hphase : run.phase = .claiming start) : Sole s i run := by
  obtain ⟨hheld, hrows⟩ := h.claiming i run start hrun hphase
  refine ⟨fun c hc hslot => ?_, fun j other hother hj hslot => ⟨?_, fun start' hclaiming => ?_⟩⟩
  · obtain ⟨row, hrow, hcompleted, -⟩ := h.stored c hc
    rw [hslot] at hrow
    exact (hrows row hrow).1 hcompleted
  · by_contra hlive
    rw [Bool.not_eq_false] at hlive
    obtain ⟨row, hrow, rfl, -⟩ := h.live j other hother hlive
    rw [hslot] at hrow
    obtain ⟨run', hrun', hended⟩ := (hrows row hrow).2
    obtain rfl := some.inj (hother.symm.trans hrun')
    rw [not_ended_of_live hlive] at hended
    cases hended
  · have hheld' := (h.claiming j other start' hother hclaiming).1
    rw [hslot, hheld] at hheld'
    exact hj (some.inj hheld').symm

theorem Inv.sole_of_live (h : Inv w s) (hrun : s.runs i = some run) (hlive : run.phase.live = true)
    (hfree : ¬ (s.holder run.request.slot).isSome = true) : Sole s i run := by
  obtain ⟨row, hrow, howner, hprocessing, -⟩ := h.live i run hrun hlive
  refine ⟨fun c hc hslot => ?_, fun j other hother hj hslot => ⟨?_, fun start hclaiming => ?_⟩⟩
  · obtain ⟨row', hrow', hcompleted, -⟩ := h.stored c hc
    rw [hslot, hrow] at hrow'
    cases hrow'
    rw [hprocessing] at hcompleted
    cases hcompleted
  · by_contra hotherLive
    rw [Bool.not_eq_false] at hotherLive
    obtain ⟨row', hrow', howner', -⟩ := h.live j other hother hotherLive
    rw [hslot, hrow] at hrow'
    cases hrow'
    exact hj (howner'.symm.trans howner)
  · have hheld := (h.claiming j other start hother hclaiming).1
    rw [hslot] at hheld
    exact hfree (by rw [hheld]; rfl)

/-- A run writes the record that is its own. -/
theorem Inv.write (h : Inv w s) (hrun : s.runs i = some run) (hnot : run.phase.isEnded = false)
    (hsole : Sole s i run) {holder : Slot → Option Nat} {completions : List Completion}
    (hholder : ∀ slot j, s.holder slot = some j → j ≠ i → holder slot = some j)
    (hlive : phase.live = true → row = claimed w run i row.updatedAt)
    (hclaim : ∀ start, phase ≠ .claiming start)
    (hreplay : ∀ response writer, phase ≠ .ended (.replayed response writer))
    (hfailed : row.status = .failed → row.owner = i ∧ phase.isEnded = true)
    (hcompleted : (row.status ≠ .completed ∧ completions = s.completions) ∨ ∃ response,
      completions = s.completions ++ [⟨i, run.request, response⟩] ∧
        row.Holds w ⟨i, run.request, response⟩) :
    Inv w ({ s with
      rows := update s.rows run.request.slot (some row)
      holder := holder
      completions := completions }.setRun i run phase) where
  live j other hother hotherLive := by
    rcases setRun_cases hother with ⟨rfl, rfl⟩ | ⟨hj, hother⟩
    · refine ⟨row, update_self .., ?_⟩
      rw [hlive hotherLive]
      exact ⟨rfl, rfl, rfl⟩
    · obtain ⟨row', hrow', hothers⟩ := h.live j other hother hotherLive
      refine ⟨row', ?_, hothers⟩
      have hslot : other.request.slot ≠ run.request.slot := fun hslot => by
        rw [(hsole.alone j other hother hj hslot).1] at hotherLive
        cases hotherLive
      exact (update_of_ne hslot ..).trans hrow'
  claiming j other start hother hclaiming := by
    rcases setRun_cases hother with ⟨rfl, rfl⟩ | ⟨hj, hother⟩
    · exact absurd hclaiming (hclaim start)
    · obtain ⟨hheld, hrows⟩ := h.claiming j other start hother hclaiming
      have hslot : other.request.slot ≠ run.request.slot := fun hslot =>
        (hsole.alone j other hother hj hslot).2 start hclaiming
      refine ⟨hholder _ _ hheld hj, fun row' hrow' => ?_⟩
      change update s.rows run.request.slot (some row) _ = some row' at hrow'
      rw [update_of_ne hslot] at hrow'
      exact ⟨(hrows row' hrow').1, (hrows row' hrow').2.setRun hrun hnot phase⟩
  failed slot row' hrow' hfailed' := by
    change update s.rows run.request.slot (some row) slot = some row' at hrow'
    by_cases hslot : slot = run.request.slot
    · subst hslot
      rw [update_self] at hrow'
      cases hrow'
      obtain ⟨rfl, hended⟩ := hfailed hfailed'
      exact ⟨_, setRun_self _, hended⟩
    · rw [update_of_ne hslot] at hrow'
      exact (h.failed slot row' hrow' hfailed').setRun hrun hnot phase
  completed slot row' hrow' hcompleted' := by
    change update s.rows run.request.slot (some row) slot = some row' at hrow'
    by_cases hslot : slot = run.request.slot
    · subst hslot
      rw [update_self] at hrow'
      cases hrow'
      rcases hcompleted with ⟨hnone, -⟩ | ⟨response, rfl, hholds⟩
      · exact absurd hcompleted' hnone
      · exact ⟨_, mem_append_right _ (mem_singleton_self _), rfl, hholds⟩
    · rw [update_of_ne hslot] at hrow'
      obtain ⟨c, hc, hrest⟩ := h.completed slot row' hrow' hcompleted'
      refine ⟨c, ?_, hrest⟩
      rcases hcompleted with ⟨-, rfl⟩ | ⟨response, rfl, -⟩
      · exact hc
      · exact mem_append_left _ hc
  stored c hc := by
    have hold : ∀ c ∈ s.completions, ∃ row', update s.rows run.request.slot (some row)
        c.request.slot = some row' ∧ row'.Holds w c := fun c hc => by
      obtain ⟨row', hrow', hholds⟩ := h.stored c hc
      exact ⟨row', (update_of_ne (hsole.fresh c hc) ..).trans hrow', hholds⟩
    rcases hcompleted with ⟨-, rfl⟩ | ⟨response, rfl, hholds⟩
    · exact hold c hc
    · rcases mem_append.mp hc with hc | hc
      · exact hold c hc
      · obtain rfl := mem_singleton.mp hc
        exact ⟨row, update_self .., hholds⟩
  known j other hother := by
    rcases setRun_cases hother with ⟨rfl, rfl⟩ | ⟨-, hother⟩
    · exact h.known j run hrun
    · exact h.known j other hother
  knownCompletions c hc := by
    rcases hcompleted with ⟨-, rfl⟩ | ⟨response, rfl, -⟩
    · exact h.knownCompletions c hc
    · rcases mem_append.mp hc with hc | hc
      · exact h.knownCompletions c hc
      · obtain rfl := mem_singleton.mp hc
        exact h.known i run hrun
  apart := h.apart
  replayed j request response writer hother := by
    rcases setRun_cases hother with ⟨rfl, heq⟩ | ⟨-, hother⟩
    · exact absurd (Run.mk.inj heq).2.symm (hreplay response writer)
    · have hc := h.replayed j request response writer hother
      rcases hcompleted with ⟨-, rfl⟩ | ⟨response', rfl, -⟩
      · exact hc
      · exact mem_append_left _ hc

theorem reclaim_of_verdict {now : Int} (h : verdict w row hash now = .reclaim) :
    row.status = .failed ∨ row.status = .processing := by
  rw [verdict] at h
  split at h
  · cases h
  · split at h
    · cases h
    · next hfailed => exact .inl hfailed
    · next hprocessing => exact .inr hprocessing

theorem replay_of_verdict {now : Int} (h : verdict w row hash now = .replay response) :
    row.requestHash = hash ∧ row.status = .completed ∧ response = row.responseBody.getD "null" := by
  rw [verdict] at h
  split at h
  · cases h
  · next hhash =>
    split at h
    · next hcompleted => exact ⟨not_not.mp hhash, hcompleted, (Verdict.replay.inj h).symm⟩
    · cases h
    · split at h <;> cases h

/-- The record is only reclaimed from a run that is over. -/
theorem Inv.reclaimed (h : Inv w s) {slot : Slot} (hrow : s.rows slot = some row)
    (hverdict : verdict w row hash s.now = .reclaim)
    (horderly : row.status = .processing → Over s row.owner) :
    row.status ≠ .completed ∧ Over s row.owner := by
  rcases reclaim_of_verdict hverdict with hstatus | hstatus
  · exact ⟨by rw [hstatus]; decide, h.failed slot row hrow hstatus⟩
  · exact ⟨by rw [hstatus]; decide, horderly hstatus⟩

/-- What a record answers a request with is the completion of that request. -/
theorem Inv.answer (h : Inv w s) (hrun : s.runs i = some run)
    (hrow : s.rows run.request.slot = some row)
    (hverdict : verdict w row (hashRequest w run.request) s.now = .replay response) :
    ⟨row.writer, run.request, response⟩ ∈ s.completions := by
  obtain ⟨hhash, hcompleted, rfl⟩ := replay_of_verdict hverdict
  obtain ⟨c, hc, hslot, -, hbody, hwriter, hrequest⟩ := h.completed _ row hrow hcompleted
  have hsame : c.request = run.request :=
    h.apart _ (h.knownCompletions c hc) _ (h.known i run hrun) hslot (hrequest.symm.trans hhash)
  rw [hbody, hwriter, ← hsame]
  exact hc

/-! ### Each action -/

section

variable (h : Inv w s)
include h

theorem Inv.found (hrun : s.runs i = some run) (hnot : run.phase.isEnded = false)
    (hrow : s.rows run.request.slot = some row)
    (hfree : ¬ (s.holder run.request.slot).isSome = true) (horderly : row.status = .processing →
      verdict w row (hashRequest w run.request) s.now = .reclaim → Over s row.owner) :
    Inv w (found w s i run start row) := by
  rw [Idempotency.found]
  split
  · exact h.setRun hrun hnot (fun hl => by cases hl) (fun _ heq => by cases heq)
      (fun _ _ heq => by cases heq)
  · next response hverdict =>
    refine h.move hrun hnot s.holder (fun _ _ hj _ => hj) (fun hl => by cases hl)
      (fun _ heq => by cases heq) (fun response' writer heq => ?_)
    obtain ⟨rfl, rfl⟩ := Outcome.replayed.inj (Phase.ended.inj heq)
    exact h.answer hrun hrow hverdict
  · exact h.setRun hrun hnot (fun hl => by cases hl) (fun _ heq => by cases heq)
      (fun _ _ heq => by cases heq)
  · next hverdict =>
    refine h.move hrun hnot _ (lock_keeps hfree) (fun hl => by cases hl) (fun _ _ => ?_)
      (fun _ _ heq => by cases heq)
    refine ⟨update_self .., fun row' hrow' => ?_⟩
    obtain rfl := some.inj (hrow.symm.trans hrow')
    exact h.reclaimed hrow hverdict (fun hprocessing => horderly hprocessing hverdict)

theorem Inv.commitClaim (hrun : s.runs i = some run)
    (hphase : run.phase = .claiming start) (ack : Ack) :
    Inv w (commitClaim w s i run start ack) := by
  have hnot : run.phase.isEnded = false := by rw [hphase]; rfl
  have hsole := h.sole_of_claiming hrun hphase
  have hwrite : ∀ phase : Phase, phase = .owner ∨ phase = .ended .errored →
      Inv w (((s.unlock run.request.slot i).setRow run.request.slot
        (claimed w run i start)).setRun i run phase) := by
    intro phase hcases
    rw [unlock_holder]
    refine h.write hrun hnot hsole (unlock_keeps s _ i) (fun _ => rfl) ?_ ?_
      (fun hfailed => by cases hfailed) (.inl ⟨nofun, rfl⟩)
    · rintro start' rfl
      rcases hcases with heq | heq <;> cases heq
    · rintro response writer rfl
      rcases hcases with heq | heq <;> cases heq
  cases ack with
  | ok => exact hwrite .owner (.inl rfl)
  | lost error => exact hwrite _ (.inr rfl)
  | refused error => exact h.drop hrun hnot nofun

theorem Inv.completeRecord (hrun : s.runs i = some run)
    (hlive : run.phase.live = true) (hfree : ¬ (s.holder run.request.slot).isSome = true)
    (hrow : s.rows run.request.slot = some row) (response : String) (ack : Ack) :
    Inv w (completeRecord s i run response row ack) := by
  have hnot := not_ended_of_live hlive
  have hends : ∀ response' writer, (if ack = .ok then Outcome.answered response else .errored) ≠
      .replayed response' writer := by
    intro response' writer heq
    split at heq <;> cases heq
  rw [Idempotency.completeRecord]
  split
  · obtain ⟨row', hrow', -, -, hhash⟩ := h.live i run hrun hlive
    obtain rfl := some.inj (hrow.symm.trans hrow')
    exact h.write hrun hnot (h.sole_of_live hrun hlive hfree) (fun _ _ hj _ => hj)
      (fun hl => by cases hl) (fun _ heq => by cases heq)
      (fun response' writer heq => hends response' writer (Phase.ended.inj heq))
      (fun hfailed => by cases hfailed) (.inr ⟨response, rfl, rfl, rfl, rfl, hhash⟩)
  · exact h.setRun hrun hnot (fun hl => by cases hl) (fun _ heq => by cases heq)
      (fun _ _ heq => by cases heq)

theorem Inv.failRecord (hrun : s.runs i = some run) (hlive : run.phase.live = true)
    (hfree : ¬ (s.holder run.request.slot).isSome = true)
    (hrow : s.rows run.request.slot = some row) (ack : Ack) :
    Inv w ((if ack.committed then s.setRow run.request.slot (row.fail s.now) else s).setRun i run
      (.ended .errored)) := by
  have hnot := not_ended_of_live hlive
  split
  · obtain ⟨row', hrow', howner, hprocessing, -⟩ := h.live i run hrun hlive
    obtain rfl := some.inj (hrow.symm.trans hrow')
    have hfail : row.fail s.now = { row with status := .failed, updatedAt := s.now } := by
      rw [Row.fail, if_pos hprocessing]
    rw [hfail]
    exact h.write hrun hnot (h.sole_of_live hrun hlive hfree) (fun _ _ hj _ => hj)
      (fun hl => by cases hl) (fun _ heq => by cases heq) (fun _ _ heq => by cases heq)
      (fun _ => ⟨howner, rfl⟩) (.inl ⟨nofun, rfl⟩)
  · exact h.setRun hrun hnot (fun hl => by cases hl) (fun _ heq => by cases heq)
      (fun _ _ heq => by cases heq)

theorem Inv.insert (hrun : s.runs i = some run) (hnot : run.phase.isEnded = false)
    (hnone : s.rows run.request.slot = none) (hfree : ¬ (s.holder run.request.slot).isSome = true) :
    Inv w ((s.lock run.request.slot i).setRun i run (.claiming start)) :=
  h.move hrun hnot _ (lock_keeps hfree) (fun hl => by cases hl)
    (fun _ _ => ⟨update_self .., fun row hrow => by rw [hnone] at hrow; cases hrow⟩)
    (fun _ _ heq => by cases heq)

/-- A request arrives under a run of its own, and does not hash like another one. -/
theorem Inv.arrive {request : Request} (hnew : s.runs i = none)
    (horderly : ∀ other ∈ s.requests, other.slot = request.slot →
      hashRequest w other = hashRequest w request → other = request) :
    Inv w ({ s with requests := s.requests ++ [request] }.setRun i ⟨request, .began s.now⟩
      (.began s.now)) := by
  have hover : ∀ j, Over s j → Over ({ s with requests := s.requests ++ [request] }.setRun i
      ⟨request, .began s.now⟩ (.began s.now)) j := by
    rintro j ⟨other, hother, hended⟩
    refine ⟨other, ?_, hended⟩
    have hj : j ≠ i := by
      rintro rfl
      rw [mem_def, hnew] at hother
      cases hother
    rw [setRun_ne hj]
    exact hother
  constructor
  case live =>
    intro j other hother hlive
    rcases setRun_cases hother with ⟨rfl, rfl⟩ | ⟨-, hother⟩
    · cases hlive
    · exact h.live j other hother hlive
  case claiming =>
    intro j other start hother hclaiming
    rcases setRun_cases hother with ⟨rfl, rfl⟩ | ⟨-, hother⟩
    · cases hclaiming
    · obtain ⟨hheld, hrows⟩ := h.claiming j other start hother hclaiming
      exact ⟨hheld, fun row hrow => ⟨(hrows row hrow).1, hover _ (hrows row hrow).2⟩⟩
  case failed =>
    intro slot row hrow hfailed
    exact hover _ (h.failed slot row hrow hfailed)
  case completed => exact h.completed
  case stored => exact h.stored
  case known =>
    intro j other hother
    rcases setRun_cases hother with ⟨rfl, rfl⟩ | ⟨-, hother⟩
    · exact mem_append_right _ (mem_singleton_self _)
    · exact mem_append_left _ (h.known j other hother)
  case knownCompletions =>
    intro c hc
    exact mem_append_left _ (h.knownCompletions c hc)
  case apart =>
    intro a ha b hb hslot hhash
    rcases mem_append.mp ha with olda | newa <;> rcases mem_append.mp hb with oldb | newb
    · exact h.apart a olda b oldb hslot hhash
    · obtain rfl := mem_singleton.mp newb
      exact horderly a olda hslot hhash
    · obtain rfl := mem_singleton.mp newa
      exact (horderly b oldb hslot.symm hhash.symm).symm
    · rw [mem_singleton.mp newa, mem_singleton.mp newb]
  case replayed =>
    intro j request' response writer hother
    rcases setRun_cases hother with ⟨rfl, heq⟩ | ⟨-, hother⟩
    · cases heq
    · exact h.replayed j request' response writer hother

end

/-- A request that is not over crashes. -/
theorem runStep_crash (h : runStep w s i run phase (.crash j) = some s') : phase.isEnded = false ∧
      s' = (s.unlock run.request.slot i).setRun i run (.ended .crashed) := by
  cases phase <;> first | exact ⟨rfl, (some.inj h).symm⟩ | cases h

/-- **What a request does keeps the invariant.** -/
theorem Inv.runStep (h : Inv w s) (hrun : s.runs i = some run)
    (horderly : (∃ j, a = .select j) → ∀ row ∈ s.rows run.request.slot, row.status = .processing →
      verdict w row (hashRequest w run.request) s.now = .reclaim → Over s row.owner)
    (hstep : runStep w s i run run.phase a = some s') : Inv w s' := by
  cases a with
  | tick _ | arrive _ _ => cases hphase : run.phase <;> (rw [hphase] at hstep; cases hstep)
  | crash j =>
    obtain ⟨hnot, rfl⟩ := runStep_crash hstep
    exact h.drop hrun hnot nofun
  | select j =>
    cases hphase : run.phase with
    | began start =>
      have hnot : run.phase.isEnded = false := by rw [hphase]; rfl
      rw [hphase, Idempotency.runStep] at hstep
      split at hstep
      · cases hstep
        exact h.setRun hrun hnot (fun hl => by cases hl) (fun _ heq => by cases heq)
          (fun _ _ heq => by cases heq)
      · next row hrow =>
        obtain ⟨hfree, rfl⟩ : ¬ (s.holder run.request.slot).isSome = true ∧
            Idempotency.found w s i run start row = s' := by
          split at hstep
          · cases hstep
          · next hfree => exact ⟨hfree, some.inj hstep⟩
        exact h.found hrun hnot hrow hfree (horderly ⟨j, rfl⟩ row hrow)
    | _ => rw [hphase] at hstep; cases hstep
  | insert j =>
    cases hphase : run.phase with
    | absent start =>
      have hnot : run.phase.isEnded = false := by rw [hphase]; rfl
      rw [hphase, Idempotency.runStep] at hstep
      split at hstep
      · cases hstep
        exact h.setRun hrun hnot (fun hl => by cases hl) (fun _ heq => by cases heq)
          (fun _ _ heq => by cases heq)
      · next hnone =>
        split at hstep
        · cases hstep
        · next hfree =>
          cases hstep
          exact h.insert hrun hnot (not_isSome_iff_eq_none.mp hnone) hfree
    | _ => rw [hphase] at hstep; cases hstep
  | commit j ack =>
    cases hphase : run.phase with
    | claiming start =>
      rw [hphase] at hstep
      cases hstep
      exact h.commitClaim hrun hphase ack
    | _ => rw [hphase] at hstep; cases hstep
  | handle j =>
    cases hphase : run.phase with
    | owner =>
      rw [hphase] at hstep
      cases hstep
      exact h.setRun hrun (by rw [hphase]; rfl) (fun _ => by rw [hphase]; rfl)
        (fun _ heq => by cases heq) (fun _ _ heq => by cases heq)
    | _ => rw [hphase] at hstep; cases hstep
  | succeed _ _ | throw _ =>
    cases hphase : run.phase with
    | running =>
      rw [hphase] at hstep
      cases hstep
      exact h.setRun hrun (by rw [hphase]; rfl) (fun _ => by rw [hphase]; rfl)
        (fun _ heq => by cases heq) (fun _ _ heq => by cases heq)
    | _ => rw [hphase] at hstep; cases hstep
  | complete j ack =>
    cases hphase : run.phase with
    | succeeded response =>
      have hlive : run.phase.live = true := by rw [hphase]; rfl
      rw [hphase, Idempotency.runStep] at hstep
      split at hstep
      · cases hstep
      · next hfree =>
        obtain ⟨row, hrow, rfl⟩ := map_eq_some_iff.mp hstep
        exact h.completeRecord hrun hlive hfree hrow response ack
    | _ => rw [hphase] at hstep; cases hstep
  | fail j ack =>
    cases hphase : run.phase with
    | threw =>
      have hlive : run.phase.live = true := by rw [hphase]; rfl
      rw [hphase, Idempotency.runStep] at hstep
      split at hstep
      · cases hstep
      · next hfree =>
        obtain ⟨row, hrow, rfl⟩ := map_eq_some_iff.mp hstep
        exact h.failRecord hrun hlive hfree hrow ack
    | _ => rw [hphase] at hstep; cases hstep

theorem Inv.tick (h : Inv w s) (ms : Nat) : Inv w { s with now := s.now + ms } :=
  ⟨h.live, h.claiming, h.failed, h.completed, h.stored, h.known, h.knownCompletions, h.apart,
    h.replayed⟩

/-- What a step of a request is: the step of the run the action names. -/
theorem step_request (h : ((s.runs j).bind fun run => runStep w s j run run.phase a) = some s') :
    ∃ run, s.runs j = some run ∧ runStep w s j run run.phase a = some s' :=
  bind_eq_some_iff.mp h

theorem inv_step (h : Inv w s) (horderly : Orderly w s a)
    (hstep : (idempotency w).step s a = some s') : Inv w s' := by
  change step w s a = some s' at hstep
  cases a with
  | tick ms =>
    cases hstep
    exact h.tick ms
  | arrive j request =>
    rw [step] at hstep
    split at hstep
    · cases hstep
    · next hnew =>
      cases hstep
      exact h.arrive (not_isSome_iff_eq_none.mp hnew) horderly
  | select j =>
    obtain ⟨run, hrun, hstep⟩ := step_request hstep
    exact h.runStep hrun (fun _ => horderly run hrun) hstep
  | _ =>
    obtain ⟨run, hrun, hstep⟩ := step_request hstep
    exact h.runStep hrun (fun ⟨_, heq⟩ => by cases heq) hstep

/-! ## At most once -/

theorem step_handle (hrun : s.runs i = some run) (hstep : step w s (.handle i) = some s') :
    run.phase.live = true := by
  obtain ⟨run', hrun', hstep⟩ := step_request hstep
  obtain rfl := some.inj (hrun.symm.trans hrun')
  cases hphase : run.phase with
  | owner => rfl
  | _ => rw [hphase] at hstep; cases hstep

/-- Only a live run writes. -/
theorem step_write {ack : Ack} (hrun : s.runs i = some run)
    (hstep : step w s (.complete i ack) = some s' ∨ step w s (.fail i ack) = some s') :
    run.phase.live = true := by
  rcases hstep with hstep | hstep
  all_goals
    obtain ⟨run', hrun', hstep⟩ := step_request hstep
    obtain rfl := some.inj (hrun.symm.trans hrun')
    cases hphase : run.phase with
    | succeeded _ | threw => rfl
    | _ => rw [hphase] at hstep; cases hstep

/-- A request that finds its own completion is answered with it. -/
theorem step_replay {c : Completion} (hrow : s.rows c.request.slot = some row)
    (hholds : row.Holds w c) (hrun : s.runs i = some ⟨c.request, .began start⟩)
    (hstep : step w s (.select i) = some s') :
    s'.runs i = some ⟨c.request, .ended (.replayed c.response c.run)⟩ := by
  obtain ⟨hcompleted, hbody, hwriter, hhash⟩ := hholds
  have hverdict : verdict w row (hashRequest w c.request) s.now = .replay c.response := by
    rw [verdict, if_neg (not_not.mpr hhash), hcompleted, hbody]
    rfl
  obtain ⟨run, hrun', hstep⟩ := step_request hstep
  obtain rfl := some.inj (hrun.symm.trans hrun')
  simp only [Idempotency.runStep, hrow] at hstep
  split at hstep
  · cases hstep
  · cases hstep
    simp only [Idempotency.found, hverdict, hwriter]
    exact setRun_self _

theorem Inv.atMostOnce (h : Inv w s) : AtMostOnce w s where
  once i run s' hrun hstep c hc hslot := by
    obtain ⟨row, hrow, -, hprocessing, -⟩ := h.live i run hrun (step_handle hrun hstep)
    obtain ⟨row', hrow', hcompleted, -⟩ := h.stored c hc
    rw [hslot, hrow] at hrow'
    cases hrow'
    rw [hprocessing] at hcompleted
    cases hcompleted
  repeated c hc i start s' hrun hstep := by
    obtain ⟨row, hrow, hholds⟩ := h.stored c hc
    exact step_replay hrow hholds hrun hstep
  own := h.replayed
  fenced i run row ack s' hrun hrow howner hstep := by
    obtain ⟨row', hrow', howner', -⟩ := h.live i run hrun (step_write hrun hstep)
    obtain rfl := some.inj (hrow.symm.trans hrow')
    exact absurd howner' howner

end Step

/-- **A key means at most once** in every run in which a record is reclaimed for its age only from a
run that is over, and requests for one record that hash alike are the same. -/
theorem at_most_once (w : Service) (as : List Action) (s : State)
    (horderly : (idempotency w).Along (Orderly w) init as)
    (hrun : (idempotency w).run init as = some s) : AtMostOnce w s :=
  ((idempotency w).invariant_along (fun _ _ _ hi hp hs => inv_step hi hp hs) (inv_init w)
    horderly hrun).atMostOnce

/-! ## Three runs -/

/-- A service whose hash is the text itself. -/
def plain : Service := ⟨id, none⟩

def post (url : String) : Request := ⟨.post, url, "[\"+256770000001\",\"hello\"]"⟩

/-- A request is claimed, crashes, is claimed again after a minute, and is repeated. -/
def retried : List Action :=
  [.arrive 0 (post "/api/v1/messages"), .select 0, .insert 0, .commit 0 .ok, .handle 0, .crash 0,
    .tick 60000, .arrive 1 (post "/api/v1/messages"), .select 1, .commit 1 .ok, .handle 1,
    .succeed 1 "sent", .complete 1 .ok, .arrive 2 (post "/api/v1/messages"), .select 2]

/-- A handler takes longer than a minute, so a repeat reclaims the record under it. -/
def slow : List Action :=
  [.arrive 0 (post "/api/v1/messages"), .select 0, .insert 0, .commit 0 .ok, .handle 0,
    .tick 60000, .arrive 1 (post "/api/v1/messages"), .select 1, .commit 1 .ok,
    .succeed 0 "sent", .complete 0 .ok]

/-- The same path is asked for with two query strings. -/
def queried : List Action :=
  [.arrive 0 (post "/api/v1/jobs?dryRun=true"), .select 0, .insert 0, .commit 0 .ok, .handle 0,
    .succeed 0 "planned", .complete 0 .ok, .arrive 1 (post "/api/v1/jobs?dryRun=false"), .select 1]

/-- What the three runs come to, evaluated together. -/
theorem runs_evaluated :
    ((idempotency plain).run init retried).any (fun s => decide (s.completions.length = 1)) = true ∧
    (idempotency plain).check (Orderly plain) init retried = true ∧
    ((idempotency plain).run init slow).any (fun s =>
      decide (∃ run ∈ s.runs 1, (step plain s (.handle 1)).isSome = true ∧
        ∃ c ∈ s.completions, c.request.slot = run.request.slot)) = true ∧
    ((idempotency plain).run init queried).any (fun s =>
      decide (s.runs 1 = some ⟨post "/api/v1/jobs?dryRun=false", .ended (.replayed "planned" 0)⟩ ∧
        ⟨0, post "/api/v1/jobs?dryRun=false", "planned"⟩ ∉ s.completions)) = true := by
  decide +kernel

theorem retried_at_most_once : ∃ s, (idempotency plain).run init retried = some s ∧
    AtMostOnce plain s := by
  obtain ⟨s, hs, -⟩ := (idempotency plain).exists_run _ runs_evaluated.1
  exact ⟨s, hs, at_most_once plain retried s
    ((idempotency plain).along_of_check _ runs_evaluated.2.1) hs⟩

/-- The handler that was overtaken completes the record of the repeat, and the repeat runs the
handler again. -/
theorem stale_owner_completes : ∃ s, (idempotency plain).run init slow = some s ∧
    ¬ AtMostOnce plain s := by
  obtain ⟨s, hs, hcheck⟩ := (idempotency plain).exists_run _ runs_evaluated.2.2.1
  obtain ⟨run, hrun, hstep, c, hc, hslot⟩ := of_decide_eq_true hcheck
  obtain ⟨s', hs'⟩ := isSome_iff_exists.mp hstep
  exact ⟨s, hs, fun h => h.once 1 run s' hrun hs' c hc hslot⟩

end Jkannel.Platform.Idempotency

