import Mathlib.Data.List.Sort
import Jkannel.Configuration.LastText
import Jkannel.Text

/-!
# Configuration versions

A version of the configuration is created as a draft, validated, approved and deployed; deploying
another version of its scope supersedes it.  Each transition reads the row, checks its status and
updates it by its id, in one transaction at READ COMMITTED, and a deployment writes the engine's
file before its transaction begins.

* `callStep` is what a request does, statement by statement; `step` is the machine of any number of
  requests on the versions of one tenant, with the calls of `deploy` inside it.
* `Moves` lists what a step can do, and every invariant is a case analysis of it.
* `Lifecycle` and `Kept` are what is asked: one deployed version a scope, approved and with the
  checksum of its content; the engine's file the text of the version deployed last while nobody
  deploys; and no way back from `deployed` or `superseded`.
* `Orderly` is the condition under which they hold, and `lifecycle` the result.
-/

namespace Jkannel.Configuration.Versions

open Option
open Files (Bytes)
open Transition (Ack)

/-! ## Contents -/

/-- A property of a content: a string, or the text of anything else. -/
inductive Value where
  | string (s : String)
  | other (json : String)
  deriving DecidableEq

/-- The own properties of an object, in their order. -/
abbrev Content := List (String × Value)

/-- What the service takes from outside. -/
structure Service where
  sha256 : String → String
  /-- What a jsonb column gives back for a value that is not a string. -/
  nested : String → String
  /-- The uuid of a row. -/
  uuid : Nat → String

def Value.text : Value → String
  | .string s => Text.jsonString s
  | .other json => json

/-- `JSON.stringify`. -/
def stringify (content : Content) : String :=
  "\x7b" ++ ",".intercalate (content.map fun p => Text.jsonString p.1 ++ ":" ++ p.2.text) ++ "\x7d"

/-- jsonb keeps its keys by length, and by their bytes where that is equal. -/
def keyLe (p q : String × Value) : Bool :=
  p.1.utf8ByteSize < q.1.utf8ByteSize ||
    (p.1.utf8ByteSize == q.1.utf8ByteSize && decide (p.1 ≤ q.1))

/-- What a jsonb column gives back for a content. -/
def jsonb (w : Service) (content : Content) : Content :=
  (content.insertionSort fun p q => keyLe p q = true).map fun p =>
    (p.1, match p.2 with
      | .string s => .string s
      | .other json => .other (w.nested json))

/-- `{ ...content, key: value }`. -/
def put (content : Content) (key : String) (value : Value) : Content :=
  if content.any fun p => p.1 == key then
    content.map fun p => if p.1 = key then (key, value) else p
  else content ++ [(key, value)]

/-- `content.rendered`, when it is a string. -/
def rendered (content : Content) : Option String :=
  match content.lookup "rendered" with
  | some (.string s) => some s
  | _ => none

/-- The UTF-8 of a text. -/
def bytes (text : String) : Bytes := text.toList.flatMap String.utf8EncodeChar

/-- The checksum stored with a version. -/
def checksum (w : Service) (content : Content) : String := w.sha256 (stringify content)

/-! ## Versions -/

inductive Status where
  | draft | validated | approved | deployed | superseded
  deriving DecidableEq

/-- A row of `configuration_versions`. -/
structure Version where
  scope : String
  number : Nat
  status : Status
  content : Content
  checksum : String
  approvedBy : Option String
  deployedBy : Option String

/-- Where a request is. -/
inductive Phase where
  /-- `createConfiguration`: its SELECTs are next, then the INSERT and the COMMIT. -/
  | create (scope : String) (content : Content)
  | insert (scope : String) (content : Content) (number : Nat)
  /-- `validateVersion`: the version is read and its text validated next. -/
  | validate (id : Nat)
  | validateSelect (id : Nat) (result : Value)
  | validateUpdate (id : Nat) (content : Content)
  /-- `markConfigurationApproved`: the SELECT is next, then the UPDATE. -/
  | approve (id : Nat)
  | approveUpdate (id : Nat)
  | rollback (id : Nat)
  /-- `deploy`: the version is read next. -/
  | deploy (id : Nat)
  /-- A call of `deploy` of the engine's file is in progress. -/
  | engine (id : Nat) (run : Nat)
  /-- `markConfigurationDeployed`: its SELECT is next. -/
  | mark (id : Nat) (run : Nat)
  /-- The UPDATE that supersedes is next; it works on what is deployed when it begins. -/
  | supersede (id : Nat) (run : Nat) (scope : String)
  /-- It locks one row after the other. -/
  | lock (id : Nat) (run : Nat) (scope : String) (todo done : List Nat)
  | ended (ok : Bool)

/-- A request at work. -/
structure Call where
  actor : String
  /-- The call is a rollback: the approval and the deployment of the new version follow. -/
  rolling : Bool
  phase : Phase

/-- The versions, the engine's file, the calls. -/
structure State where
  versions : List Version
  engine : Deployment.State
  calls : List Call
  /-- The call whose uncommitted UPDATE holds a row. -/
  locked : Nat → Option Nat
  /-- The version that was marked last, and which return of the engine it was marked for. -/
  latest : Option (Nat × Nat)

/-- What a request asks for. -/
inductive Request where
  | create (scope : String) (content : Content)
  | validate (id : Nat)
  | approve (id : Nat)
  | deploy (id : Nat)
  | rollback (id : Nat)

def Request.phase : Request → Phase
  | .create scope content => .create scope content
  | .validate id => .validate id
  | .approve id => .approve id
  | .deploy id => .deploy id
  | .rollback id => .rollback id

def Request.rolling : Request → Bool
  | .rollback _ => true
  | _ => false

/-- One statement of one call, or a crash. -/
inductive Action where
  | call (actor : String) (request : Request)
  /-- The version is read; where its text is validated, with the validator's result, if it accepts.
  -/
  | read (i : Nat) (result : Option Value)
  | select (i : Nat)
  | lockRow (i : Nat)
  | commit (i : Nat) (ack : Ack)
  /-- A statement fails, and the transaction with it. -/
  | fail (i : Nat)
  /-- A step of the deployments of the engine's file. -/
  | engine (a : Deployment.Action)
  /-- The call of `deploy` of the engine's file is over. -/
  | resume (i : Nat)

def State.setCall (s : State) (i : Nat) (call : Call) (phase : Phase) : State :=
  { s with calls := s.calls.set i { call with phase := phase } }

/-- Update the rows. -/
def State.update (s : State) (f : Nat → Version → Version) : State :=
  { s with versions := s.versions.mapIdx f }

/-- Give up every row a call holds. -/
def State.unlock (s : State) (i : Nat) : State :=
  { s with locked := fun id => if s.locked id = some i then none else s.locked id }

/-- The call ends with an error. -/
def State.throw (s : State) (i : Nat) (call : Call) : State :=
  (s.unlock i).setCall i call (.ended false)

/-- The call is at the end of a method: it goes on if it is a rollback and saw no error. -/
def Call.after (call : Call) (next : Phase) : Ack → Phase
  | .ok => if call.rolling then next else .ended true
  | _ => .ended false

/-- Which return of the engine's deployments a call is for. -/
def ticket (s : State) (run : Nat) : Nat :=
  match s.engine.runs[run]?.map Deployment.Run.phase with
  | some (.ended (.returned n)) => n
  | _ => 0

/-- The row of a new version, as it is stored. -/
def newVersion (w : Service) (scope : String) (content : Content) (number : Nat) : Version :=
  ⟨scope, number, .draft, jsonb w content, checksum w content, none, none⟩

/-- The unique indexes refuse a number or a checksum that the scope has. -/
def clashes (w : Service) (s : State) (scope : String) (content : Content) (number : Nat) : Bool :=
  s.versions.any fun v => v.scope == scope &&
    (v.number == number || v.checksum == checksum w content)

/-- The ids of the versions of a scope that are deployed. -/
def deployedIn (s : State) (scope : String) : List Nat :=
  (List.range s.versions.length).filter fun id => s.versions[id]?.any fun v =>
    v.scope == scope && v.status == .deployed

/-- `COALESCE(max(version_number), 0) + 1`. -/
def nextNumber (s : State) (scope : String) : Nat :=
  (s.versions.filter fun v => v.scope == scope).foldl (fun n v => max n v.number) 0 + 1

def validatedRow (id : Nat) (content : Content) (k : Nat) (v : Version) : Version :=
  if k = id then { v with status := .validated, content := content } else v

def approvedRow (id : Nat) (actor : String) (k : Nat) (v : Version) : Version :=
  if k = id then { v with status := .approved, approvedBy := some actor } else v

/-- The two UPDATEs of `markConfigurationDeployed`. -/
def deployedRow (id : Nat) (done : List Nat) (actor : String) (k : Nat) (v : Version) : Version :=
  if k = id then { v with status := .deployed, deployedBy := some actor }
  else if k ∈ done then { v with status := .superseded } else v

/-- Whether a row is held by another call. -/
def held (s : State) (i id : Nat) : Bool := (s.locked id).any fun j => j != i

/-- The next row that the UPDATE found deployed: it is locked, if it still is. -/
def lockNext (s : State) (i : Nat) (call : Call) (id run : Nat) (scope : String)
    (done : List Nat) : List Nat → Option State
  | [] => none
  | k :: todo =>
    if held s i k then none
    else if (s.versions[k]?.map Version.status) = some .deployed then
      some ({ s with locked := Function.update s.locked k (some i) }.setCall i call
        (.lock id run scope todo (done ++ [k])))
    else some (s.setCall i call (.lock id run scope todo done))

/-- The statements of a request. -/
@[grind =] def callStep (w : Service) (s : State) (i : Nat) (call : Call) : Phase → Action → Option State
  | .create scope content, .select _ =>
    some (s.setCall i call (.insert scope content (nextNumber s scope)))
  | .insert scope content number, .commit _ ack =>
    if clashes w s scope content number || !ack.committed then some (s.throw i call)
    else some ({ s with versions := s.versions ++ [newVersion w scope content number] }.setCall i
      call (call.after (.approve s.versions.length) ack))
  | .validate id, .read _ result =>
    match s.versions[id]?.bind fun v => rendered v.content with
    | some _ => match result with
      | some result => some (s.setCall i call (.validateSelect id result))
      | none => some (s.throw i call)
    | none => some (s.throw i call)
  | .validateSelect id result, .select _ =>
    match s.versions[id]? with
    | some v => if v.status = .draft ∨ v.status = .validated then
        some (s.setCall i call
          (.validateUpdate id (jsonb w (put v.content "nativeValidation" result))))
      else some (s.throw i call)
    | none => some (s.throw i call)
  | .validateUpdate id content, .commit _ ack =>
    if held s i id then none
    else if ack.committed then some ((s.update (validatedRow id content)).setCall i call
      (.ended (decide (ack = Ack.ok))))
    else some (s.throw i call)
  | .approve id, .select _ =>
    match s.versions[id]? with
    | some v => if v.status = .draft ∨ v.status = .validated ∨ v.status = .approved then
        some (s.setCall i call (.approveUpdate id))
      else some (s.throw i call)
    | none => some (s.throw i call)
  | .approveUpdate id, .commit _ ack =>
    if held s i id then none
    else if ack.committed then some ((s.update (approvedRow id call.actor)).setCall i call
      (call.after (.deploy id) ack))
    else some (s.throw i call)
  | .rollback id, .read _ result =>
    match s.versions[id]? with
    | some v => if (rendered v.content).isSome ∧ result.isSome then
        some (s.setCall i call
          (.create v.scope (put v.content "rollbackOf" (.string (w.uuid id)))))
      else some (s.throw i call)
    | none => some (s.throw i call)
  | .deploy id, .read _ _ =>
    match s.versions[id]? with
    | some v => match v.status, rendered v.content with
      | .approved, some text => some ({ s with engine := s.engine.call (bytes text) }.setCall i call
          (.engine id s.engine.runs.length))
      | _, _ => some (s.throw i call)
    | none => some (s.throw i call)
  | .engine id run, .resume _ =>
    match s.engine.runs[run]?.map Deployment.Run.phase with
    | some (.ended (.returned _)) => some (s.setCall i call (.mark id run))
    | some (.ended _) => some (s.throw i call)
    | _ => none
  | .mark id run, .select _ =>
    match s.versions[id]? with
    | some v => if v.status = .approved then some (s.setCall i call (.supersede id run v.scope))
      else some (s.throw i call)
    | none => some (s.throw i call)
  | .supersede id run scope, .select _ =>
    some (s.setCall i call (.lock id run scope (deployedIn s scope) []))
  | .lock id run scope todo done, .lockRow _ => lockNext s i call id run scope done todo
  | .lock id run _ todo done, .commit _ ack =>
    if !todo.isEmpty || held s i id then none
    else if ack.committed then
      some ({ (s.update (deployedRow id done call.actor)).unlock i with
        latest := some (id, ticket s run) }.setCall i call (.ended (decide (ack = Ack.ok))))
    else some (s.throw i call)
  | .ended _, .fail _ | .engine _ _, .fail _ => none
  | _, .fail _ => some (s.throw i call)
  | _, _ => none

/-- One statement of one call. -/
def step (w : Service) (s : State) (a : Action) : Option State :=
  match a with
  | .call actor request => some { s with
      calls := s.calls ++ [⟨actor, request.rolling, request.phase⟩] }
  -- a call of `deploy` only begins by a request
  | .engine (.call _) => none
  | .engine a => (Deployment.step s.engine a).map fun engine => { s with engine := engine }
  | .read i _ | .select i | .lockRow i | .commit i _ | .fail i | .resume i =>
    s.calls[i]?.bind fun call => callStep w s i call call.phase a

/-- The machine. -/
def versions (w : Service) : Transition.System State Action := ⟨step w⟩

/-- No version, and an engine's file that is absent or present. -/
def init (target temporary : Option Bytes) : State :=
  ⟨[], Deployment.init target temporary, [], fun _ => none, none⟩

/-! ## The lifecycle -/

/-- The deployment a call has in flight: its version, and its call of `deploy`. -/
def Phase.deploying : Phase → Option (Nat × Nat)
  | .engine id run | .mark id run | .supersede id run _ | .lock id run _ _ _ => some (id, run)
  | _ => none

/-- **The lifecycle of the versions of a tenant.** -/
structure Lifecycle (w : Service) (s : State) : Prop where
  /-- At most one version of a scope is deployed. -/
  one : ∀ (i j : Nat) (a b : Version), s.versions[i]? = some a → s.versions[j]? = some b →
    a.status = .deployed → b.status = .deployed → a.scope = b.scope → i = j
  approved : ∀ v ∈ s.versions, v.status = .deployed → v.approvedBy.isSome = true
  hashed : ∀ v ∈ s.versions, v.checksum = checksum w v.content
  /-- While nobody deploys, the engine has the text of the version that was deployed last. -/
  file : (∀ call ∈ s.calls, call.phase.deploying = none) → ∀ id n, s.latest = some (id, n) →
    ∃ v text, s.versions[id]? = some v ∧ rendered v.content = some text ∧
      s.engine.disk.file .target = some (bytes text)

/-- Deployed, or superseded since. -/
def Status.final : Status → Bool
  | .deployed | .superseded => true
  | _ => false

/-- There is no way back. -/
def Kept (s s' : State) : Prop :=
  ∀ (id : Nat) (v : Version), s.versions[id]? = some v → v.status.final = true →
    ∃ v', s'.versions[id]? = some v' ∧ v'.status.final = true

/-! ## The condition -/

/-- The text a call has put in place has been replaced by that of a later one. -/
def Replaced (s : State) (run : Nat) : Prop := ticket s run < s.engine.returned

/-- What the transaction that a call commits is asked for. -/
def OrderlyCommit (w : Service) (s : State) (committed : Bool) : Phase → Prop
  -- the content is stored as it is hashed
  | .insert _ content _ => jsonb w content = content
  -- the validation leaves the content as it is, and finds the version where it was
  | .validateUpdate id content => ∀ v ∈ s.versions[id]?,
      content = v.content ∧ v.status.final = false
  | .approveUpdate id => ∀ v ∈ s.versions[id]?, v.status.final = false
  | .lock id run _ _ done =>
    if committed = true then
      -- no other version of the scope has been deployed since the UPDATE looked
      (∀ v ∈ s.versions[id]?, ∀ k ∈ deployedIn s v.scope, k = id ∨ k ∈ done) ∧
        -- nor has the version of a text that replaced this one's
        ∀ l ∈ s.latest, l.2 < ticket s run
    else Replaced s run
  | _ => True

/-- A deployment whose text is in place does not end without its version being marked. -/
def OrderlyEnd (s : State) : Phase → Prop
  | .mark _ run | .supersede _ run _ | .lock _ run _ _ _ => Replaced s run
  | _ => True

/-- Nor does it find its version in another status. -/
def OrderlySelect (s : State) : Phase → Prop
  | .mark id run => (∀ v ∈ s.versions[id]?, v.status ≠ .approved) → Replaced s run
  | _ => True

/-- What a step is asked for. -/
def Orderly (w : Service) (s : State) : Action → Prop
  | .commit i ack => ∀ call ∈ s.calls[i]?, OrderlyCommit w s ack.committed call.phase
  | .fail i => ∀ call ∈ s.calls[i]?, OrderlyEnd s call.phase
  | .select i => ∀ call ∈ s.calls[i]?, OrderlySelect s call.phase
  | .engine a => Deployment.Serial s.engine a
  | _ => True

instance (s : State) (run : Nat) : Decidable (Replaced s run) :=
  inferInstanceAs (Decidable (_ < _))

instance (w : Service) (s : State) (committed : Bool) (phase : Phase) :
    Decidable (OrderlyCommit w s committed phase) := by
  unfold OrderlyCommit
  split <;> infer_instance

instance (s : State) (phase : Phase) : Decidable (OrderlyEnd s phase) := by
  unfold OrderlyEnd
  split <;> infer_instance

instance (s : State) (phase : Phase) : Decidable (OrderlySelect s phase) := by
  unfold OrderlySelect
  split <;> infer_instance

instance (w : Service) (s : State) (a : Action) : Decidable (Orderly w s a) := by
  unfold Orderly
  split <;> infer_instance

/-! ## What a step does -/

/-- The text of the deployment is in place, and its version is to be marked. -/
def Phase.marking : Phase → Bool
  | .mark _ _ | .supersede _ _ _ | .lock _ _ _ _ _ => true
  | _ => false

/-- The version has been found approved. -/
def Phase.seen : Phase → Bool
  | .supersede _ _ _ | .lock _ _ _ _ _ => true
  | _ => false

/-- The call of `deploy` is over, by returning or not. -/
def EngineEnded (s : State) (run : Nat) (returned : Bool) : Prop :=
  ∃ r outcome, s.engine.runs[run]? = some r ∧ r.phase = .ended outcome ∧
    (returned = true ↔ ∃ n, outcome = .returned n)

/-- The steps there are: nothing but where the call is, a call that ends with an error, and the
transactions that are committed. -/
inductive Moves (w : Service) (s : State) : Action → State → Prop where
  | call (actor : String) (request : Request) : Moves w s (.call actor request)
      { s with calls := s.calls ++ [⟨actor, request.rolling, request.phase⟩] }
  | advance {a : Action} {i : Nat} {call : Call} {phase : Phase} (locked : Nat → Option Nat)
    (hcall : s.calls[i]? = some call) (hdeploying : phase.deploying = call.phase.deploying)
    (hengine : ∀ id run, phase ≠ .engine id run)
    (hmarking : ∀ id run, call.phase = .engine id run → EngineEnded s run true)
    (hseen : ∀ id run, phase.deploying = some (id, run) → phase.seen = true →
      call.phase.seen = true ∨ ∃ v, s.versions[id]? = some v ∧ v.status = .approved) :
    Moves w s a ({ s with locked := locked }.setCall i call phase)
  | throw {a : Action} {i : Nat} {call : Call} (hcall : s.calls[i]? = some call)
    (hend : Orderly w s a → OrderlyEnd s call.phase)
    (hengine : ∀ id run, call.phase = .engine id run → EngineEnded s run false) :
    Moves w s a (s.throw i call)
  | begin {i id : Nat} {call : Call} {result : Option Value} {v : Version} {text : String}
    (hcall : s.calls[i]? = some call) (hphase : call.phase = .deploy id)
    (hv : s.versions[id]? = some v) (htext : rendered v.content = some text) :
    Moves w s (.read i result) ({ s with engine := s.engine.call (bytes text) }.setCall i call
      (.engine id s.engine.runs.length))
  | insert {i number : Nat} {call : Call} {ack : Ack} {scope : String} {content : Content}
    (hcall : s.calls[i]? = some call) (hphase : call.phase = .insert scope content number) :
    Moves w s (.commit i ack)
      ({ s with versions := s.versions ++ [newVersion w scope content number] }.setCall i call
        (call.after (.approve s.versions.length) ack))
  | validated {i id : Nat} {call : Call} {ack : Ack} {content : Content}
    (hcall : s.calls[i]? = some call) (hphase : call.phase = .validateUpdate id content) :
    Moves w s (.commit i ack) ((s.update (validatedRow id content)).setCall i call
      (.ended (decide (ack = Ack.ok))))
  | approved {i id : Nat} {call : Call} {ack : Ack} (hcall : s.calls[i]? = some call)
    (hphase : call.phase = .approveUpdate id) :
    Moves w s (.commit i ack) ((s.update (approvedRow id call.actor)).setCall i call
      (call.after (.deploy id) ack))
  | marked {i id run : Nat} {call : Call} {ack : Ack} {scope : String} {todo done : List Nat}
    (hcall : s.calls[i]? = some call) (hphase : call.phase = .lock id run scope todo done)
    (hack : ack.committed = true) :
    Moves w s (.commit i ack) ({ (s.update (deployedRow id done call.actor)).unlock i with
        latest := some (id, ticket s run) }.setCall i call (.ended (decide (ack = Ack.ok))))
  | engine {a : Deployment.Action} {engine : Deployment.State} (hnew : ∀ content, a ≠ .call content)
    (hstep : Deployment.deployment.step s.engine a = some engine) :
    Moves w s (.engine a) { s with engine := engine }

section Inversion

variable {w : Service} {s s' : State} {i : Nat} {call : Call}

variable {a : Action}

/-- A call that is not deploying ends with an error. -/
theorem moves_throw (hcall : s.calls[i]? = some call) (hphase : call.phase.deploying = none) :
    Moves w s a (s.throw i call) := by
  refine .throw hcall (fun _ => ?_) fun id run heq => ?_
  · cases hp : call.phase with
    | mark | supersede | lock => rw [hp] at hphase; cases hphase
    | _ => trivial
  · rw [heq] at hphase
    cases hphase

/-- A call that is not deploying moves on, and does not begin to deploy. -/
theorem moves_advance {phase : Phase} (hcall : s.calls[i]? = some call)
    (hphase : call.phase.deploying = none) (hnext : phase.deploying = none) :
    Moves w s a (s.setCall i call phase) := by
  refine .advance s.locked hcall (hnext.trans hphase.symm) (fun id run heq => ?_)
    (fun id run heq => ?_) fun id run hd => ?_
  · rw [heq] at hnext
    cases hnext
  · rw [heq] at hphase
    cases hphase
  · rw [hnext] at hd
    cases hd

/-- A call that has put its text in place moves on. -/
theorem moves_marking {phase : Phase} (locked : Nat → Option Nat) (hcall : s.calls[i]? = some call)
    (hphase : call.phase.marking = true) (hdeploying : phase.deploying = call.phase.deploying)
    (hengine : ∀ id run, phase ≠ .engine id run)
    (hseen : call.phase.seen = true ∨ ∀ id run, phase.deploying = some (id, run) →
      ∃ v, s.versions[id]? = some v ∧ v.status = .approved) :
    Moves w s a ({ s with locked := locked }.setCall i call phase) := by
  refine .advance locked hcall hdeploying hengine (fun id run heq => ?_) fun id run hd _ => ?_
  · rw [heq] at hphase
    cases hphase
  · rcases hseen with hseen | hseen
    · exact .inl hseen
    · exact .inr (hseen id run hd)

section

variable (hcall : s.calls[i]? = some call)
include hcall

theorem moves_read {result : Option Value}
    (hstep : callStep w s i call call.phase (.read i result) = some s') :
    Moves w s (.read i result) s' := by
  cases hphase : call.phase with
  | validate id | rollback id =>
    simp only [hphase, callStep] at hstep
    split at hstep
    · split at hstep
      · cases hstep
        exact moves_advance hcall (by rw [hphase]; rfl) rfl
      · cases hstep
        exact moves_throw hcall (by rw [hphase]; rfl)
    · cases hstep
      exact moves_throw hcall (by rw [hphase]; rfl)
  | deploy id =>
    rw [hphase, callStep] at hstep
    split at hstep
    · next v hv =>
      split at hstep
      · next text _ htext =>
        cases hstep
        exact .begin hcall hphase hv htext
      · cases hstep
        exact moves_throw hcall (by rw [hphase]; rfl)
    · cases hstep
      exact moves_throw hcall (by rw [hphase]; rfl)
  | _ => rw [hphase] at hstep; cases hstep

theorem moves_select
    (hstep : callStep w s i call call.phase (.select i) = some s') : Moves w s (.select i) s' := by
  cases hphase : call.phase with
  | create scope content =>
    rw [hphase] at hstep
    cases hstep
    exact moves_advance hcall (by rw [hphase]; rfl) rfl
  | validateSelect id result | approve id =>
    rw [hphase, callStep] at hstep
    split at hstep
    · split at hstep
      · cases hstep
        exact moves_advance hcall (by rw [hphase]; rfl) rfl
      · cases hstep
        exact moves_throw hcall (by rw [hphase]; rfl)
    · cases hstep
      exact moves_throw hcall (by rw [hphase]; rfl)
  | mark id run =>
    have hthrow : (∀ v ∈ s.versions[id]?, v.status ≠ .approved) →
        Moves w s (.select i) (s.throw i call) := by
      intro hnot
      refine .throw hcall (fun horderly => ?_) fun _ _ heq => by rw [hphase] at heq; cases heq
      have hselect := horderly call hcall
      rw [hphase] at hselect ⊢
      exact hselect hnot
    rw [hphase, callStep] at hstep
    split at hstep
    · next v hv =>
      split at hstep
      · next happroved =>
        cases hstep
        refine moves_marking s.locked hcall (by rw [hphase]; rfl) (by rw [hphase]; rfl) nofun
          (.inr fun id' run' hd => ?_)
        obtain ⟨rfl, rfl⟩ := Prod.mk.inj (some.inj hd)
        exact ⟨v, hv, happroved⟩
      · next hnot =>
        cases hstep
        refine hthrow fun v' hv' => ?_
        obtain rfl := some.inj (hv.symm.trans hv')
        exact hnot
    · next hnone =>
      cases hstep
      exact hthrow fun v hv => by cases hnone.symm.trans hv
  | supersede id run scope =>
    rw [hphase] at hstep
    cases hstep
    exact moves_marking s.locked hcall (by rw [hphase]; rfl) (by rw [hphase]; rfl) nofun
      (.inl (by rw [hphase]; rfl))
  | _ => rw [hphase] at hstep; cases hstep

theorem moves_lockRow (hstep : callStep w s i call call.phase (.lockRow i) = some s') :
    Moves w s (.lockRow i) s' := by
  cases hphase : call.phase with
  | lock id run scope todo done =>
    rw [hphase, callStep] at hstep
    cases todo with
    | nil => cases hstep
    | cons k todo =>
      rw [lockNext] at hstep
      split at hstep
      · cases hstep
      · split at hstep
        · cases hstep
          exact moves_marking _ hcall (by rw [hphase]; rfl) (by rw [hphase]; rfl) nofun
            (.inl (by rw [hphase]; rfl))
        · cases hstep
          exact moves_marking s.locked hcall (by rw [hphase]; rfl) (by rw [hphase]; rfl) nofun
            (.inl (by rw [hphase]; rfl))
  | _ => rw [hphase] at hstep; cases hstep

theorem moves_commit {ack : Ack}
    (hstep : callStep w s i call call.phase (.commit i ack) = some s') :
    Moves w s (.commit i ack) s' := by
  cases hphase : call.phase with
  | insert scope content number =>
    rw [hphase, callStep] at hstep
    split at hstep
    · cases hstep
      exact moves_throw hcall (by rw [hphase]; rfl)
    · cases hstep
      exact .insert hcall hphase
  | validateUpdate id content =>
    rw [hphase, callStep] at hstep
    split at hstep
    · cases hstep
    · split at hstep
      · cases hstep
        exact .validated hcall hphase
      · cases hstep
        exact moves_throw hcall (by rw [hphase]; rfl)
  | approveUpdate id =>
    rw [hphase, callStep] at hstep
    split at hstep
    · cases hstep
    · split at hstep
      · cases hstep
        exact .approved hcall hphase
      · cases hstep
        exact moves_throw hcall (by rw [hphase]; rfl)
  | lock id run scope todo done =>
    rw [hphase, callStep] at hstep
    split at hstep
    · cases hstep
    · split at hstep
      · next hack =>
        cases hstep
        exact .marked hcall hphase hack
      · next hack =>
        cases hstep
        refine .throw hcall (fun horderly => ?_) fun _ _ heq => by rw [hphase] at heq; cases heq
        have hcommit := horderly call hcall
        rw [hphase, OrderlyCommit, if_neg hack] at hcommit
        rw [hphase]
        exact hcommit
  | _ => rw [hphase] at hstep; cases hstep

theorem moves_fail
    (hstep : callStep w s i call call.phase (.fail i) = some s') : Moves w s (.fail i) s' := by
  cases hphase : call.phase with
  | ended _ | engine _ _ => rw [hphase] at hstep; cases hstep
  | _ =>
    rw [hphase] at hstep
    cases hstep
    exact .throw hcall (fun horderly => horderly call hcall)
      fun _ _ heq => by rw [hphase] at heq; cases heq

theorem moves_resume
    (hstep : callStep w s i call call.phase (.resume i) = some s') : Moves w s (.resume i) s' := by
  cases hphase : call.phase with
  | engine id run =>
    have hended : ∀ {outcome : Deployment.Outcome},
        s.engine.runs[run]?.map Deployment.Run.phase = some (.ended outcome) →
        ∃ r, s.engine.runs[run]? = some r ∧ r.phase = .ended outcome := by
      intro outcome h
      exact map_eq_some_iff.mp h
    rw [hphase, callStep] at hstep
    split at hstep
    · next n hn =>
      cases hstep
      obtain ⟨r, hr, houtcome⟩ := hended hn
      refine .advance s.locked hcall (by rw [hphase]; rfl) nofun (fun id' run' heq => ?_)
        fun _ _ _ hseen => by cases hseen
      rw [hphase] at heq
      obtain ⟨rfl, rfl⟩ := Phase.engine.inj heq
      exact ⟨r, _, hr, houtcome, fun _ => ⟨n, rfl⟩, fun _ => rfl⟩
    · next outcome hnot ho =>
      cases hstep
      obtain ⟨r, hr, houtcome⟩ := hended ho
      refine .throw hcall (fun _ => by rw [hphase]; trivial) fun id' run' heq => ?_
      rw [hphase] at heq
      obtain ⟨rfl, rfl⟩ := Phase.engine.inj heq
      exact ⟨r, _, hr, houtcome, ⟨fun h => (by cases h), fun ⟨n, heq⟩ => absurd heq (hnot n)⟩⟩
    · cases hstep
  | _ => rw [hphase] at hstep; cases hstep

end

/-- **What a step does.** -/
theorem moves_of_step (hstep : (versions w).step s a = some s') : Moves w s a s' := by
  cases a with
  | call actor request =>
    cases hstep
    exact .call actor request
  | engine a =>
    cases a with
    | call content => cases hstep
    | _ =>
      obtain ⟨engine, hengine, rfl⟩ := map_eq_some_iff.mp hstep
      exact .engine nofun hengine
  | read i result =>
    obtain ⟨call, hcall, hstep⟩ := bind_eq_some_iff.mp hstep
    exact moves_read hcall hstep
  | select i =>
    obtain ⟨call, hcall, hstep⟩ := bind_eq_some_iff.mp hstep
    exact moves_select hcall hstep
  | lockRow i =>
    obtain ⟨call, hcall, hstep⟩ := bind_eq_some_iff.mp hstep
    exact moves_lockRow hcall hstep
  | commit i ack =>
    obtain ⟨call, hcall, hstep⟩ := bind_eq_some_iff.mp hstep
    exact moves_commit hcall hstep
  | fail i =>
    obtain ⟨call, hcall, hstep⟩ := bind_eq_some_iff.mp hstep
    exact moves_fail hcall hstep
  | resume i =>
    obtain ⟨call, hcall, hstep⟩ := bind_eq_some_iff.mp hstep
    exact moves_resume hcall hstep

end Inversion

end Jkannel.Configuration.Versions
