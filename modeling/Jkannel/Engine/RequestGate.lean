import Jkannel.Lib.Transition
import Mathlib.Algebra.GroupWithZero.Nat

/-!
# The gate in front of the engine's admin port

After a number of consecutive failures the engine is left alone for a while, and for longer after
each further failure.  `check` says whether a request may be issued; the two methods of the adapter
check, issue their request when they may, and record how it ended.

* `Gate` with `check`, `recordSuccess` and `recordFailure` is the class of the source, and
  `outcomes` what each of the two methods records for each answer of the engine.
* `gate` is the system: any number of callers, whose requests overlap and end in any order.
* `Kept` is the promise: one probe for each window, one outcome for each request, and windows that
  double up to a ceiling.
* `gate_kept_iff` says for which runs it is kept throughout.  `check` reserves nothing, so two
  callers that come after the window has expired are both let through; and one path of
  `queueSnapshot` returns before anything is recorded.
-/

namespace Jkannel.Engine.RequestGate

open Transition

/-! ## The gate -/

def DEFAULT_FAILURE_THRESHOLD : Nat := 3

def DEFAULT_BASE_MS : Nat := 5000

def DEFAULT_MAX_MS : Nat := 300000

inductive OutageKind where
  | unreachable
  | credentials
  | unknown

/-- What the gate says of a request. -/
structure GateDecision where
  allowed : Bool
  detail : Option String

/-- What the gate is set up with. -/
structure GateOptions where
  threshold : Option Nat
  baseMs : Option Nat
  maxMs : Option Nat

/-- The values the constructor fixes. -/
structure Limits where
  threshold : Nat
  baseMs : Nat
  maxMs : Nat
  baseMs_pos : 0 < baseMs

def GateOptions.limits (options : GateOptions) : Limits where
  threshold := max 1 (options.threshold.getD DEFAULT_FAILURE_THRESHOLD)
  baseMs := max 1 (options.baseMs.getD DEFAULT_BASE_MS)
  maxMs := max (max 1 (options.baseMs.getD DEFAULT_BASE_MS)) (options.maxMs.getD DEFAULT_MAX_MS)
  baseMs_pos := Nat.lt_of_lt_of_le Nat.zero_lt_one (Nat.le_max_left ..)

/-- What a failure with this health means. -/
def classifyOutage (healthReachable : Option Bool) : OutageKind :=
  match healthReachable with
  | none => .unknown
  | some true => .credentials
  | some false => .unreachable

/-- `KamexRequestGate`'s fields. -/
structure Gate where
  consecutiveFailures : Nat
  suppressedUntil : Nat
  lastDetail : Option String
  lastKind : OutageKind

/-- The gate before any failure. -/
def Gate.fresh : Gate := ⟨0, 0, none, .unknown⟩

/-- Whether to issue a request now. -/
def check (l : Limits) (now : Nat) (g : Gate) : GateDecision :=
  if g.consecutiveFailures < l.threshold then ⟨true, none⟩
  else if g.suppressedUntil ≤ now then ⟨true, none⟩
  else
    let remaining := g.suppressedUntil - now
    let lastDetail := g.lastDetail.getD "unknown"
    ⟨false, some (s!"Kamex requests suppressed after {g.consecutiveFailures} consecutive " ++
      s!"failures (retrying in {(remaining + 999) / 1000}s). Last error: {lastDetail}")⟩

/-- The gate after a success. -/
def recordSuccess : Gate := Gate.fresh

/-- How long the engine is left alone after the failure that is the `k`th past the threshold. -/
def suppression (l : Limits) (k : Nat) : Nat :=
  let exponent := min k 20
  min (l.baseMs * 2 ^ exponent) l.maxMs

/-- The gate after a failure. -/
def recordFailure (l : Limits) (now : Nat) (g : Gate) (detail : String) (kind : OutageKind) :
    Gate :=
  let consecutiveFailures := g.consecutiveFailures + 1
  { consecutiveFailures
    suppressedUntil :=
      if consecutiveFailures < l.threshold then g.suppressedUntil
      else now + suppression l (consecutiveFailures - l.threshold)
    lastDetail := some detail
    lastKind := kind }

/-! ## The methods that go through it -/

inductive Method where
  | coreDiagnostics
  | queueSnapshot

/-- What comes of the request. -/
inductive Response where
  /-- It fails, or its body is not JSON. -/
  | thrown (message : String)
  /-- An HTTP status that is not 2xx. -/
  | notOk (status : Nat)
  | json (isObject : Bool)

/-- How a request ended. -/
inductive Outcome where
  | success
  | failure (detail : String)

/-- The outcomes a method records for its request. -/
def outcomes : Method → Response → List Outcome
  | _, .thrown message => [.failure s!"Kamex status unavailable: {message}"]
  | _, .notOk status => [.failure s!"Kamex status returned HTTP {status}"]
  | .coreDiagnostics, .json _ => [.success]
  | .queueSnapshot, .json true => [.success]
  -- a payload that is not an object: returned as unavailable, and nothing is recorded
  | .queueSnapshot, .json false => []

/-! ## Callers

The gate is asked before each request and told its outcome after, with other callers in between. -/

/-- A request in flight. -/
structure Request where
  method : Method
  /-- No outcome was recorded since it was issued. -/
  isProbe : Bool

/-- The gate, its clock and its callers. -/
structure State where
  /-- Milliseconds. -/
  clock : Nat
  gate : Gate
  inFlight : List Request
  /-- How many requests were issued since an outcome was last recorded. -/
  issuedSince : Nat
  /-- What each request that has ended recorded. -/
  returned : List (List Outcome)
  /-- The windows that were opened, each with the number of its failure past the threshold. -/
  windows : List (Nat × Nat)

def State.init : State := ⟨0, Gate.fresh, [], 0, [], []⟩

/-- What happens at the gate. -/
inductive Action where
  | wait (milliseconds : Nat)
  | call (method : Method)
  /-- The request at this place in flight ends, and `/health` was found reachable or not. -/
  | finish (index : Nat) (response : Response) (health : Bool)

/-- An outcome is recorded, and none of the requests in flight is a probe any more. -/
def record (l : Limits) (kind : OutageKind) (s : State) (outcome : Outcome) : State :=
  let inFlight := s.inFlight.map fun r => { r with isProbe := false }
  match outcome with
  | .success => { s with gate := recordSuccess, inFlight, issuedSince := 0 }
  | .failure detail =>
    let gate := recordFailure l s.clock s.gate detail kind
    { s with
      gate
      inFlight
      issuedSince := 0
      windows :=
        if gate.consecutiveFailures < l.threshold then s.windows
        else s.windows ++
          [(gate.consecutiveFailures - l.threshold, gate.suppressedUntil - s.clock)] }

/-- One event at the gate. -/
@[grind =] def step (l : Limits) (s : State) : Action → Option State
  | .wait milliseconds => some { s with clock := s.clock + milliseconds }
  | .call method =>
    if (check l s.clock s.gate).allowed then
      some { s with inFlight := s.inFlight ++ [⟨method, true⟩], issuedSince := s.issuedSince + 1 }
    else some s
  | .finish index response health =>
    (s.inFlight[index]?).map fun r =>
      (outcomes r.method response).foldl (record l (classifyOutage (some health)))
        { s with
          inFlight := s.inFlight.eraseIdx index
          returned := s.returned ++ [outcomes r.method response] }

/-- The gate with its callers as a system. -/
def gate (l : Limits) : System State Action := ⟨step l⟩

/-! ## What is promised -/

/-- Threshold consecutive failures have been recorded. -/
def State.Tripped (l : Limits) (s : State) : Prop := l.threshold ≤ s.gate.consecutiveFailures

/-- What the gate has to keep. -/
structure Kept (l : Limits) (s : State) : Prop where
  probe : s.Tripped l → s.issuedSince ≤ 1
  recorded : ∀ os ∈ s.returned, os.length = 1
  windows : ∀ w ∈ s.windows, w.2 = min (l.baseMs * 2 ^ w.1) l.maxMs

/-- The condition on a step: no probe is out when a caller comes after the window has expired,
`queueSnapshot` is not answered by JSON that is not an object, and the ceiling is reached by the
20th failure past the threshold. -/
def Meets (l : Limits) (s : State) : Action → Prop
  | .wait _ => True
  | .call _ => s.Tripped l → s.gate.suppressedUntil ≤ s.clock → ∀ r ∈ s.inFlight, r.isProbe = false
  | .finish index response _ => ∀ r, s.inFlight[index]? = some r →
      ¬ (r.method = .queueSnapshot ∧ response = .json false) ∧
        ((∀ isObject, response ≠ .json isObject) →
          s.gate.consecutiveFailures + 1 - l.threshold ≤ 20 ∨ l.maxMs ≤ l.baseMs * 2 ^ 20)

/-! ## Steps -/

variable {l : Limits} {s s' : State}

/-- What was promised, with the requests that are counted as probes all in flight. -/
structure Inv (l : Limits) (s : State) : Prop extends Kept l s where
  counted : s.issuedSince = s.inFlight.countP Request.isProbe

theorem check_allowed_iff {now : Nat} {g : Gate} :
    (check l now g).allowed = true ↔
      (l.threshold ≤ g.consecutiveFailures → g.suppressedUntil ≤ now) := by
  rw [check]
  split
  · next h => exact iff_of_true rfl fun hle => absurd h (Nat.not_lt.mpr hle)
  split
  · next h => exact iff_of_true rfl fun _ => h
  · next hlt h => exact iff_of_false (by simp) fun himp => h (himp (Nat.not_lt.mp hlt))

/-- The window is the one promised, unless the exponent was capped below the ceiling. -/
theorem suppression_eq_iff {k : Nat} :
    suppression l k = min (l.baseMs * 2 ^ k) l.maxMs ↔ k ≤ 20 ∨ l.maxMs ≤ l.baseMs * 2 ^ 20 := by
  rw [suppression]
  obtain hle | hlt := Nat.lt_or_ge 20 k |>.symm
  · rw [Nat.min_eq_left hle]
    exact iff_of_true rfl (.inl hle)
  · have hpow : l.baseMs * 2 ^ 20 < l.baseMs * 2 ^ k :=
      Nat.mul_lt_mul_of_pos_left (Nat.pow_lt_pow_right (by decide) hlt) l.baseMs_pos
    rw [Nat.min_eq_right (Nat.le_of_lt hlt)]
    omega

/-- Recording an outcome leaves no probe, and opens the window promised where the condition says. -/
theorem record_spec (s : State) (h : ∀ w ∈ s.windows, w.2 = min (l.baseMs * 2 ^ w.1) l.maxMs)
    (kind : OutageKind) (o : Outcome) :
    let t := record l kind s o
    t.issuedSince = 0 ∧ t.inFlight.countP Request.isProbe = 0 ∧ t.returned = s.returned ∧
      ((∀ w ∈ t.windows, w.2 = min (l.baseMs * 2 ^ w.1) l.maxMs) ↔
        ((∃ detail, o = .failure detail) →
          s.gate.consecutiveFailures + 1 - l.threshold ≤ 20 ∨ l.maxMs ≤ l.baseMs * 2 ^ 20)) := by
  have hsettled :
      (s.inFlight.map fun r => { r with isProbe := false }).countP Request.isProbe = 0 := by
    rw [List.countP_eq_zero]
    intro r hr
    obtain ⟨r, -, rfl⟩ := List.mem_map.mp hr
    exact Bool.false_ne_true
  cases o with
  | success => exact ⟨rfl, hsettled, rfl, iff_of_true h fun ⟨_, hfail⟩ => by cases hfail⟩
  | failure detail =>
    refine ⟨rfl, hsettled, rfl, ?_⟩
    rw [imp_iff_right ⟨detail, rfl⟩]
    dsimp only [record, recordFailure]
    split
    · exact iff_of_true h (.inl (by omega))
    · rw [List.forall_mem_append, List.forall_mem_singleton, and_iff_right h,
        Nat.add_sub_cancel_left, suppression_eq_iff]

/-- A method records one outcome, or none when `queueSnapshot` reads JSON that is not an object. -/
theorem outcomes_cases (method : Method) (response : Response) :
    (outcomes method response = [] ∧ method = .queueSnapshot ∧ response = .json false) ∨
      ∃ o, outcomes method response = [o] ∧ ¬ (method = .queueSnapshot ∧ response = .json false) ∧
        ((∃ detail, o = .failure detail) ↔ ∀ isObject, response ≠ .json isObject) := by
  cases method <;> rcases response with message | status | _ | _ <;> simp [outcomes]

/-- A call keeps the promise exactly when it meets the condition. -/
theorem call_iff (h : Inv l s) (method : Method) :
    (∀ s', step l s (.call method) = some s' → Kept l s') ↔ Meets l s (.call method) := by
  have hcount : s.issuedSince = 0 ↔ ∀ r ∈ s.inFlight, r.isProbe = false := by
    rw [h.counted, List.countP_eq_zero]
    simp only [Bool.not_eq_true]
  rw [step, Meets, ← hcount]
  by_cases hallowed : (check l s.clock s.gate).allowed = true
  · rw [if_pos hallowed]
    constructor
    · intro hkept htripped _
      have := (hkept _ rfl).probe htripped
      dsimp only at this
      omega
    · rintro hmeets s' hs'
      cases hs'
      refine ⟨fun htripped => ?_, h.recorded, h.windows⟩
      exact (hmeets htripped (check_allowed_iff.mp hallowed htripped)).symm ▸ Nat.le_refl 1
  · rw [if_neg hallowed]
    refine iff_of_true (fun s' hs' => Option.some.inj hs' ▸ h.toKept) fun htripped hexpired => ?_
    exact absurd (check_allowed_iff.mpr fun _ => hexpired) hallowed

/-- A request that ends keeps it exactly when it meets the condition, and leaves no probe then. -/
theorem finish_spec (h : Inv l s) (index : Nat) (response : Response) (health : Bool) {r : Request}
    (hr : s.inFlight[index]? = some r) :
    ∃ t, step l s (.finish index response health) = some t ∧
      (Kept l t ↔ Meets l s (.finish index response health)) ∧
      (Kept l t → t.issuedSince = 0 ∧ t.inFlight.countP Request.isProbe = 0) := by
  rw [step, hr, Option.map_some, Meets]
  refine ⟨_, rfl, ?_⟩
  obtain ⟨hnone, hbad⟩ | ⟨o, hone, hgood, hfailure⟩ := outcomes_cases r.method response
  · have hkept : ¬ Kept l
        { s with
          inFlight := s.inFlight.eraseIdx index
          returned := s.returned ++ [[]] } := by
      intro hkept
      have := hkept.recorded [] (by simp)
      cases this
    rw [hnone, List.foldl_nil]
    exact ⟨iff_of_false hkept fun hmeets => (hmeets r hr).1 hbad, fun hk => absurd hk hkept⟩
  · rw [hone, List.foldl_cons, List.foldl_nil]
    obtain ⟨hsince, hprobes, hreturned, hwindows⟩ := record_spec
      { s with
        inFlight := s.inFlight.eraseIdx index
        returned := s.returned ++ [[o]] } h.windows (classifyOutage (some health)) o
    refine ⟨⟨fun hkept r' hr' => ?_, fun hmeets => ⟨fun _ => ?_, ?_, ?_⟩⟩,
      fun _ => ⟨hsince, hprobes⟩⟩
    · obtain rfl := Option.some.inj (hr.symm.trans hr')
      exact ⟨hgood, fun hjson => hwindows.mp hkept.windows (hfailure.mpr hjson)⟩
    · rw [hsince]
      exact Nat.zero_le 1
    · rw [hreturned]
      exact List.forall_mem_append.mpr ⟨h.recorded, List.forall_mem_singleton.mpr rfl⟩
    · exact hwindows.mpr fun hfail => (hmeets r hr).2 (hfailure.mp hfail)

theorem step_iff (h : Inv l s) (a : Action) :
    (∀ s', step l s a = some s' → Kept l s') ↔ Meets l s a := by
  cases a with
  | wait milliseconds =>
    refine iff_of_true (fun s' hs' => ?_) trivial
    cases hs'
    exact ⟨h.probe, h.recorded, h.windows⟩
  | call method => exact call_iff h method
  | finish index response health =>
    cases hr : s.inFlight[index]? with
    | none => simp [step, Meets, hr]
    | some r =>
      obtain ⟨t, ht, hiff, -⟩ := finish_spec h index response health hr
      rw [ht, ← hiff]
      exact ⟨fun hkept => hkept t rfl, fun hkept s' hs' => Option.some.inj hs' ▸ hkept⟩

theorem inv_step (h : Inv l s) {a : Action} (hmeets : Meets l s a) (hs' : step l s a = some s') :
    Inv l s' := by
  have hkept := (step_iff h a).mpr hmeets s' hs'
  refine ⟨hkept, ?_⟩
  cases a with
  | wait milliseconds =>
    cases hs'
    exact h.counted
  | call method =>
    rw [step] at hs'
    split at hs'
    · cases hs'
      simp [h.counted]
    · cases hs'
      exact h.counted
  | finish index response health =>
    cases hr : s.inFlight[index]? with
    | none => simp [step, hr] at hs'
    | some r =>
      obtain ⟨t, ht, -, hzero⟩ := finish_spec h index response health hr
      obtain rfl := Option.some.inj (ht.symm.trans hs')
      rw [(hzero hkept).1, (hzero hkept).2]

theorem inv_init (l : Limits) : Inv l State.init where
  probe := fun _ => Nat.zero_le 1
  recorded := fun os hos => by cases hos
  windows := fun w hw => by cases hw
  counted := rfl

/-- With the adapter's own values the ceiling is reached long before the exponent is capped. -/
theorem limits_bounded : (GateOptions.limits ⟨none, none, none⟩).maxMs ≤
    (GateOptions.limits ⟨none, none, none⟩).baseMs * 2 ^ 20 := by
  decide

/-- **The gate keeps its promise in every state of a run** exactly when each step of the run meets
the condition. -/
theorem gate_kept_iff (options : GateOptions) (actions : List Action) :
    (gate options.limits).Along
        (fun s a => ∀ s', step options.limits s a = some s' → Kept options.limits s')
        State.init actions ↔
      (gate options.limits).Along (Meets options.limits) State.init actions :=
  (gate options.limits).along_iff_along (fun _ a h => step_iff h a)
    (fun _ _ _ h hmeets hs' => inv_step h hmeets hs') (inv_init _)

/-! ## Two callers after one window -/

/-- Three requests fail; two callers come when the window has expired. -/
def twoCallers : List Action :=
  [.call .queueSnapshot, .call .queueSnapshot, .call .queueSnapshot,
    .finish 0 (.notOk 403) true, .finish 0 (.notOk 403) true, .finish 0 (.notOk 403) true,
    .wait 5000, .call .queueSnapshot, .call .coreDiagnostics]

/-- Both of them issue a request. -/
theorem two_probes : ∃ s, (gate (GateOptions.limits ⟨none, none, none⟩)).run State.init twoCallers =
    some s ∧ ¬ Kept (GateOptions.limits ⟨none, none, none⟩) s := by
  obtain ⟨s, hs, hcheck⟩ := (gate (GateOptions.limits ⟨none, none, none⟩)).exists_run
    (fun s => decide (3 ≤ s.gate.consecutiveFailures ∧ 1 < s.issuedSince))
    (s := State.init) (w := twoCallers) (by decide)
  obtain ⟨htripped, htwo⟩ := of_decide_eq_true hcheck
  exact ⟨s, hs, fun h => absurd (h.probe htripped) (Nat.not_le.mpr htwo)⟩

end Jkannel.Engine.RequestGate
