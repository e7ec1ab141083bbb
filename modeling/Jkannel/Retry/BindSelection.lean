import Jkannel.Engine.Sqlbox
import Jkannel.Routing.Resolution

/-!
# The bind of a retry

A retry goes out on a bind the message has not been tried on, and the dispatch pins it.  The
candidates are the binds that are up, that the customer is entitled to, and that have not used up
their share of retries.

* `selectRetryBind` is the choice: the routing engine's pick if it is a candidate, otherwise the
  candidate with the fewest recent retries, otherwise, where the policy allows it, the first bind
  again.
* `entitledBinds` is what the dispatch takes the customer to be entitled to: the binds bound to it,
  and the primary binds of the routes bound to it.
* `chooseBind` reads both and the routing engine.

A bind that is chosen is up and entitled (`selectRetryBind_some`), and a bind that is up, entitled
and the only one not tried is chosen (`selectRetryBind_only`).
-/

namespace Jkannel.Retry

open Jkannel.Routing

inductive BindSelectionKind where
  | route | leastLoaded | sameBind
  deriving DecidableEq

/-- What the choice rests on. -/
structure BindSelectionInput where
  /-- The binds that are up, by their engine ids. -/
  available : List String
  /-- The binds the message has been submitted on, the original first. -/
  tried : List String
  /-- The binds the customer is entitled to, or none when it is unconstrained. -/
  entitled : Option (List String)
  /-- Retries aimed at each bind within the breaker's window: the entries of a record. -/
  recentByBind : String → Option Nat
  bindRetriesPerMinute : Nat
  /-- The routing engine's own choice. -/
  routed : Option String
  requireDifferentBind : Bool

/-- The choice, and why. -/
structure BindSelection where
  smscId : Option String
  selection : Option BindSelectionKind
  /-- The binds that were considered and ruled out. -/
  excluded : List String
  reason : String

/-- `recentByBind[bind] ?? 0`: the entry or zero.  Under a name that every object inherits and that
has no entry the lookup finds a function, which is no number. -/
def BindSelectionInput.recent (input : BindSelectionInput) (bind : String) : Option Nat :=
  match input.recentByBind bind with
  | some count => some count
  | none => if bind ∈ Engine.inheritedKeys then none else some 0

/-- The bind has absorbed its share of retries.  What is no number is not at least the share. -/
def BindSelectionInput.overBudget (input : BindSelectionInput) (bind : String) : Bool :=
  (input.recent bind).any fun count => decide (input.bindRetriesPerMinute ≤ count)

def BindSelectionInput.isEntitled (input : BindSelectionInput) (bind : String) : Bool :=
  input.entitled.all fun binds => binds.contains bind

def BindSelectionInput.isTried (input : BindSelectionInput) (bind : String) : Bool :=
  input.tried.contains bind

/-- A bind the retry may go out on. -/
def BindSelectionInput.isCandidate (input : BindSelectionInput) (bind : String) : Bool :=
  !input.isTried bind && input.isEntitled bind && !input.overBudget bind

def BindSelectionInput.candidates (input : BindSelectionInput) : List String :=
  input.available.filter input.isCandidate

/-- The binds a breaker alone ruled out, in words. -/
def BindSelectionInput.notes (input : BindSelectionInput) : List String :=
  (input.available.filter fun bind =>
    !input.isTried bind && input.isEntitled bind && input.overBudget bind).map fun bind =>
      bind ++ " is over its " ++ toString input.bindRetriesPerMinute ++ "/min retry budget"

/-- Fewest recent retries first, then by name.  A difference with what is no number is not zero and
not a number either, which the sort takes for a tie. -/
def BindSelectionInput.compareLoad (env : TextEngine) (input : BindSelectionInput) (a b : String) :
    Ordering :=
  match input.recent a, input.recent b with
  | some x, some y => (compare x y).then (env.localeCompare a b)
  | _, _ => .eq

/-- The candidate with the fewest recent retries. -/
def BindSelectionInput.leastLoaded (env : TextEngine) (input : BindSelectionInput) :
    Option String :=
  (input.candidates.insertionSort (input.compareLoad env · · ≠ .gt)).head?

/-- The bind that failed, where the policy allows using it again and it is fit for it. -/
def BindSelectionInput.origin (input : BindSelectionInput) : Option String :=
  if input.requireDifferentBind then none
  else (Text.truthy input.tried.head?).filter fun bind =>
    input.available.contains bind && input.isEntitled bind && !input.overBudget bind

/-- A list in words. -/
def joinOrNone (binds : List String) : String :=
  if ", ".intercalate binds = "" then "none" else ", ".intercalate binds

/-- The binds that are ruled out. -/
def BindSelectionInput.excluded (input : BindSelectionInput) : List String :=
  input.available.filter fun bind => !input.isCandidate bind

/-- Pick the bind a retry goes out on, or say that there is none. -/
def selectRetryBind (env : TextEngine) (input : BindSelectionInput) : BindSelection :=
  match (Text.truthy input.routed).filter input.candidates.contains with
  | some routed =>
    ⟨some routed, some .route, input.excluded,
      "routing engine selected " ++ routed ++ ", untried for this message"⟩
  | none =>
    match input.leastLoaded env with
    | some chosen =>
      ⟨some chosen, some .leastLoaded, input.excluded,
        (match Text.truthy input.routed with
          | some routed => "routing engine selected " ++ routed ++
              ", which this message has already been tried on"
          | none => "routing engine selected no bind") ++
          "; fell back to the least-loaded untried healthy bind " ++ chosen⟩
    | none =>
      match input.origin with
      | some origin =>
        ⟨some origin, some .sameBind, input.excluded,
          "no untried bind is available; policy permits re-using " ++ origin⟩
      | none =>
        ⟨none, none, input.excluded,
          "no healthy bind is available that this message has not already been tried on " ++
            "(tried: " ++ joinOrNone input.tried ++ "; healthy: " ++ joinOrNone input.available ++
            ")" ++ if input.notes = [] then "" else "; " ++ "; ".intercalate input.notes⟩

/-! ## What is chosen -/

section Choice

variable {env : TextEngine} {input : BindSelectionInput} {bind : String}

theorem mem_candidates :
    bind ∈ input.candidates ↔ bind ∈ input.available ∧ input.isTried bind = false ∧
      input.isEntitled bind = true ∧ input.overBudget bind = false := by
  rw [BindSelectionInput.candidates, List.mem_filter, BindSelectionInput.isCandidate,
    Bool.and_eq_true, Bool.and_eq_true, Bool.not_eq_true', Bool.not_eq_true', and_assoc]

theorem leastLoaded_mem (h : input.leastLoaded env = some bind) : bind ∈ input.candidates :=
  (List.mem_insertionSort _).mp (List.mem_of_head? h)

theorem origin_spec (h : input.origin = some bind) :
    bind ∈ input.available ∧ input.isEntitled bind = true := by
  rw [BindSelectionInput.origin] at h
  split at h
  · cases h
  · have hfit := (Option.filter_eq_some_iff.mp h).2
    rw [Bool.and_eq_true, Bool.and_eq_true] at hfit
    exact ⟨List.contains_iff_mem.mp hfit.1.1, hfit.1.2⟩

/-- **A bind that is chosen is up, and one the customer is entitled to.** -/
theorem selectRetryBind_some (h : (selectRetryBind env input).smscId = some bind) :
    bind ∈ input.available ∧ input.isEntitled bind = true := by
  rw [selectRetryBind] at h
  split at h
  · next routed hrouted =>
    cases h
    have hmem := List.contains_iff_mem.mp (Option.filter_eq_some_iff.mp hrouted).2
    exact ⟨(mem_candidates.mp hmem).1, (mem_candidates.mp hmem).2.2.1⟩
  · split at h
    · next chosen hchosen =>
      cases h
      have hmem := mem_candidates.mp (leastLoaded_mem hchosen)
      exact ⟨hmem.1, hmem.2.2.1⟩
    · split at h
      · next origin horigin =>
        cases h
        exact origin_spec horigin
      · cases h

/-- The only candidate there is, however often it is listed, is the one that is chosen. -/
theorem selectRetryBind_only (hmem : bind ∈ input.candidates)
    (honly : ∀ other ∈ input.candidates, other = bind) :
    (selectRetryBind env input).smscId = some bind := by
  rw [selectRetryBind]
  split
  · next routed hrouted =>
    have hcandidate := List.contains_iff_mem.mp (Option.filter_eq_some_iff.mp hrouted).2
    exact congrArg some (honly routed hcandidate)
  · cases hleast : input.leastLoaded env with
    | some chosen => exact congrArg some (honly chosen (leastLoaded_mem hleast))
    | none =>
      rw [BindSelectionInput.leastLoaded, List.head?_eq_none_iff] at hleast
      have := (List.mem_insertionSort (input.compareLoad env · · ≠ .gt)).mpr hmem
      rw [hleast] at this
      cases this

end Choice

/-! ## What the dispatch reads -/

/-- The engine's name of a definition. -/
def engineIdOf (tables : RoutingTables) (id : String) : Option String :=
  (tables.smscDefinitions.find? fun d => d.id = id).map SmscDefinition.engineId

/-- The engine's name of a route's primary bind. -/
def routeTarget (tables : RoutingTables) (routeId : String) : Option String :=
  (tables.routingRules.find? fun r => r.route.id = routeId).bind fun r =>
    engineIdOf tables r.route.targetSmscId

/-- The binds the dispatch takes a customer to be entitled to, or none when it is unconstrained. -/
def entitledBinds (tables : RoutingTables) (customerId : Option String) : Option (List String) :=
  ((Text.truthy customerId).bind (customerBindings tables)).map fun bindings =>
    bindings.flatMap fun b =>
      ([b.smscId.bind (engineIdOf tables), b.routeId.bind (routeTarget tables)].filterMap
        Text.truthy)

/-- What the choice of a bind needs of a row of `message_delivery_retries`. -/
structure RetryChainRow where
  destination : String
  sender : Option String
  customerId : Option String
  triedSmscIds : List String

/-- What the choice of a bind needs of a policy. -/
structure BindPolicy where
  bindRetriesPerMinute : Nat
  requireDifferentBind : Bool

/-- Choose the bind of a retry.  A routing engine that fails counts as one that picks nothing. -/
def chooseBind (env : TextEngine) (tables : RoutingTables) (chain : RetryChainRow)
    (policy : BindPolicy) (recentByBind : String → Option Nat) (now : LocalTime)
    (routingFails : Bool) : BindSelection :=
  selectRetryBind env
    { available := (availability tables).available
      tried := chain.triedSmscIds
      entitled := entitledBinds tables chain.customerId
      recentByBind := recentByBind
      bindRetriesPerMinute := policy.bindRetriesPerMinute
      routed := if routingFails then none else
        (resolveInClient env tables
          { msisdn := chain.destination
            sender := chain.sender
            operator := none
            customerId := chain.customerId
            rotation := 0
            now := now }).result.smscId
      requireDifferentBind := policy.requireDifferentBind }

end Jkannel.Retry
