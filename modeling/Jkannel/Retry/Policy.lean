import Jkannel.Retry.Chain

/-!
# When a failed message is retried

The policies of a tenant, and what they say about one delivery report.

* `resolveRetryPolicy` picks the policy of one message, the most specific row whole.
* `scannableEvents` are the events a scan asks the engine for.
* `classifyReport` is the verdict on one report; `Matches` is what makes it a retry or, when it
  comes too late, a chain that is recorded and closed.
* `matches_scannable` and `classifyReport_of_matches` are what a scan relies on: it asks for every
  report a policy acts on, and opens a chain for each.
-/

namespace Jkannel.Retry

inductive PolicyScope where
  | default | tenant | smsc | customer
  deriving DecidableEq

/-- A row of `delivery_retry_policies`. -/
structure DeliveryRetryPolicyRow where
  id : Nat
  scope : PolicyScope
  smscId : Option String
  customerId : Option String
  enabled : Bool
  maxAttempts : Nat
  retryOnFailed : Bool
  retryOnRejected : Bool
  minDelaySeconds : Nat
  maxAgeSeconds : Int
  requireDifferentBind : Bool
  chargeCreditOnRetry : Bool
  maxRetriesPerMinute : Nat
  bindRetriesPerMinute : Nat
  /-- The table's CHECK. -/
  check : 1 ≤ maxAttempts ∧ maxAttempts ≤ 5

/-- A resolved policy. -/
structure DeliveryRetryPolicy where
  /-- The row that decided it. -/
  policyId : Option Nat
  scope : PolicyScope
  enabled : Bool
  maxAttempts : Nat
  retryOnFailed : Bool
  retryOnRejected : Bool
  minDelaySeconds : Nat
  maxAgeSeconds : Int
  requireDifferentBind : Bool
  chargeCreditOnRetry : Bool
  maxRetriesPerMinute : Nat
  bindRetriesPerMinute : Nat
  check : 1 ≤ maxAttempts ∧ maxAttempts ≤ 5

def DELIVERY_RETRY_DEFAULTS : DeliveryRetryPolicy where
  policyId := none
  scope := .default
  enabled := false
  maxAttempts := 1
  retryOnFailed := true
  retryOnRejected := false
  minDelaySeconds := 60
  maxAgeSeconds := 3600
  requireDifferentBind := true
  chargeCreditOnRetry := true
  maxRetriesPerMinute := 60
  bindRetriesPerMinute := 30
  check := by decide

/-- A row's policy, with the tenant's cap. -/
def fromRow (row : DeliveryRetryPolicyRow) (tenantCap : Nat) : DeliveryRetryPolicy where
  policyId := some row.id
  scope := row.scope
  enabled := row.enabled
  maxAttempts := row.maxAttempts
  retryOnFailed := row.retryOnFailed
  retryOnRejected := row.retryOnRejected
  minDelaySeconds := row.minDelaySeconds
  maxAgeSeconds := row.maxAgeSeconds
  requireDifferentBind := row.requireDifferentBind
  chargeCreditOnRetry := row.chargeCreditOnRetry
  maxRetriesPerMinute := tenantCap
  bindRetriesPerMinute := row.bindRetriesPerMinute
  check := row.check

/-- The customer's row, else the bind's, else the tenant's, else the defaults. -/
def resolveRetryPolicy (rows : List DeliveryRetryPolicyRow) (smscId customerId : Option String) :
    DeliveryRetryPolicy :=
  let tenantRow := rows.find? fun row => row.scope = .tenant
  let tenantCap := (tenantRow.map DeliveryRetryPolicyRow.maxRetriesPerMinute).getD
    DELIVERY_RETRY_DEFAULTS.maxRetriesPerMinute
  let customerRow := (customerId.filter (· ≠ "")).bind fun customer =>
    rows.find? fun row => row.scope = .customer && row.customerId = some customer
  let smscRow := (smscId.filter (· ≠ "")).bind fun smsc =>
    rows.find? fun row => row.scope = .smsc && row.smscId = some smsc
  match (customerRow.or smscRow).or tenantRow with
  | some row => fromRow row tenantCap
  | none => { DELIVERY_RETRY_DEFAULTS with maxRetriesPerMinute := tenantCap }

def DLR_EVENT_FAILED : Int := 2
def DLR_EVENT_REJECTED : Int := 16

/-- The events of one row. -/
def rowEvents (row : DeliveryRetryPolicyRow) : List Int :=
  if row.enabled then
    (if row.retryOnFailed then [DLR_EVENT_FAILED] else []) ++
      (if row.retryOnRejected then [DLR_EVENT_REJECTED] else [])
  else []

/-- The events any enabled policy acts on, each once and in order. -/
def scannableEvents (rows : List DeliveryRetryPolicyRow) : List Int :=
  [DLR_EVENT_FAILED, DLR_EVENT_REJECTED].filter fun event => event ∈ rows.flatMap rowEvents

/-- What a policy says of a failure. -/
inductive RetryVerdict where
  | retry
  /-- No retry; `recordable` is whether the chain is recorded, and closed. -/
  | decline (recordable : Bool) (reason : String)
  deriving DecidableEq

/-- The scope as a reason names it. -/
def PolicyScope.text : PolicyScope → String
  | .default => "tenant"
  | .tenant => "tenant"
  | .smsc => "smsc"
  | .customer => "customer"

/-- The verdict on a report of `dlrEvent`, stamped `dlrAt` in epoch milliseconds. -/
def classifyReport (policy : DeliveryRetryPolicy) (dlrEvent : Int) (dlrAt : Option Int)
    (nowMs : Int) : RetryVerdict :=
  if policy.enabled = false then
    .decline false ("delivery retry is not enabled for this " ++ policy.scope.text ++ " scope")
  else if dlrEvent = DLR_EVENT_FAILED ∧ policy.retryOnFailed = false then
    .decline true "policy does not retry failed (DLR 2)"
  else if dlrEvent = DLR_EVENT_REJECTED ∧ policy.retryOnRejected = false then
    .decline true "policy does not retry rejected (DLR 16)"
  else if dlrEvent ≠ DLR_EVENT_FAILED ∧ dlrEvent ≠ DLR_EVENT_REJECTED then
    .decline false ("DLR event " ++ toString dlrEvent ++ " is not a delivery failure")
  else match dlrAt with
    | some at_ =>
      let ageSeconds := (nowMs - at_) / 1000
      if policy.maxAgeSeconds < ageSeconds then
        .decline true ("failure is " ++ toString ageSeconds ++ "s old, past the " ++
          toString policy.maxAgeSeconds ++ "s retry window")
      else .retry
    | none => .retry

/-! ## What a scan relies on -/

/-- The policy acts on this event. -/
def Matches (policy : DeliveryRetryPolicy) (event : Int) : Prop :=
  policy.enabled = true ∧ ((event = DLR_EVENT_FAILED ∧ policy.retryOnFailed = true) ∨
    (event = DLR_EVENT_REJECTED ∧ policy.retryOnRejected = true))

instance (policy : DeliveryRetryPolicy) (event : Int) : Decidable (Matches policy event) :=
  inferInstanceAs (Decidable (_ ∧ _))

variable {rows : List DeliveryRetryPolicyRow} {smscId customerId : Option String}

/-- An enabled policy comes from a row. -/
theorem resolveRetryPolicy_row (h : (resolveRetryPolicy rows smscId customerId).enabled = true) :
    ∃ row ∈ rows, ∃ cap, resolveRetryPolicy rows smscId customerId = fromRow row cap := by
  unfold resolveRetryPolicy at h ⊢
  simp only at h ⊢
  split at h
  · rename_i row hrow
    refine ⟨row, ?_, _, rfl⟩
    rcases Option.or_eq_some_iff.mp hrow with hrow | ⟨-, hrow⟩
    · rcases Option.or_eq_some_iff.mp hrow with hrow | ⟨-, hrow⟩
      all_goals
        obtain ⟨_, -, hfind⟩ := Option.bind_eq_some_iff.mp hrow
        exact List.mem_of_find?_eq_some hfind
    · exact List.mem_of_find?_eq_some hrow
  · cases h

/-- A scan asks for every event a policy acts on. -/
theorem matches_scannable
    {event : Int} (h : Matches (resolveRetryPolicy rows smscId customerId) event) :
    event ∈ scannableEvents rows := by
  obtain ⟨row, hrow, cap, hpolicy⟩ := resolveRetryPolicy_row h.1
  rw [hpolicy] at h
  obtain ⟨henabled, hevent⟩ := h
  have henabled' : row.enabled = true := henabled
  refine List.mem_filter.mpr ⟨?_, decide_eq_true (List.mem_flatMap.mpr ⟨row, hrow, ?_⟩)⟩
  · rcases hevent with ⟨rfl, -⟩ | ⟨rfl, -⟩ <;> simp
  · rw [rowEvents, if_pos henabled']
    rcases hevent with ⟨rfl, hfailed⟩ | ⟨rfl, hrejected⟩
    · have : row.retryOnFailed = true := hfailed
      simp [this]
    · have : row.retryOnRejected = true := hrejected
      simp [this]

/-- A report a policy acts on opens a chain, unless it is too old, and then records one. -/
theorem classifyReport_of_matches {policy : DeliveryRetryPolicy} {event : Int}
    (h : Matches policy event) (dlrAt : Option Int) (nowMs : Int) :
    classifyReport policy event dlrAt nowMs = .retry ∨
      ∃ reason, classifyReport policy event dlrAt nowMs = .decline true reason := by
  obtain ⟨henabled, hevent⟩ := h
  have hfailed : ¬ (event = DLR_EVENT_FAILED ∧ policy.retryOnFailed = false) := by
    rintro ⟨he, hoff⟩
    rcases hevent with ⟨-, hon⟩ | ⟨he', -⟩
    · rw [hoff] at hon
      cases hon
    · rw [he] at he'
      exact absurd he' (by decide)
  have hrejected : ¬ (event = DLR_EVENT_REJECTED ∧ policy.retryOnRejected = false) := by
    rintro ⟨he, hoff⟩
    rcases hevent with ⟨he', -⟩ | ⟨-, hon⟩
    · rw [he] at he'
      exact absurd he' (by decide)
    · rw [hoff] at hon
      cases hon
  have hnegative : ¬ (event ≠ DLR_EVENT_FAILED ∧ event ≠ DLR_EVENT_REJECTED) := by
    rintro ⟨hne, hne'⟩
    rcases hevent with ⟨he, -⟩ | ⟨he, -⟩
    · exact hne he
    · exact hne' he
  unfold classifyReport
  rw [if_neg (by rw [henabled]; decide), if_neg hfailed, if_neg hrejected, if_neg hnegative]
  cases dlrAt with
  | none => exact .inl rfl
  | some stamped =>
    simp only
    split
    · exact .inr ⟨_, rfl⟩
    · exact .inl rfl

end Jkannel.Retry
