import Mathlib.Tactic.Common

/-!
# The retry chain and its attempts

A message the carrier reports as failed gets a *chain*: one row for the original message, which
counts the re-sends committed for it, and one row for every re-send.  The chain's `attempts` is
also the fencing token of whoever is re-sending.

Every statement the service aims at the chain row is a function of the row here, `none` when its
WHERE does not match.

* `claim` takes an attempt, `markResent` records that it went out, `continueChain` reopens the
  chain after the attempt failed in turn.
* `terminate` ends the chain, and looks at nothing but its id.
-/

namespace Jkannel.Retry

/-- `message_delivery_retries.status`. -/
inductive ChainStatus where
  /-- A dispatch is scheduled. -/
  | pending
  /-- A dispatch has claimed it. -/
  | retrying
  /-- A retry was submitted and its delivery outcome is not known yet. -/
  | resent
  | delivered | exhausted | abandoned | failed
  deriving DecidableEq

/-- The statuses a chain ends in. -/
def ChainStatus.terminal : ChainStatus → Bool
  | .delivered | .exhausted | .abandoned | .failed => true
  | _ => false

/-- Whether a dispatch may claim the chain. -/
def ChainStatus.claimable : ChainStatus → Bool
  | .pending | .retrying => true
  | _ => false

/-- A row of `message_delivery_retries`. -/
structure Chain where
  /-- The engine's id of the original submission. -/
  originMessageRef : Nat
  status : ChainStatus
  /-- Re-sends committed, and the fencing token of the latest. -/
  attempts : Nat
  maxAttempts : Nat
  /-- Every bind the message has been submitted on, the original first. -/
  triedSmscIds : List String
  lastError : Option String
  /-- Why the chain stopped. -/
  terminalReason : Option String
  /-- The table's CHECK. -/
  check : 1 ≤ maxAttempts ∧ maxAttempts ≤ 5
  deriving DecidableEq

/-- `message_delivery_retry_attempts.outcome`, as far as it is written. -/
inductive AttemptOutcome where
  | submitted | refused | noBind

/-- A row of `message_delivery_retry_attempts`. -/
structure Attempt where
  /-- The chain's `attempts` at the moment of the claim. -/
  attemptNo : Nat
  smscId : Option String
  outcome : AttemptOutcome
  /-- The engine's id of the re-send, which its own delivery reports carry. -/
  messageRef : Option Nat
  /-- The delivery outcome observed for it, once one was. -/
  dlrEvent : Option Int
  reason : String

/-- A report of delivery. -/
def DLR_EVENT_DELIVERED : Int := 1

/-- The reports a scan reads: the message failed or was rejected. -/
def negativeEvent (event : Int) : Bool := event = 2 || event = 16

/-- The chain an accepted, or a recorded and refused, report opens. -/
def openChain (origin : Nat) (smscId : String) (maxAttempts : Nat) (refused : Option String) :
    Option Chain :=
  if h : 1 ≤ maxAttempts ∧ maxAttempts ≤ 5 then some {
    originMessageRef := origin
    status := if refused.isSome then .abandoned else .pending
    attempts := 0
    maxAttempts := maxAttempts
    triedSmscIds := [smscId]
    lastError := none
    terminalReason := refused
    check := h }
  else none

/-- Take an attempt: the committed increment the budget rests on. -/
def claim (c : Chain) : Option Chain :=
  if c.status.claimable ∧ c.attempts < c.maxAttempts then
    some { c with status := .retrying, attempts := c.attempts + 1 }
  else none

/-- Whether the attempt a dispatch claimed is still the chain's: the guard of the attempt row's
INSERT. -/
def holdsFence (n : Nat) (c : Chain) : Bool := c.status = .retrying && c.attempts = n

/-- The re-send of attempt `n` went out on `smscId`.  The WHERE is the id and the counter. -/
def markResent (n : Nat) (smscId : String) (c : Chain) : Option Chain :=
  if c.attempts = n then
    some { c with status := .resent, triedSmscIds := c.triedSmscIds ++ [smscId] }
  else none

/-- End the chain.  The WHERE is the id alone. -/
def terminate (status : ChainStatus) (reason : String) (c : Chain) : Chain :=
  { c with status := status, terminalReason := some reason }

/-- What an attempt's own negative report does to its chain: nothing unless it is in `resent`,
otherwise another attempt if one is left. -/
def continueChain (smscId : String) (event : Int) (c : Chain) : Option Chain :=
  if c.status = .resent then
    if c.maxAttempts ≤ c.attempts then
      some (terminate .exhausted ("retry " ++ toString c.attempts ++ " of " ++
        toString c.maxAttempts ++ " also failed (DLR " ++ toString event ++
        "); no attempts left") c)
    else some { c with
      status := .pending
      lastError := some ("retry on " ++ smscId ++ " reported DLR " ++ toString event) }
  else none

/-! ## What a statement can do to a chain -/

@[simp] theorem terminate_attempts (status : ChainStatus) (reason : String) (c : Chain) :
    (terminate status reason c).attempts = c.attempts := rfl

@[simp] theorem terminate_status (status : ChainStatus) (reason : String) (c : Chain) :
    (terminate status reason c).status = status := rfl

variable {smscId : String} {c c' : Chain}

theorem openChain_spec {origin : Nat} {maxAttempts : Nat} {refused : Option String}
    (h : openChain origin smscId maxAttempts refused = some c) :
    c.attempts = 0 ∧ (c.status = .pending ∨ c.status = .abandoned) := by
  unfold openChain at h
  split at h
  · cases h
    refine ⟨rfl, ?_⟩
    cases refused with
    | none => exact .inl rfl
    | some _ => exact .inr rfl
  · cases h

theorem claim_spec (h : claim c = some c') :
    c.status.claimable = true ∧ c.attempts < c.maxAttempts ∧ c'.status = .retrying ∧
      c'.attempts = c.attempts + 1 ∧ c'.maxAttempts = c.maxAttempts := by
  unfold claim at h
  split at h
  · rename_i hc
    cases h
    exact ⟨hc.1, hc.2, rfl, rfl, rfl⟩
  · cases h

theorem markResent_spec {n : Nat} (h : markResent n smscId c = some c') :
    c.attempts = n ∧ c'.status = .resent ∧ c'.attempts = c.attempts ∧
      c'.maxAttempts = c.maxAttempts := by
  unfold markResent at h
  split at h
  · rename_i hn
    cases h
    exact ⟨hn, rfl, rfl, rfl⟩
  · cases h

theorem continueChain_spec {event : Int} (h : continueChain smscId event c = some c') :
    c.status = .resent ∧ (c'.status = .exhausted ∨ c'.status = .pending) ∧
      c'.attempts = c.attempts ∧ c'.maxAttempts = c.maxAttempts := by
  unfold continueChain at h
  split at h
  · rename_i hr
    split at h
    · cases h
      exact ⟨hr, .inl rfl, rfl, rfl⟩
    · cases h
      exact ⟨hr, .inr rfl, rfl, rfl⟩
  · cases h

end Jkannel.Retry
