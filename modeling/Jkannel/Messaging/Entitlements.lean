import Jkannel.Customers.Posting
import Jkannel.Lib.Transaction
import Jkannel.Routing.Resolution

/-!
# What a customer may send

Before a message is spooled its customer is checked and charged: the sender must be approved, the
route or the bind must be one of the customer's, every quota must have room, and the balance must
cover the price.  All of it happens in the transaction of the send; a message without a customer is
nobody's and is let through.

* `consumeQuotas` counts the messages against every quota of the customer, all or none.
* `postDebit` takes the price off the balance.
* `consumeInClient` is the four checks in their order.
-/

namespace Jkannel.Messaging

open Binary64 (Number)
open Jkannel.Customers
open Jkannel.Routing

/-- A row of `customers`. -/
structure CustomerRow where
  id : String
  status : String
  enabled : Bool
  /-- Zero for no limit. -/
  rateLimitPerMin : Int

/-- A row of `sender_ids`. -/
structure SenderIdRow where
  customerId : String
  senderId : String
  status : String
  reason : Option String
  deriving DecidableEq

inductive QuotaPeriod where
  | daily | monthly
  deriving DecidableEq

def QuotaPeriod.text : QuotaPeriod → String
  | .daily => "daily"
  | .monthly => "monthly"

/-- A day of the calendar, in UTC. -/
structure UtcDate where
  year : Int
  month : Nat
  date : Nat
  deriving DecidableEq

/-- A row of `customer_quotas`. -/
structure QuotaRow where
  id : String
  customerId : String
  period : QuotaPeriod
  limitCount : Nat
  usedCount : Nat
  /-- The day the period in progress began. -/
  windowStart : UtcDate

/-- A row of `customer_balances`. -/
structure BalanceRow where
  customerId : String
  balance : Int

/-- An entry of the ledger.  Only debits are posted by a send. -/
structure CreditTransactionRow extends Credit.CreditTransactionRow where
  id : Nat
  customerId : String

/-- What is written to the audit log. -/
structure AuditRow where
  action : String
  entityType : String
  entityId : String

/-- The tables of the customers' accounts, with the audit log. -/
structure Accounts where
  customers : List CustomerRow
  senderIds : List SenderIdRow
  quotas : List QuotaRow
  balances : List BalanceRow
  creditTransactions : List CreditTransactionRow
  auditLog : List AuditRow

/-- What a send asks of its customer. -/
structure EntitlementCheck where
  customerId : Option String
  sender : Option String
  smscId : Option String
  routeId : Option String
  count : Nat
  cost : Option Rat
  reference : Option String

/-- A quota after the consumption. -/
structure QuotaUsage where
  period : QuotaPeriod
  limit : Nat
  used : Nat
  remaining : Nat

/-- What was checked and charged. -/
structure EntitlementOutcome where
  customerId : Option String
  quotas : List QuotaUsage
  charged : Rat
  balanceAfter : Option Rat
  senderChecked : Bool
  routeBindingChecked : Bool

/-- The price of a message whose route has none: the setting `MESSAGE_DEFAULT_COST`. -/
def defaultMessageCost (setting : Option Rat) : Rat :=
  match setting with
  | some parsed => if 0 < parsed then parsed else 0
  | none => 0

/-! ## The checks -/

/-- The customer exists and may send. -/
def assertSendableCustomer (customers : List CustomerRow) (customerId : String) :
    Except SendError Unit :=
  match customers.find? fun c => c.id = customerId with
  | none => .error (.http 404 "Customer not found")
  | some row =>
    if !row.enabled || row.status ≠ "active" then
      .error (.http 403 ("Customer is not able to send (status " ++ row.status ++
        (if row.enabled then "" else ", disabled") ++ ")"))
    else .ok ()

/-- The sender is registered and approved, once the customer has any sender registered. -/
def assertSenderApproved (senderIds : List SenderIdRow) (customerId sender : String) :
    Except SendError Bool :=
  let rows := senderIds.filter fun r => decide (r.customerId = customerId)
  if rows = [] then .ok false
  else match rows.find? fun r => r.senderId = sender with
    | none => .error (.http 403 ("Sender ID \"" ++ sender ++
        "\" is not registered for this customer; register and approve it first"))
    | some found =>
      if found.status ≠ "approved" then
        .error (.http 403 ("Sender ID \"" ++ sender ++ "\" is " ++ found.status ++
          match Text.truthy found.reason with
          | some reason => ": " ++ reason
          | none => ""))
      else .ok true

/-- The route or the bind is one of the customer's, once the customer has any. -/
def assertRoutePermitted (tables : RoutingTables) (customerId : String)
    (smscId routeId : Option String) : Except SendError Bool :=
  match customerBindings tables customerId with
  | none => .ok false
  | some bindings =>
    let byRoute := (Text.truthy routeId).any fun id => bindings.any fun b => b.routeId = some id
    let definition := (Text.truthy smscId).bind fun id =>
      tables.smscDefinitions.find? fun d => d.engineId = id
    let byBind := definition.any fun d => bindings.any fun b => b.smscId = some d.id
    if byRoute || byBind then .ok true
    else .error (.http 403 ("Customer is not entitled to send through " ++
      smscId.getD "the selected route"))

/-! ## Quotas -/

/-- Whether a window that began on `start` is over. -/
def windowElapsed (period : QuotaPeriod) (start today : UtcDate) : Bool :=
  match period with
  | .daily => decide (start ≠ today)
  | .monthly => decide (start.year ≠ today.year ∨ start.month ≠ today.month)

/-- A quota after `count` more messages, a window that is over counting from zero. -/
def QuotaRow.consumed (row : QuotaRow) (count : Nat) (today : UtcDate) : QuotaRow :=
  let elapsed := windowElapsed row.period row.windowStart today
  { row with
    usedCount := (if elapsed then 0 else row.usedCount) + count
    windowStart := if elapsed then today else row.windowStart }

/-- The quotas of a customer, in the order of the query. -/
def customerQuotas (quotas : List QuotaRow) (customerId : String) : List QuotaRow :=
  let rows := quotas.filter fun r => decide (r.customerId = customerId)
  (rows.filter fun r => decide (r.period = .daily)) ++
    rows.filter fun r => decide (r.period = .monthly)

/-- Consume `count` messages against every quota of a customer, unless one of them would go over
its limit. -/
def consumeQuotas (quotas : List QuotaRow) (customerId : String) (count : Nat) (today : UtcDate) :
    Except SendError (List QuotaRow) :=
  let effective := (customerQuotas quotas customerId).map fun row => row.consumed count today
  match effective.find? fun row => row.limitCount < row.usedCount with
  | some exceeded => .error (.http 400 (exceeded.period.text ++ " quota exceeded: " ++
      toString exceeded.usedCount ++ " would exceed limit " ++ toString exceeded.limitCount))
  | none => .ok (quotas.map fun row =>
      if row.customerId = customerId then row.consumed count today else row)

/-! ## Credit -/

/-- The balances with the customer's own among them, created at zero on first touch. -/
def touchBalance (balances : List BalanceRow) (customerId : String) : List BalanceRow :=
  if balances.any fun b => b.customerId = customerId then balances
  else balances ++ [⟨customerId, 0⟩]

def balanceOf (balances : List BalanceRow) (customerId : String) : Int :=
  ((balances.find? fun b => b.customerId = customerId).map BalanceRow.balance).getD 0

/-- Take an amount off a customer's balance, and note it in the ledger. -/
def postDebit (accounts : Accounts) (customerId : String) (amount : Number)
    (reference : Option String) : Except SendError (Credit.CreditTransactionRow × Accounts) := do
  let balances := touchBalance accounts.balances customerId
  let row ← Credit.postInClient (balanceOf balances customerId)
    ⟨.debit, amount, some "message submission", reference⟩
  return (row, { accounts with
    balances := balances.map fun b =>
      if b.customerId = customerId then { b with balance := row.balanceAfter } else b
    creditTransactions := accounts.creditTransactions ++
      [⟨row, accounts.creditTransactions.length, customerId⟩]
    auditLog := accounts.auditLog ++
      [⟨"customer_credit.debit", "credit_transaction",
        toString accounts.creditTransactions.length⟩] })

/-- The price of `count` messages. -/
def chargeFor (setting : Option Rat) (check : EntitlementCheck) (count : Nat) : Number :=
  let unitCost := Number.ofRat (check.cost.getD (defaultMessageCost setting))
  if 0 < unitCost.value then Credit.charge unitCost count else .ofRat 0

/-- Charge a customer for `count` messages: what was charged, what is left, and the accounts. -/
def chargeCustomer (setting : Option Rat) (accounts : Accounts) (customerId : String)
    (check : EntitlementCheck) (count : Nat) :
    Except SendError (Rat × Option Rat × Accounts) :=
  let charge := chargeFor setting check count
  if 0 < charge.value then
    let balance := Credit.numberOf (balanceOf (touchBalance accounts.balances customerId) customerId)
    if balance < charge.value then
      .error (.http 403 ("insufficient credit: " ++ amountText (Binary64.shortest charge.value) ++
        " required, balance " ++ amountText (Binary64.shortest balance)))
    else
      (postDebit accounts customerId charge check.reference).map fun (row, accounts) =>
        (charge.value, some (Credit.numberOf row.balanceAfter), accounts)
  else .ok (0, none, accounts)

/-! ## The four checks together -/

/-- Run every check and consume what the send costs.  `setting` is `MESSAGE_DEFAULT_COST`. -/
def consumeInClient (setting : Option Rat) (tables : RoutingTables) (accounts : Accounts)
    (today : UtcDate) (check : EntitlementCheck) :
    Except SendError (EntitlementOutcome × Accounts) :=
  match Text.truthy check.customerId with
  | none => .ok (⟨none, [], 0, none, false, false⟩, accounts)
  | some customerId => do
    let count := max 1 check.count
    assertSendableCustomer accounts.customers customerId
    let senderChecked ← match Text.truthy check.sender with
      | some sender => assertSenderApproved accounts.senderIds customerId sender
      | none => .ok false
    let routeBindingChecked ←
      assertRoutePermitted tables customerId check.smscId check.routeId
    let quotas ← consumeQuotas accounts.quotas customerId count today
    let usage := customerQuotas quotas customerId
    let audited := if usage = [] then accounts.auditLog
      else accounts.auditLog ++ [⟨"customer_quota.consumed", "customer", customerId⟩]
    let (charged, balanceAfter, accounts) ← chargeCustomer setting
      { accounts with quotas := quotas, auditLog := audited } customerId check count
    return ({ customerId := some customerId
              quotas := usage.map fun q =>
                ⟨q.period, q.limitCount, q.usedCount, q.limitCount - q.usedCount⟩
              charged := charged
              balanceAfter := balanceAfter
              senderChecked := senderChecked
              routeBindingChecked := routeBindingChecked }, accounts)

/-! ## Who may send -/

/-- The customer is active and enabled. -/
def Sendable (customers : List CustomerRow) (customerId : String) : Prop :=
  ∃ c ∈ customers, c.id = customerId ∧ c.status = "active" ∧ c.enabled = true

/-- The customer has a sender registered. -/
def Registered (senderIds : List SenderIdRow) (customerId : String) : Prop :=
  ∃ r ∈ senderIds, r.customerId = customerId

/-- The sender is one of the customer's approved ones. -/
def Approved (senderIds : List SenderIdRow) (customerId : String) (sender : Option String) : Prop :=
  ∃ r ∈ senderIds, r.customerId = customerId ∧ r.status = "approved" ∧ sender = some r.senderId

variable {customerId : String}

theorem assertSendableCustomer_ok {customers : List CustomerRow} {u : Unit}
    (h : assertSendableCustomer customers customerId = .ok u) : Sendable customers customerId := by
  rw [assertSendableCustomer] at h
  cases hfound : customers.find? fun c => c.id = customerId with
  | none => simp only [hfound] at h; cases h
  | some row =>
    simp only [hfound] at h
    split at h
    · cases h
    · next hable =>
      simp only [Bool.or_eq_true, Bool.not_eq_true', decide_eq_true_eq, not_or, not_not,
        Bool.not_eq_false] at hable
      exact ⟨row, List.mem_of_find?_eq_some hfound, by simpa using List.find?_some hfound,
        hable.2, hable.1⟩

theorem assertSenderApproved_ok {senderIds : List SenderIdRow} {sender : String} {checked : Bool}
    (h : assertSenderApproved senderIds customerId sender = .ok checked)
    (hregistered : Registered senderIds customerId) :
    Approved senderIds customerId (some sender) := by
  obtain ⟨r, hr, hcustomer⟩ := hregistered
  simp only [assertSenderApproved] at h
  have hmem : r ∈ senderIds.filter fun r => decide (r.customerId = customerId) :=
    List.mem_filter.mpr ⟨hr, decide_eq_true hcustomer⟩
  rw [if_neg (List.ne_nil_of_mem hmem)] at h
  split at h
  · cases h
  · next found hfound =>
    split at h
    · cases h
    · next happroved =>
      obtain ⟨hfoundMem, hfoundCustomer⟩ := List.mem_filter.mp (List.mem_of_find?_eq_some hfound)
      have hsender : found.senderId = sender := by simpa using List.find?_some hfound
      exact ⟨found, hfoundMem, of_decide_eq_true hfoundCustomer, not_not.mp happroved,
        congrArg some hsender.symm⟩

/-- A customer whose message goes through may send, and under that sender if there is one. -/
theorem consumeInClient_ok {setting : Option Rat} {tables : RoutingTables} {accounts : Accounts}
    {today : UtcDate} {check : EntitlementCheck} {result : EntitlementOutcome × Accounts}
    (h : consumeInClient setting tables accounts today check = .ok result)
    (hcustomer : Text.truthy check.customerId = some customerId) :
    Sendable accounts.customers customerId ∧
      ∀ sender, Text.truthy check.sender = some sender →
        Registered accounts.senderIds customerId →
          Approved accounts.senderIds customerId (some sender) := by
  rw [consumeInClient, hcustomer] at h
  obtain ⟨u, hsendable, h⟩ := Transaction.bind_eq_ok h
  refine ⟨assertSendableCustomer_ok hsendable, fun sender hpresent hregistered => ?_⟩
  rw [hpresent] at h
  obtain ⟨senderChecked, hsender, -⟩ := Transaction.bind_eq_ok h
  exact assertSenderApproved_ok hsender hregistered

end Jkannel.Messaging
