import Jkannel.Messaging.SenderApproval

/-!
# What a message costs

A customer's message is counted against every quota and paid for in the transaction that submits it.
The submission is not undone with that transaction, so what matters is that both come before it.

* `Room` is room for one more message in every quota.
* `submitted_afforded`: whatever fails later on, a message that reaches the engine had room, and its
  price was on the balance.
-/

namespace Jkannel.Messaging

open Jkannel.Customers
open Jkannel.Routing
open Jkannel.Engine
open Transaction (bind_eq_ok)

/-- Every quota of the customer has room for `count` messages. -/
def Room (quotas : List QuotaRow) (customerId : String) (count : Nat) (today : UtcDate) : Prop :=
  ∀ q ∈ quotas, q.customerId = customerId → (q.consumed count today).usedCount ≤ q.limitCount

variable {customerId : String} {count : Nat} {today : UtcDate}

theorem room_of_consumeQuotas {quotas quotas' : List QuotaRow}
    (h : consumeQuotas quotas customerId count today = .ok quotas') :
    Room quotas customerId count today := by
  simp only [consumeQuotas] at h
  split at h
  · cases h
  · next hnone =>
    intro q hq hcustomer
    have hmem : q ∈ customerQuotas quotas customerId := by
      cases hperiod : q.period <;> simp [customerQuotas, hq, hcustomer, hperiod]
    have hwithin := List.find?_eq_none.mp hnone _ (List.mem_map_of_mem hmem)
    exact le_of_not_gt (fun hover => hwithin (decide_eq_true hover))

theorem consumeInClient_afforded {setting : Option Rat} {tables : RoutingTables}
    {accounts : Accounts} {check : EntitlementCheck} {result : EntitlementOutcome × Accounts}
    (h : consumeInClient setting tables accounts today check = .ok result)
    (hcustomer : Text.truthy check.customerId = some customerId) :
    Room accounts.quotas customerId (max 1 check.count) today ∧
      (0 < (chargeFor setting check (max 1 check.count)).value →
        (chargeFor setting check (max 1 check.count)).value ≤
          Credit.numberOf (balanceOf (touchBalance accounts.balances customerId) customerId)) := by
  rw [consumeInClient, hcustomer] at h
  obtain ⟨u, -, h⟩ := bind_eq_ok h
  cases hsender : Text.truthy check.sender
  all_goals
    rw [hsender] at h
    obtain ⟨senderChecked, -, h⟩ := bind_eq_ok h
    obtain ⟨routeChecked, -, h⟩ := bind_eq_ok h
    obtain ⟨quotas, hquotas, h⟩ := bind_eq_ok h
    obtain ⟨charged, hcharged, -⟩ := bind_eq_ok h
    refine ⟨room_of_consumeQuotas hquotas, fun hpositive => le_of_not_gt fun hshort => ?_⟩
    simp only [chargeCustomer, if_pos hpositive, if_pos hshort] at hcharged
    cases hcharged

namespace Send

variable {env : SendEnv} {faults : Faults} {actor : Actor} {req : SendRequest}
  {ack : Transition.Ack} {sys : Sys} {row : Engine.SendSmsRow}

/-- The price of a message on a bind. -/
def price (env : SendEnv) (req : SendRequest) (chosen : ChosenBind) : Rat :=
  (chargeFor env.messageDefaultCost (entitlementCheck req chosen (originalMessage req "")) 1).value

/-- **What is spooled can be paid for**, and is within every quota of its customer, whatever becomes
of the send. -/
theorem submitted_afforded (h : Submits env faults actor req ack sys row)
    (hcustomer : Text.truthy req.customerId = some customerId) :
    Sendable sys.db.accounts.customers customerId ∧
      Room sys.db.accounts.quotas customerId 1 env.today ∧
      ∃ chosen, chooseBind env req sys.db.routing (canonicalReceiver env.countryCode req.receiver)
          (nextRotation sys.rotation) = .ok chosen ∧ row.smscId = some chosen.smscId ∧
        (0 < price env req chosen → price env req chosen ≤ Credit.numberOf
          (balanceOf (touchBalance sys.db.accounts.balances customerId) customerId)) := by
  obtain ⟨digits, a, hdigits, hpassed, rfl⟩ := send_submits h
  obtain ⟨accounts, hconsume⟩ := hpassed.entitled
  obtain ⟨hroom, hprice⟩ := consumeInClient_afforded hconsume
    (show Text.truthy (entitlementCheck req a.chosen _).customerId = _ from hcustomer)
  refine ⟨(consumeInClient_ok hconsume hcustomer).1, hroom, a.chosen, ?_, rfl, hprice⟩
  rw [canonicalReceiver, hdigits]
  exact hpassed.chosen

/-- One message is left of the day's ten, and its price of the balance. -/
def lastDb : TenantDb :=
  { curatedDb with
    accounts := { curatedDb.accounts with
      quotas := [⟨"q", "acme", .daily, 10, 9, ⟨1970, 1, 1⟩⟩]
      balances := [⟨"acme", 125⟩] } }

def pricedEnv : SendEnv := { SendEnv.plain with messageDefaultCost := some (1 / 80) }

theorem last_afforded :
    Sendable lastDb.accounts.customers "acme" ∧ Room lastDb.accounts.quotas "acme" 1 pricedEnv.today ∧
      ∃ chosen, chooseBind pricedEnv (customerRequest (some "INFO")) lastDb.routing
          (canonicalReceiver none "+256772000001") (nextRotation 0) = .ok chosen ∧
        (customerRow "INFO").smscId = some chosen.smscId ∧
        (0 < price pricedEnv (customerRequest (some "INFO")) chosen →
          price pricedEnv (customerRequest (some "INFO")) chosen ≤
            Credit.numberOf (balanceOf (touchBalance lastDb.accounts.balances "acme") "acme")) :=
  submitted_afforded
    (show Submits pricedEnv (fun _ => none) ⟨"1", "operator"⟩ (customerRequest (some "INFO")) .ok
      (.fresh lastDb) (customerRow "INFO") by decide +kernel) rfl

end Send

end Jkannel.Messaging
