import Jkannel.Lib.Binary64
import Jkannel.Messaging.Dedupe
import Jkannel.Routing.Selection

/-!
# Posting to a balance

A customer's balance and the entries of its ledger are decimals of four places in the database, and
numbers of double precision in the code.

* `charge` is what messages cost, and `postInClient` one entry of the ledger.

Amounts and balances in the database are integers here, counting ten-thousandths.
-/

namespace Jkannel.Customers.Credit

open Binary64 (Number)
open Jkannel.Messaging (SendError)
open Jkannel.Routing (amountText)

inductive LedgerDirection where
  | credit | debit

/-- An entry of the ledger. -/
structure CreditTransactionRow where
  direction : LedgerDirection
  amount : Int
  balanceAfter : Int
  reason : Option String
  reference : Option String

/-- An entry's amount with its sign. -/
def CreditTransactionRow.signed (row : CreditTransactionRow) : Int :=
  match row.direction with
  | .credit => row.amount
  | .debit => -row.amount

/-- What a posting asks for. -/
structure PostTransactionInput where
  direction : LedgerDirection
  amount : Number
  reason : Option String
  reference : Option String

/-! ## The column type -/

/-- A decimal to the fourth place, half of it going away from zero. -/
def toUnits (q : ℚ) : Int :=
  if 0 ≤ q then ⌊q * 10000 + 1 / 2⌋ else -⌊-q * 10000 + 1 / 2⌋

/-- `numeric(18,4)`; none when it overflows. -/
def numeric (q : ℚ) : Option Int :=
  if (toUnits q).natAbs < 10 ^ 18 then some (toUnits q) else none

/-- `Number(text)` of a stored value. -/
def numberOf (units : Int) : ℚ := Binary64.round (units / 10000)

/-! ## One posting -/

/-- What the code takes the balance to be after a posting. -/
def nextBalance (balance : Int) (input : PostTransactionInput) : ℚ :=
  Binary64.round (numberOf balance + match input.direction with
    | .credit => input.amount.value
    | .debit => -input.amount.value)

/-- Post to a balance: the entry, as the database stores it. -/
def postInClient (balance : Int) (input : PostTransactionInput) :
    Except SendError CreditTransactionRow :=
  let next := nextBalance balance input
  if next < 0 then
    .error (.http 400 ("insufficient balance: debit " ++
      amountText (Binary64.shortest input.amount.value) ++ " exceeds balance " ++
      amountText (Binary64.shortest (numberOf balance))))
  else match numeric (Binary64.shortest next), numeric (Binary64.shortest input.amount.value) with
    | some balanceAfter, some amount =>
      if amount ≤ 0 then
        .error (.other "new row for relation \"credit_transactions\" violates check constraint")
      else .ok ⟨input.direction, amount, balanceAfter, input.reason, input.reference⟩
    | _, _ => .error (.other "numeric field overflow")

/-! ## The price -/

/-- `amount.toFixed(4)`: the decimal that is nearest to the number's exact value, of two the
larger. -/
def toFixed4 (amount : Number) : ℚ := (⌊amount.value * 10000 + 1 / 2⌋ : ℤ) / 10000

/-- What messages cost: `Number((unitCost * count).toFixed(4))`. -/
def charge (unitCost : Number) (count : Nat) : Number :=
  .ofRat (toFixed4 (.ofRat (unitCost.value * count)))

end Jkannel.Customers.Credit
