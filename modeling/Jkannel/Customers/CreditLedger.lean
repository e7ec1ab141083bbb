import Jkannel.Customers.Posting
import Jkannel.Lib.Transition
import Jkannel.Lib.Updates

/-!
# The credit ledger

A customer's balance and the entries of its ledger are kept to the fourth decimal, but the balance
after an entry is computed in double precision, from an amount that has not been rounded.  The
database then rounds the amount and the balance each on its own.

* `postInClient_exact` says when one posting is the exact one: as long as the amount is not so close
  to half of a ten-thousandth that double precision could take it across (`Fits`).
* `step` is the machine of any number of postings of one customer, over the row lock of its balance;
  postings come from `postTransaction` and from sends.
* `Balanced` is what the ledger is for, `ledger_balances` the result for every run, and
  `half_a_unit_is_lost` a run that breaks.
-/

namespace Jkannel.Customers.Credit

open Binary64 (Number)
open Jkannel.Messaging (SendError)
open Transition (Ack)
open CreditTransactionRow (signed)

/-- The amount is not so near to half of a ten-thousandth that double precision, on the scale of
the amount and the balance, could take it across. -/
def Fits (balance : Int) (amount : Number) : Prop :=
  |Binary64.shortest amount.value * 10000 - toUnits (Binary64.shortest amount.value)| +
    (balance + Binary64.shortest amount.value * 10000) / 2 ^ 50 < 1 / 2

instance (balance : Int) (amount : Number) : Decidable (Fits balance amount) :=
  inferInstanceAs (Decidable (_ < _))

variable {q : ℚ} {balance : Int} {row : CreditTransactionRow}

theorem toUnits_of_near {n : Int} (hq : 0 ≤ q) (h : |q * 10000 - n| < 1 / 2) : toUnits q = n := by
  obtain ⟨hlow, hhigh⟩ := abs_lt.mp h
  rw [toUnits, if_pos hq, Int.floor_eq_iff]
  constructor <;> linarith

theorem numeric_some {n : Int} (h : numeric q = some n) : toUnits q = n := by
  rw [numeric] at h
  split at h
  · exact Option.some.inj h
  · cases h

theorem toUnits_nonneg (hq : 0 ≤ q) : 0 ≤ toUnits q := by
  rw [toUnits, if_pos hq]
  exact Int.floor_nonneg.mpr (by linarith)

/-- An entry that is stored. -/
theorem postInClient_ok {input : PostTransactionInput} (h : postInClient balance input = .ok row) :
    0 ≤ nextBalance balance input ∧ row.direction = input.direction ∧
      toUnits (Binary64.shortest (nextBalance balance input)) = row.balanceAfter ∧
      toUnits (Binary64.shortest input.amount.value) = row.amount := by
  rw [postInClient] at h
  split at h
  · cases h
  · next hcovered =>
    split at h
    · next balanceAfter amount hbalance hamount =>
      split at h
      · cases h
      · cases h
        exact ⟨not_lt.mp hcovered, rfl, numeric_some hbalance, numeric_some hamount⟩
    · cases h

/-- What double precision and the text of a number take away from a sum: `current` is read for
`balance` and `value` for `amount`, `next` is their sum, and `decimal` its text. -/
theorem sum_error {balance amount current value next decimal σ : ℚ} (hσ : |σ| = 1)
    (hbalance : 0 ≤ balance) (hamount : 0 ≤ amount) (hdecimal : 0 ≤ decimal)
    (hcurrent : |current - balance| ≤ balance / 2 ^ 53)
    (hvalue : |value - amount| ≤ amount / 2 ^ 53)
    (hnext : |next - (current + σ * value)| ≤ |current + σ * value| / 2 ^ 53)
    (htext : |next - decimal| ≤ decimal / 2 ^ 53) :
    |decimal - (balance + σ * amount)| ≤ (balance + amount) / 2 ^ 50 := by
  obtain ⟨hcurrentLow, hcurrentHigh⟩ := abs_le.mp hcurrent
  obtain ⟨hvalueLow, hvalueHigh⟩ := abs_le.mp hvalue
  obtain ⟨htextLow, htextHigh⟩ := abs_le.mp htext
  have hsize : |current + σ * value| ≤ current + value := by
    have hcurrentPos : 0 ≤ current := by linarith
    have hvaluePos : 0 ≤ value := by linarith
    calc |current + σ * value| ≤ |current| + |σ * value| := abs_add_le _ _
      _ = current + value := by rw [abs_mul, hσ, one_mul, abs_of_nonneg hcurrentPos,
          abs_of_nonneg hvaluePos]
  obtain ⟨hnextLow, hnextHigh⟩ := abs_le.mp
    (le_trans hnext (div_le_div_of_nonneg_right hsize (by norm_num)))
  rw [abs_le]
  rcases eq_or_eq_neg_of_abs_eq hσ with rfl | rfl <;> constructor <;> linarith

/-- **A posting that fits is exact**: the balance changes by the amount that is stored. -/
theorem postInClient_exact {input : PostTransactionInput} (hbalance : 0 ≤ balance)
    (hamount : 0 < input.amount.value) (hfits : Fits balance input.amount)
    (h : postInClient balance input = .ok row) : row.balanceAfter = balance + row.signed := by
  obtain ⟨hnext, hdirection, hafter, hstored⟩ := postInClient_ok h
  set amount := Binary64.shortest input.amount.value with hamountText
  set decimal := Binary64.shortest (nextBalance balance input) with hdecimalText
  have hnumber : Binary64.round (nextBalance balance input) = nextBalance balance input :=
    Binary64.round_round _
  have hamountPos : 0 ≤ amount := Binary64.shortest_nonneg input.amount.isNumber hamount.le
  have hdecimalPos : 0 ≤ decimal := Binary64.shortest_nonneg hnumber hnext
  have hvalue := Binary64.shortest_error input.amount.isNumber
  have htext := Binary64.shortest_error hnumber
  have hcurrent := Binary64.round_error ((balance : ℚ) / 10000)
  rw [← hamountText, abs_of_nonneg hamountPos] at hvalue
  rw [← hdecimalText, abs_of_nonneg hdecimalPos] at htext
  have hbalance' : (0 : ℚ) ≤ balance / 10000 := by positivity
  rw [abs_of_nonneg hbalance'] at hcurrent
  -- the sign of the posting
  obtain ⟨σ, hσ, hnextEq, hsigned⟩ : ∃ σ : ℚ, |σ| = 1 ∧
      nextBalance balance input =
        Binary64.round (numberOf balance + σ * input.amount.value) ∧
      (row.signed : ℚ) = σ * row.amount := by
    rw [nextBalance, signed, hdirection]
    cases input.direction with
    | credit => exact ⟨1, by norm_num, by simp, by simp⟩
    | debit => exact ⟨-1, by norm_num, by simp, by simp⟩
  have hround := Binary64.round_error (numberOf balance + σ * input.amount.value)
  rw [← hnextEq] at hround
  have herror := sum_error hσ hbalance' hamountPos hdecimalPos hcurrent hvalue hround htext
  rw [Fits, ← hamountText, hstored] at hfits
  rw [← hafter]
  refine toUnits_of_near hdecimalPos ?_
  push_cast
  rw [hsigned]
  -- the decimal is off by less than what the amount leaves to the half
  have hsplit : decimal * 10000 - (balance + σ * row.amount) =
      (decimal - (balance / 10000 + σ * amount)) * 10000 + σ * (amount * 10000 - row.amount) := by
    ring
  calc |decimal * 10000 - (balance + σ * row.amount)|
      ≤ |decimal - (balance / 10000 + σ * amount)| * 10000 + |amount * 10000 - row.amount| := by
        rw [hsplit]
        refine le_trans (abs_add_le _ _) (le_of_eq ?_)
        rw [abs_mul, abs_mul, hσ, one_mul, abs_of_nonneg (by norm_num : (0 : ℚ) ≤ 10000)]
    _ ≤ (balance / 10000 + amount) / 2 ^ 50 * 10000 + |amount * 10000 - row.amount| := by
        have := mul_le_mul_of_nonneg_right herror (by norm_num : (0 : ℚ) ≤ 10000)
        linarith
    _ = |amount * 10000 - row.amount| + (balance + amount * 10000) / 2 ^ 50 := by ring
    _ < 1 / 2 := hfits

/-! ## The machine -/

/-- What is to be posted, and by whom. -/
inductive Posting where
  | transaction (input : PostTransactionInput)
  /-- A send of `count` messages. -/
  | send (unitCost : Number) (count : Nat) (reference : Option String)

def Posting.input : Posting → PostTransactionInput
  | .transaction input => input
  | .send unitCost count reference =>
    ⟨.debit, charge unitCost count, some "message submission", reference⟩

/-- How far a posting has come. -/
inductive Phase where
  | begun
  /-- The balance row is there: it was, or it has been inserted. -/
  | touched
  /-- The row is locked; balance and entry are written. -/
  | posted (row : CreditTransactionRow)
  | committed
  | refused
  | failed

/-- A posting at work. -/
structure Post where
  posting : Posting
  phase : Phase

/-- The balance, the ledger, the postings. -/
structure State where
  /-- The committed balance row. -/
  balance : Option Int
  /-- The transaction that has the row locked, or has inserted it. -/
  holder : Option Nat
  posts : Nat → Option Post
  /-- The committed entries. -/
  ledger : List CreditTransactionRow

def init : State := ⟨none, none, fun _ => none, []⟩

/-- One statement of one posting. -/
inductive Action where
  | begin (i : Nat) (posting : Posting)
  /-- The INSERT of a balance row at zero, unless there is one. -/
  | touch (i : Nat)
  /-- The send looks whether the balance covers its charge. -/
  | check (i : Nat)
  /-- The row is locked and read; the posting is written, or refused. -/
  | post (i : Nat)
  | commit (i : Nat) (ack : Ack)
  /-- Anything else throws, and the transaction is rolled back. -/
  | fail (i : Nat)

def State.setPost (s : State) (i : Nat) (post : Post) (phase : Phase) : State :=
  { s with posts := Function.update s.posts i (some { post with phase := phase }) }

def State.unlock (s : State) (i : Nat) : State :=
  { s with holder := if s.holder = some i then none else s.holder }

theorem setPost_posts (s : State) (i : Nat) (post : Post) (phase : Phase) :
    (s.setPost i post phase).posts =
      Function.update s.posts i (some { post with phase := phase }) := rfl

/-- The balance, zero before there is a row. -/
def State.units (s : State) : Int := s.balance.getD 0

/-- Somebody else has the row. -/
def State.heldFrom (s : State) (i : Nat) : Bool := s.holder.any fun j => decide (j ≠ i)

/-- The step of a posting. -/
def postStep (s : State) (i : Nat) (post : Post) : Phase → Action → Option State
  | .begun, .touch _ =>
    if s.balance.isSome then some (s.setPost i post .touched)
    else if s.heldFrom i then none
    else some ({ s with holder := some i }.setPost i post .touched)
  | .touched, .check _ =>
    match post.posting with
    | .send unitCost count _ =>
      if numberOf s.units < (charge unitCost count).value then
        some ((s.unlock i).setPost i post .refused)
      else some (s.setPost i post .touched)
    | .transaction _ => none
  | .touched, .post _ =>
    if s.heldFrom i then none
    else match postInClient s.units post.posting.input with
      | .ok row => some ({ s with holder := some i }.setPost i post (.posted row))
      | .error _ => some ((s.unlock i).setPost i post .refused)
  | .posted row, .commit _ ack =>
    if ack.committed then
      some ({ s.unlock i with
        balance := some row.balanceAfter
        ledger := s.ledger ++ [row] }.setPost i post .committed)
    else some ((s.unlock i).setPost i post .failed)
  | .begun, .fail _ => some (s.setPost i post .failed)
  | .touched, .fail _ => some ((s.unlock i).setPost i post .failed)
  | .posted _, .fail _ => some ((s.unlock i).setPost i post .failed)
  | _, _ => none

/-- One statement of one posting. -/
def step (s : State) (a : Action) : Option State :=
  match a with
  | .begin i posting =>
    -- an amount is positive, or nothing is posted
    if (s.posts i).isSome ∨ posting.input.amount.value ≤ 0 then none
    else some (s.setPost i ⟨posting, .begun⟩ .begun)
  | .touch i | .check i | .post i | .commit i _ | .fail i =>
    (s.posts i).bind fun post => postStep s i post post.phase a

/-- The machine. -/
def credit : Transition.System State Action := ⟨step⟩

/-! ## What the ledger is for -/

/-- Every entry's balance is the one before it, changed by the entry's amount. -/
def Chained : Int → List CreditTransactionRow → Prop
  | _, [] => True
  | balance, row :: rows => row.balanceAfter = balance + row.signed ∧ Chained row.balanceAfter rows

/-- **The ledger balances**: the balance is the credits less the debits, the entries lead from each
to the next, and the balance is never negative. -/
structure Balanced (s : State) : Prop where
  conserved : s.units = (s.ledger.map signed).sum
  chained : Chained 0 s.ledger
  nonneg : 0 ≤ s.units

/-- What a run is asked for: an amount fits the balance it is posted to. -/
def Fitting (s : State) : Action → Prop
  | .post i => ∀ post ∈ s.posts i, Fits s.units post.posting.input.amount
  | _ => True

instance (s : State) (a : Action) : Decidable (Fitting s a) := by
  unfold Fitting
  split <;> infer_instance

theorem chained_append {rows : List CreditTransactionRow} (h : Chained balance rows)
    (hrow : row.balanceAfter = balance + (rows.map signed).sum + row.signed) :
    Chained balance (rows ++ [row]) := by
  induction rows generalizing balance with
  | nil => exact ⟨by simpa using hrow, trivial⟩
  | cons first rest ih =>
    refine ⟨h.1, ih h.2 ?_⟩
    rw [hrow, h.1, List.map_cons, List.sum_cons]
    ring

/-- What a step of the ledger keeps. -/
structure Inv (s : State) : Prop where
  balanced : Balanced s
  positive : ∀ i post, s.posts i = some post → 0 < post.posting.input.amount.value
  /-- What has been written is the posting to the committed balance, which is locked. -/
  posted : ∀ i post row, s.posts i = some post → post.phase = .posted row →
    s.holder = some i ∧ row.balanceAfter = s.units + row.signed ∧ 0 ≤ row.balanceAfter

theorem inv_init : Inv init where
  balanced := ⟨rfl, trivial, le_rfl⟩
  positive _ _ h := by cases h
  posted _ _ _ h := by cases h

section Step

variable {s s' : State}

variable {i : Nat} {post : Post}

/-- A posting moves on, and whatever it writes it has locked. -/
theorem Inv.setPost (h : Inv s) (holder : Option Nat) {phase : Phase}
    (hpositive : 0 < post.posting.input.amount.value)
    (hfree : ∀ j, s.holder = some j → j ≠ i → holder = some j)
    (hphase : ∀ row, phase = .posted row →
      holder = some i ∧ row.balanceAfter = s.units + row.signed ∧ 0 ≤ row.balanceAfter) :
    Inv ({ s with holder := holder }.setPost i post phase) where
  balanced := ⟨h.balanced.conserved, h.balanced.chained, h.balanced.nonneg⟩
  positive j other hother := by
    rw [setPost_posts] at hother
    rcases Updates.update_eq_some hother with ⟨rfl, rfl⟩ | ⟨hj, hother⟩
    · exact hpositive
    · exact h.positive j other hother
  posted j other row hother hposted := by
    rw [setPost_posts] at hother
    rcases Updates.update_eq_some hother with ⟨rfl, rfl⟩ | ⟨hj, hother⟩
    · exact hphase row hposted
    · obtain ⟨hholder, hrow⟩ := h.posted j other row hother hposted
      exact ⟨hfree j hholder hj, hrow⟩

theorem unlock_keeps (s : State) (i j : Nat) (h : s.holder = some j) (hj : j ≠ i) :
    (s.unlock i).holder = some j := by
  rw [State.unlock, h]
  exact if_neg fun heq => hj (Option.some.inj heq)

/-- A posting ends without a commit. -/
theorem Inv.drop (h : Inv s) {phase : Phase} (hpositive : 0 < post.posting.input.amount.value)
    (hphase : ∀ row, phase ≠ .posted row) : Inv ((s.unlock i).setPost i post phase) :=
  h.setPost (s.unlock i).holder hpositive (unlock_keeps s i)
    fun row heq => absurd heq (hphase row)

/-- The commit: nobody else has written. -/
theorem Inv.commit (h : Inv s) {row : CreditTransactionRow}
    (hpositive : 0 < post.posting.input.amount.value) (hholder : s.holder = some i)
    (hrow : row.balanceAfter = s.units + row.signed) (hnonneg : 0 ≤ row.balanceAfter) :
    Inv ({ s.unlock i with
      balance := some row.balanceAfter
      ledger := s.ledger ++ [row] }.setPost i post .committed) where
  balanced := by
    refine ⟨?_, ?_, hnonneg⟩
    · show row.balanceAfter = ((s.ledger ++ [row]).map signed).sum
      rw [List.map_append, List.sum_append, ← h.balanced.conserved, hrow]
      simp
    · refine chained_append h.balanced.chained ?_
      rw [hrow, h.balanced.conserved, zero_add]
  positive j other hother := by
    rw [setPost_posts] at hother
    rcases Updates.update_eq_some hother with ⟨rfl, rfl⟩ | ⟨hj, hother⟩
    · exact hpositive
    · exact h.positive j other hother
  posted j other row' hother hposted := by
    rw [setPost_posts] at hother
    rcases Updates.update_eq_some hother with ⟨rfl, rfl⟩ | ⟨hj, hother⟩
    · cases hposted
    · obtain ⟨hother', -⟩ := h.posted j other row' hother hposted
      rw [hholder] at hother'
      exact absurd (Option.some.inj hother').symm hj

theorem not_heldFrom {j : Nat} (h : ¬ s.heldFrom i = true) (hj : s.holder = some j) : j = i := by
  by_contra hne
  exact h (by rw [State.heldFrom, hj]; simpa using hne)

theorem Inv.postStep (h : Inv s) {a : Action} (hpost : s.posts i = some post)
    (hfitting : Fitting s a)
    (hi : a = .touch i ∨ a = .check i ∨ a = .post i ∨ (∃ ack, a = .commit i ack) ∨ a = .fail i)
    (hstep : postStep s i post post.phase a = some s') : Inv s' := by
  have hpositive := h.positive i post hpost
  have hkeep : ∀ {phase : Phase}, (∀ row, phase ≠ .posted row) → Inv (s.setPost i post phase) :=
    fun hphase => h.setPost s.holder hpositive (fun _ hj _ => hj)
      fun row heq => absurd heq (hphase row)
  rcases hphase : post.phase with _ | _ | row | _ | _ | _ <;>
    rw [hphase] at hstep <;> rcases hi with rfl | rfl | rfl | ⟨ack, rfl⟩ | rfl <;>
    simp only [Credit.postStep, reduceCtorEq, Option.some.injEq] at hstep
  · -- the balance row is touched
    split at hstep
    · cases hstep
      exact hkeep fun _ heq => by cases heq
    · split at hstep
      · cases hstep
      · next hfree =>
        cases hstep
        exact h.setPost (some i) hpositive
          (fun j hj hne => absurd (not_heldFrom hfree hj) hne) fun _ heq => by cases heq
  · subst hstep
    exact hkeep fun _ heq => by cases heq
  · -- the send checks the balance
    split at hstep
    · split at hstep <;> cases hstep
      · exact h.drop hpositive fun _ heq => by cases heq
      · exact hkeep fun _ heq => by cases heq
    · cases hstep
  · -- the posting is written
    split at hstep
    · cases hstep
    · next hfree =>
      split at hstep
      · next row hrow =>
        cases hstep
        have hexact := postInClient_exact h.balanced.nonneg hpositive (hfitting post hpost) hrow
        obtain ⟨hnext, -, hafter, -⟩ := postInClient_ok hrow
        refine h.setPost (some i) hpositive
          (fun j hj hne => absurd (not_heldFrom hfree hj) hne) fun row' heq => ?_
        obtain rfl := Phase.posted.inj heq
        refine ⟨rfl, hexact, ?_⟩
        rw [← hafter]
        exact toUnits_nonneg (Binary64.shortest_nonneg (Binary64.round_round _) hnext)
      · cases hstep
        exact h.drop hpositive fun _ heq => by cases heq
  · subst hstep
    exact h.drop hpositive fun _ heq => by cases heq
  · -- the commit
    obtain ⟨hholder, hrow, hnonneg⟩ := h.posted i post row hpost hphase
    split at hstep <;> cases hstep
    · exact h.commit hpositive hholder hrow hnonneg
    · exact h.drop hpositive fun _ heq => by cases heq
  · subst hstep
    exact h.drop hpositive fun _ heq => by cases heq

theorem inv_step {a : Action} (h : Inv s) (hfitting : Fitting s a) (hstep : step s a = some s') :
    Inv s' := by
  cases a with
  | begin i posting =>
    rw [step] at hstep
    split at hstep
    · cases hstep
    · next hfree =>
      cases hstep
      exact h.setPost s.holder (not_le.mp fun hle => hfree (.inr hle))
        (fun _ hj _ => hj) fun _ heq => by cases heq
  | _ =>
    obtain ⟨post, hpost, hstep⟩ := Option.bind_eq_some_iff.mp hstep
    exact h.postStep hpost hfitting (by simp) hstep

end Step

/-- **The ledger balances** in every run whose amounts fit. -/
theorem ledger_balances {s : State} {as : List Action} (hfitting : credit.Along Fitting init as)
    (hrun : credit.run init as = some s) : Balanced s :=
  (credit.invariant_along (fun _ _ _ hi hP hstep => inv_step hi hP hstep) inv_init hfitting
    hrun).balanced

/-! Runs of one customer. -/

/-- A posting of an amount from beginning to end. -/
def posts (i : Nat) (direction : LedgerDirection) (amount : ℚ) : List Action :=
  [.begin i (.transaction ⟨direction, .ofRat amount, none, none⟩), .touch i, .post i, .commit i .ok]

/-- A top-up, a send of three messages at 0.0125, and a debit of a tenth. -/
def exactRun : List Action :=
  posts 0 .credit 20 ++
    [.begin 1 (.send (.ofRat (1 / 80)) 3 none), .touch 1, .check 1, .post 1, .commit 1 .ok] ++
    posts 2 .debit (1 / 10)

theorem ledger_balances_exactRun :
    ∃ s, credit.run init exactRun = some s ∧ s.balance = some 198625 ∧ Balanced s := by
  have hchecked : credit.check Fitting init exactRun = true := by decide +kernel
  have hends : (credit.run init exactRun).any (fun s => s.balance = some 198625) = true := by
    decide +kernel
  obtain ⟨s, hs, hbalance⟩ := credit.exists_run _ hends
  exact ⟨s, hs, of_decide_eq_true hbalance, ledger_balances (credit.along_of_check _ hchecked) hs⟩

/-- **Half a unit is lost**: one is credited and 0.00005 debited.  The debit is stored as 0.0001, and
the balance stays where it is. -/
theorem half_a_unit_is_lost : ∃ s,
    credit.run init (posts 0 .credit 1 ++ posts 1 .debit (1 / 20000)) = some s ∧ ¬ Balanced s := by
  have hends : (credit.run init (posts 0 .credit 1 ++ posts 1 .debit (1 / 20000))).any (fun s =>
      s.units ≠ (s.ledger.map signed).sum) = true := by decide +kernel
  obtain ⟨s, hs, hlost⟩ := credit.exists_run _ hends
  exact ⟨s, hs, fun h => of_decide_eq_true hlost h.conserved⟩

end Jkannel.Customers.Credit
