import Jkannel.Lib.Transition
import Jkannel.Lib.Updates
import Jkannel.Messaging.Entitlements

/-!
# Quotas and their windows

A customer's quotas count its messages by the day and by the month, in UTC.  A call reads its clock,
waits for the rows, and counts: a row whose window is not the clock's starts again from zero, and
its new window begins with the call's transaction.

* `consumeRows` is the counting, in numbers of double precision as the code does it.  For limits
  that are safe integers it is the `QuotaRow.consumed` of a send, but for the beginning of a new
  window (`updateRow_eq`).
* `step` is the machine of any number of calls for one customer.
* `QuotasHold` is what the quotas are for: whatever the window, what has been committed in it is
  within the limit, and the counter of a row is what has been committed in its window.
* `InOrder` is the condition: a call that starts a new window was begun in that window, and no
  window comes back.  `quotas_hold` is the result, and `window_comes_back` a run that breaks.
-/

namespace Jkannel.Customers.Quotas

open Option
open Jkannel.Messaging (QuotaPeriod QuotaRow UtcDate windowElapsed SendError)
open Jkannel.Routing (amountText)
open Transition (Ack)
open Function (update update_of_ne)

/-! ## Windows -/

/-- The day of an instant in milliseconds since 1970. -/
def utcDate (ms : Int) : UtcDate :=
  -- the calendar repeats every four hundred years; a year of it begins in March
  let days := ms / 86400000 + 719468
  let era := days / 146097
  let dayOfEra := days % 146097
  let yearOfEra := (dayOfEra - dayOfEra / 1460 + dayOfEra / 36524 - dayOfEra / 146096) / 365
  let dayOfYear := dayOfEra - (365 * yearOfEra + yearOfEra / 4 - yearOfEra / 100)
  let marchMonth := (5 * dayOfYear + 2) / 153
  let month := if marchMonth < 10 then marchMonth + 3 else marchMonth - 9
  { year := yearOfEra + era * 400 + (if month ≤ 2 then 1 else 0)
    month := month.toNat
    date := (dayOfYear - (153 * marchMonth + 2) / 5 + 1).toNat }

example : utcDate 951868799999 = ⟨2000, 2, 29⟩ := by decide

/-- The window a day falls into. -/
def windowOf : QuotaPeriod → UtcDate → Int × Nat × Nat
  | .daily, day => (day.year, day.month, day.date)
  | .monthly, day => (day.year, day.month, 0)

theorem windowElapsed_iff (period : QuotaPeriod) (start today : UtcDate) :
    windowElapsed period start today = true ↔ windowOf period start ≠ windowOf period today := by
  cases period with
  | daily =>
    obtain ⟨year, month, date⟩ := start
    obtain ⟨year', month', date'⟩ := today
    simp only [windowElapsed, windowOf, ne_eq, decide_eq_true_eq, UtcDate.mk.injEq, Prod.mk.injEq]
  | monthly => simp [windowElapsed, windowOf, ← not_and_or]

/-! ## Counting -/

/-- A counter or a limit, as a number. -/
def number (n : Nat) : ℚ := Binary64.round n

/-- The bigint a number is stored as, by way of its text; none when it is out of range. -/
def bigintOf (x : ℚ) : Option Nat :=
  if x ≤ 2 ^ 53 then some ⌊x⌋.toNat
  else if Binary64.shortest x < 2 ^ 63 then some ⌊Binary64.shortest x⌋.toNat
  else none

/-- What the counter of a row comes to. -/
def usedAfter (row : QuotaRow) (count : Nat) (clock : UtcDate) : ℚ :=
  Binary64.round
    ((if windowElapsed row.period row.windowStart clock then 0 else number row.usedCount) + count)

/-- The count goes over the limit. -/
def Exceeds (row : QuotaRow) (count : Nat) (clock : UtcDate) : Prop :=
  number row.limitCount < usedAfter row count clock

instance (row : QuotaRow) (count : Nat) (clock : UtcDate) : Decidable (Exceeds row count clock) :=
  inferInstanceAs (Decidable (_ < _))

/-- The row after the UPDATE of a call whose transaction began on the day `start`. -/
def updateRow (count : Nat) (start clock : UtcDate) (row : QuotaRow) : Option QuotaRow :=
  (bigintOf (usedAfter row count clock)).map fun used =>
    { row with
      usedCount := used
      windowStart := if windowElapsed row.period row.windowStart clock then start
        else row.windowStart }

/-- The rows after a call, or its refusal. -/
def consumeRows (rows : List QuotaRow) (count : Nat) (start clock : UtcDate) :
    Except SendError (List QuotaRow) :=
  match rows.find? fun row => Exceeds row count clock with
  | some row => .error (.http 400 (row.period.text ++ " quota exceeded: " ++
      amountText (usedAfter row count clock) ++ " would exceed limit " ++
      amountText (number row.limitCount)))
  | none =>
    match rows.mapM (updateRow count start clock) with
    | some rows => .ok rows
    | none => .error (.other "value is out of range for type bigint")

/-- The row with `count` more messages, in exact arithmetic. -/
def counted (count : Nat) (start clock : UtcDate) (row : QuotaRow) : QuotaRow :=
  { row.consumed count clock with
    windowStart := if windowElapsed row.period row.windowStart clock then start
      else row.windowStart }

/-- What a row has counted in the window of the clock. -/
def base (row : QuotaRow) (clock : UtcDate) : Nat :=
  if windowElapsed row.period row.windowStart clock then 0 else row.usedCount

variable {row : QuotaRow} {count : Nat} {clock : UtcDate} {done : List (Int × Nat)}

/-- Below the limit of safe integers, the counting is exact. -/
theorem not_exceeds (hsafe : row.limitCount < 2 ^ 53) (hused : row.usedCount ≤ row.limitCount)
    (h : ¬ Exceeds row count clock) :
    base row clock + count ≤ row.limitCount ∧
      usedAfter row count clock = (base row clock + count : Nat) := by
  have hnumber : number row.usedCount = row.usedCount := Binary64.round_natCast (by omega)
  have hlimit : number row.limitCount = row.limitCount := Binary64.round_natCast (by omega)
  have hsum : usedAfter row count clock = Binary64.round (base row clock + count : Nat) := by
    rw [usedAfter, hnumber, base]
    split <;> push_cast <;> rfl
  rw [Exceeds, hsum, hlimit, not_lt] at h
  by_cases hlarge : 2 ^ 53 ≤ base row clock + count
  · have hpast := Binary64.lt_round_natCast hlarge
    have hlimit' : (row.limitCount : ℚ) + 1 ≤ 2 ^ 53 := by exact_mod_cast hsafe
    linarith
  · rw [Binary64.round_natCast (by omega)] at h hsum
    exact ⟨by exact_mod_cast h, hsum⟩

/-- **The code counts exactly** as long as the limit is a safe integer. -/
theorem updateRow_eq {start : UtcDate} (hsafe : row.limitCount < 2 ^ 53)
    (hused : row.usedCount ≤ row.limitCount) (h : ¬ Exceeds row count clock) :
    updateRow count start clock row = some (counted count start clock row) := by
  obtain ⟨hle, hexact⟩ := not_exceeds hsafe hused h
  have hbigint : bigintOf (usedAfter row count clock) = some (base row clock + count) := by
    have hbound : ((base row clock + count : Nat) : ℚ) ≤ 2 ^ 53 := by
      exact_mod_cast (by omega : base row clock + count ≤ 2 ^ 53)
    rw [hexact, bigintOf, if_pos hbound, Int.floor_natCast, Int.toNat_natCast]
  rw [updateRow, hbigint]
  rfl

/-! ## The machine -/

/-- Where a call is. -/
inductive Phase where
  /-- Its transaction has begun. -/
  | begun
  /-- It has read its clock, and waits for the rows. -/
  | timed (clock : Int)
  /-- It has the rows locked, and has written `rows`. -/
  | counted (clock : Int) (rows : List QuotaRow)
  | committed
  | refused
  | failed

/-- A `consume` at work. -/
structure Call where
  /-- The instant its transaction began. -/
  start : Int
  count : Nat
  phase : Phase

/-- The quotas and the calls on them. -/
structure State where
  /-- The customer's quotas, as they are committed. -/
  rows : List QuotaRow
  /-- The call that has the rows locked. -/
  holder : Option Nat
  calls : Nat → Option Call
  /-- What has been committed: by which clock, and how many. -/
  done : List (Int × Nat)

/-- A quota as it is created on a day. -/
def QuotaRow.fresh (id customerId : String) (period : QuotaPeriod) (limit : Nat) (day : UtcDate) :
    QuotaRow := ⟨id, customerId, period, limit, 0, day⟩

/-- The customer's quotas have been created: for each its id, period, limit and day. -/
def init (customerId : String) (quotas : List (String × QuotaPeriod × Nat × UtcDate)) : State where
  rows := quotas.map fun (id, period, limit, day) => QuotaRow.fresh id customerId period limit day
  holder := none
  calls _ := none
  done := []

/-- One step of one call. -/
inductive Action where
  | begin (i : Nat) (start : Int) (count : Nat)
  | readClock (i : Nat) (clock : Int)
  /-- The rows are locked, counted and written, or the call is refused. -/
  | consume (i : Nat)
  | commit (i : Nat) (ack : Ack)
  /-- Anything else throws, and the transaction is rolled back. -/
  | fail (i : Nat)

def State.setCall (s : State) (i : Nat) (call : Call) (phase : Phase) : State :=
  { s with calls := update s.calls i (some { call with phase := phase }) }

/-- The lock is given up, if the call has it. -/
def State.unlock (s : State) (i : Nat) : State :=
  { s with holder := if s.holder = some i then none else s.holder }

theorem setCall_calls (s : State) (i : Nat) (call : Call) (phase : Phase) :
    (s.setCall i call phase).calls =
      update s.calls i (some { call with phase := phase }) := rfl

/-- The step of a call. -/
def callStep (s : State) (i : Nat) (call : Call) : Phase → Action → Option State
  | .begun, .readClock _ clock => some (s.setCall i call (.timed clock))
  | .timed clock, .consume _ =>
    if s.holder.isSome then none
    else match consumeRows s.rows call.count (utcDate call.start) (utcDate clock) with
      | .ok rows => some ({ s with holder := some i }.setCall i call (.counted clock rows))
      | .error _ => some (s.setCall i call .refused)
  | .counted clock rows, .commit _ ack =>
    if ack.committed then
      some ({ s.unlock i with rows := rows, done := s.done ++ [(clock, call.count)] }.setCall i call
        .committed)
    else some ((s.unlock i).setCall i call .failed)
  | .begun, .fail _ => some (s.setCall i call .failed)
  | .timed _, .fail _ => some (s.setCall i call .failed)
  | .counted _ _, .fail _ => some ((s.unlock i).setCall i call .failed)
  | _, _ => none

/-- One step of one call. -/
def step (s : State) (a : Action) : Option State :=
  match a with
  | .begin i start count =>
    -- a count is a positive number
    if (s.calls i).isSome ∨ count = 0 ∨ Binary64.round count ≠ count then none
    else some (s.setCall i ⟨start, count, .begun⟩ .begun)
  | .readClock i _ | .consume i | .commit i _ | .fail i =>
    (s.calls i).bind fun call => callStep s i call call.phase a

/-- The machine. -/
def quotas : Transition.System State Action := ⟨step⟩

/-! ## What the quotas are for -/

/-- How many messages have been committed in a window. -/
def total (done : List (Int × Nat)) (period : QuotaPeriod) (window : Int × Nat × Nat) : Nat :=
  ((done.filter fun c => windowOf period (utcDate c.1) = window).map Prod.snd).sum

/-- **A quota holds**: in every window what has been committed is within the limit, and in the
row's own the counter says how much that is. -/
def Holds (done : List (Int × Nat)) (row : QuotaRow) : Prop :=
  (∀ window, total done row.period window ≤ row.limitCount) ∧
    row.usedCount = total done row.period (windowOf row.period row.windowStart)

/-- A call that has been refused has changed nothing: the rows change only with a commit, and a call
that has committed has not been refused. -/
def RefusalsKeep (s : State) : Prop :=
  ∀ a s', step s a = some s' →
    (s'.rows ≠ s.rows → ∃ i ack call, a = .commit i ack ∧ s'.calls i = some call ∧
      call.phase = .committed) ∧
    ∀ i call, s.calls i = some call → call.phase = .committed → s'.calls i = some call

/-- No window goes over its limit, and a refusal changes nothing. -/
def QuotasHold (s : State) : Prop := (∀ row ∈ s.rows, Holds s.done row) ∧ RefusalsKeep s

/-- What a run is asked for when a call commits: the limits are safe integers, and a call that
starts a window began in it, and is the first to commit in it. -/
def InOrder (s : State) : Action → Prop
  | .commit i _ => ∀ call ∈ s.calls i,
      match call.phase with
      | .counted clock _ => ∀ row ∈ s.rows, row.limitCount < 2 ^ 53 ∧
          (windowElapsed row.period row.windowStart (utcDate clock) = true →
            windowOf row.period (utcDate call.start) = windowOf row.period (utcDate clock) ∧
              ∀ c ∈ s.done,
                windowOf row.period (utcDate c.1) ≠ windowOf row.period (utcDate clock))
      | _ => True
  | _ => True

instance (s : State) (a : Action) : Decidable (InOrder s a) := by
  unfold InOrder
  split
  · refine @Option.decidableForallMem _ _ ?_ _
    intro call
    dsimp only
    split <;> infer_instance
  · infer_instance

/-! ## The invariant -/

theorem total_append (done : List (Int × Nat)) (period : QuotaPeriod) (window : Int × Nat × Nat)
    (clock : Int) (count : Nat) :
    total (done ++ [(clock, count)]) period window =
      total done period window + if windowOf period (utcDate clock) = window then count else 0 := by
  rw [total, total, List.filter_append, List.map_append, List.sum_append]
  by_cases h : windowOf period (utcDate clock) = window <;> simp [h]

theorem total_eq_zero {period : QuotaPeriod} {window : Int × Nat × Nat}
    (h : ∀ c ∈ done, windowOf period (utcDate c.1) ≠ window) : total done period window = 0 := by
  have hnone : (done.filter fun c => windowOf period (utcDate c.1) = window) = [] :=
    List.filter_eq_nil_iff.mpr fun c hc => by simpa using h c hc
  rw [total, hnone]
  rfl

/-- A quota that holds goes on holding when a call is counted in order. -/
theorem Holds.counted {start clock : Int} (h : Holds done row)
    (hlimit : base row (utcDate clock) + count ≤ row.limitCount)
    (horder : windowElapsed row.period row.windowStart (utcDate clock) = true →
      windowOf row.period (utcDate start) = windowOf row.period (utcDate clock) ∧
        ∀ c ∈ done, windowOf row.period (utcDate c.1) ≠ windowOf row.period (utcDate clock)) :
    Holds (done ++ [(clock, count)]) (Quotas.counted count (utcDate start) (utcDate clock) row) := by
  -- what had been counted in the clock's window is the base
  have hbase : total done row.period (windowOf row.period (utcDate clock)) =
      base row (utcDate clock) := by
    rw [base]
    by_cases helapsed : windowElapsed row.period row.windowStart (utcDate clock) = true
    · rw [if_pos helapsed, total_eq_zero (horder helapsed).2]
    · rw [if_neg helapsed, h.2]
      rw [windowElapsed_iff, not_not] at helapsed
      rw [helapsed]
  refine ⟨fun window => ?_, ?_⟩
  · rw [total_append]
    by_cases hwindow : windowOf row.period (utcDate clock) = window
    · subst hwindow
      rw [Quotas.counted, QuotaRow.consumed]
      rw [if_pos rfl, hbase]
      exact hlimit
    · have hle := h.1 window
      rw [Quotas.counted, QuotaRow.consumed]
      rw [if_neg hwindow, Nat.add_zero]
      exact hle
  · -- the row's window is the clock's
    have hsame : windowOf row.period (Quotas.counted count (utcDate start) (utcDate clock)
        row).windowStart = windowOf row.period (utcDate clock) := by
      rw [Quotas.counted]
      by_cases helapsed : windowElapsed row.period row.windowStart (utcDate clock) = true
      · rw [if_pos helapsed, (horder helapsed).1]
      · rw [if_neg helapsed]
        rwa [windowElapsed_iff, not_not] at helapsed
    show base row (utcDate clock) + count = total _ row.period (windowOf row.period _)
    rw [hsame, total_append, if_pos rfl, hbase]

theorem Holds.used_le (h : Holds done row) :
    row.usedCount ≤ row.limitCount := h.2 ▸ h.1 _

/-- What a step on the quotas keeps. -/
structure Inv (s : State) : Prop where
  rows : ∀ row ∈ s.rows, Holds s.done row
  /-- What a call has written is what it counted of the committed rows, which it has locked. -/
  counted : ∀ i call clock rows, s.calls i = some call → call.phase = .counted clock rows →
    s.holder = some i ∧
      consumeRows s.rows call.count (utcDate call.start) (utcDate clock) = .ok rows

theorem inv_init (customerId : String) (quotas : List (String × QuotaPeriod × Nat × UtcDate)) :
    Inv (init customerId quotas) where
  rows row hrow := by
    obtain ⟨⟨id, period, limit, day⟩, -, rfl⟩ := List.mem_map.mp hrow
    exact ⟨fun _ => Nat.zero_le _, rfl⟩
  counted _ _ _ _ h := by cases h

theorem consumeRows_ok {rows rows' : List QuotaRow} {start : UtcDate}
    (h : consumeRows rows count start clock = .ok rows') :
    (∀ row ∈ rows, ¬ Exceeds row count clock) ∧
      rows.mapM (updateRow count start clock) = some rows' := by
  rw [consumeRows] at h
  split at h
  · cases h
  · next hfound =>
    refine ⟨fun row hrow => by simpa using List.find?_eq_none.mp hfound row hrow, ?_⟩
    split at h
    · next hupdated => rw [hupdated, Except.ok.inj h]
    · cases h

theorem mem_of_mapM {α β : Type} {f : α → Option β} {l : List α} {l' : List β}
    (h : l.mapM f = some l') {b : β} (hb : b ∈ l') : ∃ a ∈ l, f a = some b := by
  induction l generalizing l' with
  | nil =>
    obtain rfl : [] = l' := by simpa using h
    cases hb
  | cons a l ih =>
    rw [List.mapM_cons] at h
    obtain ⟨c, hc, h⟩ := bind_eq_some_iff.mp h
    obtain ⟨rest, hrest, h⟩ := bind_eq_some_iff.mp h
    cases h
    rcases List.mem_cons.mp hb with rfl | hb
    · exact ⟨a, List.mem_cons_self .., hc⟩
    · obtain ⟨a', ha', hfa'⟩ := ih hrest hb
      exact ⟨a', List.mem_cons_of_mem _ ha', hfa'⟩

section Step

variable {s s' : State}

/-- A call moves on, to anywhere but having counted. -/
theorem Inv.setCall (h : Inv s) (i : Nat) (call : Call) {phase : Phase}
    (hphase : ∀ clock rows, phase ≠ .counted clock rows) : Inv (s.setCall i call phase) where
  rows := h.rows
  counted j other clock rows hother hcounted := by
    rw [setCall_calls] at hother
    rcases Updates.update_eq_some hother with ⟨rfl, rfl⟩ | ⟨hj, hother⟩
    · exact absurd hcounted (hphase clock rows)
    · exact h.counted j other clock rows hother hcounted

variable {i : Nat} {call : Call} {a : Action}

/-- A call that has counted ends: nobody else has counted, and so whatever the rows are now. -/
theorem Inv.finish (h : Inv s) {phase : Phase} {rows : List QuotaRow} {done : List (Int × Nat)}
    (hholder : s.holder = some i) (hphase : ∀ clock rows, phase ≠ .counted clock rows)
    (hrows : ∀ row ∈ rows, Holds done row) :
    Inv ({ s.unlock i with rows := rows, done := done }.setCall i call phase) where
  rows := hrows
  counted j other clock rows' hother hcounted := by
    rw [setCall_calls] at hother
    rcases Updates.update_eq_some hother with ⟨rfl, rfl⟩ | ⟨hj, hother⟩
    · exact absurd hcounted (hphase clock rows')
    · have hother' := (h.counted j other clock rows' hother hcounted).1
      rw [hholder] at hother'
      exact absurd (some.inj hother').symm hj

theorem Inv.callStep (h : Inv s) (hcall : s.calls i = some call) (horder : InOrder s a)
    (hi : (∃ clock, a = .readClock i clock) ∨ a = .consume i ∨ (∃ ack, a = .commit i ack) ∨
      a = .fail i) (hstep : callStep s i call call.phase a = some s') : Inv s' := by
  rcases hphase : call.phase with _ | clock | ⟨clock, rows⟩ | _ | _ | _ <;>
    rw [hphase] at hstep <;> rcases hi with ⟨clock', rfl⟩ | rfl | ⟨ack, rfl⟩ | rfl <;>
    simp only [Quotas.callStep, reduceCtorEq, some.injEq] at hstep
  · subst hstep
    exact h.setCall i call fun _ _ heq => by cases heq
  · subst hstep
    exact h.setCall i call fun _ _ heq => by cases heq
  · -- the rows are free, and are locked or the call is refused
    split at hstep
    · cases hstep
    · next hfree =>
      split at hstep
      · next rows hrows =>
        cases hstep
        refine ⟨h.rows, fun j other clock' rows' hother hcounted => ?_⟩
        rw [setCall_calls] at hother
        rcases Updates.update_eq_some hother with ⟨rfl, rfl⟩ | ⟨hj, hother⟩
        · obtain ⟨rfl, rfl⟩ := Phase.counted.inj hcounted
          exact ⟨rfl, hrows⟩
        · exact absurd (isSome_iff_exists.mpr ⟨j,
            (h.counted j other clock' rows' hother hcounted).1⟩) hfree
      · cases hstep
        exact h.setCall i call fun _ _ heq => by cases heq
  · subst hstep
    exact h.setCall i call fun _ _ heq => by cases heq
  · -- the commit
    obtain ⟨hholder, hconsumed⟩ := h.counted i call clock rows hcall hphase
    split at hstep
    · cases hstep
      refine h.finish hholder (fun _ _ heq => by cases heq) fun row hrow => ?_
      obtain ⟨hwithin, hupdated⟩ := consumeRows_ok hconsumed
      obtain ⟨old, hold, hnew⟩ := mem_of_mapM hupdated hrow
      have hordered := horder call hcall
      simp only [hphase] at hordered
      obtain ⟨hsafe, hwindow⟩ := hordered old hold
      have hholds := h.rows old hold
      rw [updateRow_eq hsafe hholds.used_le (hwithin old hold)] at hnew
      cases hnew
      exact hholds.counted (not_exceeds hsafe hholds.used_le (hwithin old hold)).1 hwindow
    · cases hstep
      exact h.finish hholder (fun _ _ heq => by cases heq) h.rows
  · subst hstep
    exact h.finish (h.counted i call clock rows hcall hphase).1 (fun _ _ heq => by cases heq) h.rows

theorem inv_step (h : Inv s) (horder : InOrder s a) (hstep : step s a = some s') : Inv s' := by
  cases a with
  | begin i start count =>
    rw [step] at hstep
    split at hstep
    · cases hstep
    · cases hstep
      exact h.setCall i _ fun _ _ heq => by cases heq
  | _ =>
    obtain ⟨call, hcall, hstep⟩ := bind_eq_some_iff.mp hstep
    exact h.callStep hcall horder (by simp) hstep

/-- Only a commit changes the rows, and what has committed stays so. -/
theorem callStep_keeps
    (hi : (∃ clock, a = .readClock i clock) ∨ a = .consume i ∨ (∃ ack, a = .commit i ack) ∨
      a = .fail i) (hstep : callStep s i call call.phase a = some s') :
    call.phase ≠ .committed ∧ (∀ j, j ≠ i → s'.calls j = s.calls j) ∧
      (s'.rows ≠ s.rows → ∃ ack call', a = .commit i ack ∧ s'.calls i = some call' ∧
        call'.phase = .committed) := by
  rcases hphase : call.phase with _ | clock | ⟨clock, rows⟩ | _ | _ | _ <;>
    rw [hphase] at hstep <;> rcases hi with ⟨clock', rfl⟩ | rfl | ⟨ack, rfl⟩ | rfl <;>
    simp only [Quotas.callStep, reduceCtorEq, some.injEq] at hstep <;>
    refine ⟨by simp, ?_⟩
  · subst hstep
    exact ⟨fun j hj => update_of_ne hj .., fun hne => absurd rfl hne⟩
  · subst hstep
    exact ⟨fun j hj => update_of_ne hj .., fun hne => absurd rfl hne⟩
  · split at hstep
    · cases hstep
    · split at hstep <;> obtain rfl := some.inj hstep <;>
        exact ⟨fun j hj => update_of_ne hj .., fun hne => absurd rfl hne⟩
  · subst hstep
    exact ⟨fun j hj => update_of_ne hj .., fun hne => absurd rfl hne⟩
  · split at hstep <;> cases hstep
    · exact ⟨fun j hj => update_of_ne hj .., fun _ =>
        ⟨ack, _, rfl, Function.update_self .., rfl⟩⟩
    · exact ⟨fun j hj => update_of_ne hj .., fun hne => absurd rfl hne⟩
  · subst hstep
    exact ⟨fun j hj => update_of_ne hj .., fun hne => absurd rfl hne⟩

theorem refusals_keep (s : State) : RefusalsKeep s := by
  intro a s' hstep
  have hof : ∀ i, (s.calls i).bind (fun call => callStep s i call call.phase a) = some s' →
      ((∃ clock, a = .readClock i clock) ∨ a = .consume i ∨ (∃ ack, a = .commit i ack) ∨
        a = .fail i) →
      (s'.rows ≠ s.rows → ∃ i ack call, a = .commit i ack ∧ s'.calls i = some call ∧
        call.phase = .committed) ∧
      ∀ i call, s.calls i = some call → call.phase = .committed → s'.calls i = some call := by
    intro i hbound hi
    obtain ⟨call, hcall, hstep⟩ := bind_eq_some_iff.mp hbound
    obtain ⟨hnot, hothers, hrows⟩ := callStep_keeps hi hstep
    refine ⟨fun hne => ⟨i, hrows hne⟩, fun j other hother hcommitted => ?_⟩
    by_cases hj : j = i
    · subst hj
      obtain rfl := some.inj (hcall.symm.trans hother)
      exact absurd hcommitted hnot
    · rw [hothers j hj, hother]
  cases a with
  | begin i start count =>
    rw [step] at hstep
    split at hstep
    · cases hstep
    · next hfree =>
      cases hstep
      refine ⟨fun hne => absurd rfl hne, fun j other hother _ => ?_⟩
      have hj : j ≠ i := by
        rintro rfl
        exact hfree (.inl (isSome_iff_exists.mpr ⟨other, hother⟩))
      rw [setCall_calls, update_of_ne hj]
      exact hother
  | readClock i _ | consume i | commit i _ | fail i => exact hof i hstep (by simp)

end Step

/-- **The quotas hold** in every run whose windows come in order. -/
theorem quotas_hold {customerId : String} {limits : List (String × QuotaPeriod × Nat × UtcDate)}
    {s : State} {as : List Action} (horder : quotas.Along InOrder (init customerId limits) as)
    (hrun : quotas.run (init customerId limits) as = some s) : QuotasHold s := by
  have h : Inv s := quotas.invariant_along (fun _ _ _ hi hP hstep => inv_step hi hP hstep)
    (inv_init customerId limits) horder hrun
  exact ⟨h.rows, refusals_keep s⟩

/-! Runs of a customer with ten messages a day, around midnight. -/

/-- The quota, created on the first day of 1970. -/
def tenADay : State := init "acme" [("quota", .daily, 10, utcDate 0)]

/-- A call of `count` messages whose transaction begins at `start`. -/
def consumes (i : Nat) (start clock : Int) (count : Nat) : List Action :=
  [.begin i start count, .readClock i clock, .consume i, .commit i .ok]

/-- Ten messages on either side of midnight, and one that is refused. -/
def orderlyRun : List Action :=
  consumes 0 1000 1000 10 ++ consumes 1 86400000 86400001 10 ++
    [.begin 2 86400002 1, .readClock 2 86400003, .consume 2]

theorem quotas_hold_orderlyRun :
    ∃ s, quotas.run tenADay orderlyRun = some s ∧ s.done.length = 2 ∧ QuotasHold s := by
  have hchecked : quotas.check InOrder tenADay orderlyRun = true := by decide +kernel
  have hends : (quotas.run tenADay orderlyRun).any (fun s => s.done.length = 2) = true := by
    decide +kernel
  obtain ⟨s, hs, hdone⟩ := quotas.exists_run _ hends
  exact ⟨s, hs, of_decide_eq_true hdone, quotas_hold (quotas.along_of_check _ hchecked) hs⟩

/-- A transaction begins before midnight and reads its clock after it, and another follows. -/
def lateRun : List Action :=
  consumes 0 86399999 86400001 10 ++ consumes 1 86400002 86400003 10

/-- **A window comes back**: the first call has the new day's window begin the day before, and the
second starts it again. -/
theorem window_comes_back : ∃ s, quotas.run tenADay lateRun = some s ∧ ¬ QuotasHold s := by
  have hends : (quotas.run tenADay lateRun).any (fun s => ∃ row ∈ s.rows,
      row.limitCount < total s.done row.period (1970, 1, 2)) = true := by decide +kernel
  obtain ⟨s, hs, hmore⟩ := quotas.exists_run _ hends
  obtain ⟨row, hrow, hlt⟩ := of_decide_eq_true hmore
  exact ⟨s, hs, fun h => absurd ((h.1 row hrow).1 _) (Nat.not_le.mpr hlt)⟩

end Jkannel.Customers.Quotas
