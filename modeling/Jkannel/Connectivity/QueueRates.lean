import Jkannel.Lib.Telescope
import Jkannel.Lib.Transition
import Mathlib.Analysis.Real.Sqrt

/-!
# The rates of a queue

The engine reports how many messages wait and how many were sent since it started; what enters and
leaves per second is derived from a list of such samples, in any order.

* `deriveQueueRates` is the function of the source over exact rationals: an interval in which the
  counter went backwards, or no time passed, is left out of the egress.
* `queue` is a queue with messages that arrive and leave, an engine that restarts, and observations;
  it also counts what the samples do not show.
* `Conserved` is the promise: the rates are those of the intervals that were measured.
* `queue_rates_iff` says for which observations it is kept.  The growth is taken over the whole
  window, and only agrees with the rates where the intervals left out changed the depth alike.
-/

namespace Jkannel.Connectivity.QueueMetrics

open List
open Telescope Transition

/-! ## The rates -/

/-- One look at the queue. -/
structure QueueSample where
  queued : ℚ
  sent : ℚ
  /-- Milliseconds; `none` where the text is not a date. -/
  observedAt : Option ℚ

/-- The rates computed from the looks. -/
structure QueueRates where
  depth : Option ℚ
  ingressPerSecond : Option ℚ
  egressPerSecond : Option ℚ
  growthPerSecond : Option ℚ
  drainSeconds : Option ℚ
  drainUnavailableReason : Option String
  windowSeconds : Option ℚ
  samples : Nat
  resetsDetected : Nat

/-- 0.6. -/
def VOLATILITY_LIMIT : ℚ := 3 / 5

/-- The rates of no look at all. -/
def EMPTY : QueueRates where
  depth := none
  ingressPerSecond := none
  egressPerSecond := none
  growthPerSecond := none
  drainSeconds := none
  drainUnavailableReason := some "No observations in the window."
  windowSeconds := none
  samples := 0
  resetsDetected := 0

/-- A sample whose date could be read. -/
structure Timed where
  queued : ℚ
  sent : ℚ
  time : ℚ

def QueueSample.timed (sample : QueueSample) : Option Timed :=
  sample.observedAt.map fun time => ⟨sample.queued, sample.sent, time⟩

/-- The looks by time, undated ones left out. -/
def ordered (samples : List QueueSample) : List Timed :=
  (samples.filterMap QueueSample.timed).insertionSort fun a b => a.time ≤ b.time

/-- What the loop over the intervals gathers. -/
structure Totals where
  perInterval : List ℚ
  resetsDetected : Nat
  totalSent : ℚ
  totalSeconds : ℚ

def Totals.zero : Totals := ⟨[], 0, 0, 0⟩

/-- The body of the loop, for `previous` and `current`. -/
def measure (t : Totals) (p : Timed × Timed) : Totals :=
  let seconds := (p.2.time - p.1.time) / 1000
  let delta := p.2.sent - p.1.sent
  if seconds ≤ 0 then t
  else if delta < 0 then { t with resetsDetected := t.resetsDetected + 1 }
  else
    { t with
      perInterval := t.perInterval ++ [delta / seconds]
      totalSent := t.totalSent + delta
      totalSeconds := t.totalSeconds + seconds }

def mean (rates : List ℚ) : ℚ := rates.sum / rates.length

def variance (rates : List ℚ) : ℚ :=
  (rates.map fun rate => (rate - mean rates) ^ 2).sum / rates.length

/-- Relative standard deviation of the per-interval rates.  The root is compared by its square
(`isVolatile_iff`). -/
def isVolatile (rates : List ℚ) : Bool :=
  if rates.length < 3 then false
  else if mean rates ≤ 0 then true
  else decide (variance rates > (VOLATILITY_LIMIT * mean rates) ^ 2)

/-- The seconds to empty, or why not. -/
def drainEstimate (depth egressPerSecond : ℚ) (perInterval : List ℚ) (resetsDetected : Nat) :
    Option ℚ × Option String :=
  if depth ≤ 0 then (some 0, none)
  else if egressPerSecond ≤ 0 then
    (none, some "Nothing is leaving this queue, so it will not drain at the current rate.")
  else if resetsDetected ≠ 0 then
    (none, some ("The engine restarted during this window, so the measured rate is not a " ++
      "reliable basis for an estimate."))
  else if isVolatile perInterval then
    (none, some ("Throughput is varying too much across this window for a drain estimate to " ++
      "mean anything."))
  else (some (depth / egressPerSecond), none)

/-- The rates of two samples or more, from the first to the last. -/
def ratesOver (first last : Timed) (all : List Timed) : QueueRates :=
  let t := all.consecutivePairs.foldl measure Totals.zero
  let windowSeconds := (last.time - first.time) / 1000
  if t.perInterval = [] then
    { EMPTY with
      depth := some last.queued
      samples := all.length
      windowSeconds := some windowSeconds
      resetsDetected := t.resetsDetected
      drainUnavailableReason := some
        (if t.resetsDetected ≠ 0 then
          "The engine restarted during this window, so throughput could not be measured."
        else "No usable interval between observations.") }
  else
    let egressPerSecond := t.totalSent / t.totalSeconds
    let depthChange := last.queued - first.queued
    let growthPerSecond := if windowSeconds > 0 then depthChange / windowSeconds else 0
    let ingressPerSecond := max 0 (growthPerSecond + egressPerSecond)
    let drain := drainEstimate last.queued egressPerSecond t.perInterval t.resetsDetected
    { depth := some last.queued
      ingressPerSecond := some ingressPerSecond
      egressPerSecond := some egressPerSecond
      growthPerSecond := some growthPerSecond
      drainSeconds := drain.1
      drainUnavailableReason := drain.2
      windowSeconds := some windowSeconds
      samples := all.length
      resetsDetected := t.resetsDetected }

/-- The rates shown of the looks. -/
def deriveQueueRates (samples : List QueueSample) : QueueRates :=
  match ordered samples with
  | [] => EMPTY
  | [only] =>
    { EMPTY with
      depth := some only.queued
      samples := 1
      drainUnavailableReason := some
        "Only one observation so far; a rate needs at least two to measure against." }
  | first :: second :: rest => ratesOver first (rest.getLastD second) (first :: second :: rest)

/-- The comparison of squares is the comparison of the source. -/
theorem isVolatile_iff {rates : List ℚ} (hlength : 3 ≤ rates.length) (hmean : 0 < mean rates) :
    isVolatile rates = true ↔
      √(variance rates : ℝ) / (mean rates : ℝ) > (VOLATILITY_LIMIT : ℝ) := by
  have hmean' : (0 : ℝ) < (mean rates : ℝ) := Rat.cast_pos.mpr hmean
  have hlimit : (0 : ℝ) ≤ (VOLATILITY_LIMIT : ℝ) * (mean rates : ℝ) := by
    rw [VOLATILITY_LIMIT]
    positivity
  rw [isVolatile, if_neg (Nat.not_lt.mpr hlength), if_neg (not_le.mpr hmean), decide_eq_true_eq,
    gt_iff_lt, gt_iff_lt, lt_div_iff₀ hmean', Real.lt_sqrt hlimit]
  norm_cast

/-! ## A queue that is observed -/

/-- A queue, with what came, what left and what a restart took off the counter, which no sample
shows. -/
structure Queue where
  /-- Milliseconds. -/
  clock : Nat
  queued : Nat
  sent : Nat
  arrived : Nat
  left : Nat
  /-- What the counter had counted when it went back to zero, over all restarts. -/
  forgotten : Nat

/-- A queue and the looks taken of it. -/
structure Watched where
  queue : Queue
  log : List Queue

/-- What happens to the queue. -/
inductive Action where
  | wait (milliseconds : Nat)
  | arrive (count : Nat)
  | leave (count : Nat)
  | restart
  | observe

/-- What happens to the queue and its log. -/
@[grind =] def step (w : Watched) : Action → Option Watched
  | .wait milliseconds => some { w with queue.clock := w.queue.clock + milliseconds }
  | .arrive count =>
    some { w with
      queue.queued := w.queue.queued + count
      queue.arrived := w.queue.arrived + count }
  | .leave count =>
    if count ≤ w.queue.queued then
      some { w with
        queue.queued := w.queue.queued - count
        queue.sent := w.queue.sent + count
        queue.left := w.queue.left + count }
    else none
  | .restart =>
    some { w with
      queue.sent := 0
      queue.forgotten := w.queue.forgotten + w.queue.sent }
  | .observe => some { w with log := w.log ++ [w.queue] }

/-- The watched queue as a system. -/
def queue : System Watched Action := ⟨step⟩

def Queue.sample (q : Queue) : QueueSample := ⟨q.queued, q.sent, some q.clock⟩

/-! ## What is promised -/

/-- The intervals between consecutive observations. -/
def intervals (samples : List Queue) : List (Queue × Queue) :=
  (samples.insertionSort fun a b => a.clock ≤ b.clock).consecutivePairs

/-- Time passed, and the counter was not seen to go backwards. -/
def isMeasured (p : Queue × Queue) : Bool :=
  decide (p.1.clock < p.2.clock) && decide (p.1.sent ≤ p.2.sent)

/-- The intervals that are counted. -/
def measured (samples : List Queue) : List (Queue × Queue) := (intervals samples).filter isMeasured

/-- The intervals that are not. -/
def leftOut (samples : List Queue) : List (Queue × Queue) :=
  (intervals samples).filter fun p => !isMeasured p

/-- The messages that a counter of the queue rose by, per second of the intervals. -/
def perSecond (f : Queue → Nat) (ps : List (Queue × Queue)) : ℚ :=
  change (fun q => (f q : ℚ)) ps / (change (fun q => (q.clock : ℚ)) ps / 1000)

def rates (samples : List Queue) : QueueRates := deriveQueueRates (samples.map Queue.sample)

/-- The rates are those of the traffic. -/
structure Conserved (samples : List Queue) : Prop where
  egress : ∀ e, (rates samples).egressPerSecond = some e →
    e = perSecond Queue.left (measured samples)
  ingress : ∀ i, (rates samples).ingressPerSecond = some i →
    i = perSecond Queue.arrived (measured samples)
  growth : ∀ g, (rates samples).growthPerSecond = some g →
    ∃ i e, (rates samples).ingressPerSecond = some i ∧ (rates samples).egressPerSecond = some e ∧
      g = i - e
  /-- The division is never one by zero. -/
  drain : ∀ d, (rates samples).drainSeconds = some d → 0 ≤ d ∧
    ((rates samples).depth = some 0 ∧ d = 0 ∨
      ∃ depth e, (rates samples).depth = some depth ∧ (rates samples).egressPerSecond = some e ∧
        0 < e ∧ d * e = depth)

/-! ## What a queue does between two moments -/

/-- What holds from a moment to a later one. -/
structure Before (a b : Queue) : Prop where
  clock : a.clock ≤ b.clock
  arrived : a.arrived ≤ b.arrived
  left : a.left ≤ b.left
  forgotten : a.forgotten ≤ b.forgotten
  conserved : b.queued + b.left + a.arrived = a.queued + a.left + b.arrived
  counted : b.sent + b.forgotten + a.left = a.sent + a.forgotten + b.left

theorem Before.refl (a : Queue) : Before a a := by
  constructor <;> omega

theorem Before.trans {a b c : Queue} (h : Before a b) (h' : Before b c) : Before a c where
  clock := Nat.le_trans h.clock h'.clock
  arrived := Nat.le_trans h.arrived h'.arrived
  left := Nat.le_trans h.left h'.left
  forgotten := Nat.le_trans h.forgotten h'.forgotten
  conserved := by
    have := h.conserved
    have := h'.conserved
    omega
  counted := by
    have := h.counted
    have := h'.counted
    omega

/-- What one action does: the queue moves on, or it is observed. -/
theorem step_cases {w w' : Watched} {a : Action} (h : step w a = some w') :
    (w'.log = w.log ∧ Before w.queue w'.queue) ∨
      (w'.log = w.log ++ [w.queue] ∧ w'.queue = w.queue) := by
  cases a with
  | wait _ | arrive _ | restart =>
    cases h
    exact .inl ⟨rfl, by constructor <;> dsimp only <;> omega⟩
  | leave count =>
    rw [step] at h
    split at h
    · cases h
      exact .inl ⟨rfl, by constructor <;> dsimp only <;> omega⟩
    · cases h
  | observe =>
    cases h
    exact .inr ⟨rfl, rfl⟩

/-- Each observation was made before the next, and before now. -/
def Watched.Ordered (w : Watched) : Prop :=
  w.log.Pairwise Before ∧ ∀ o ∈ w.log, Before o w.queue

theorem ordered_step {w w' : Watched} {a : Action} (h : w.Ordered) (hstep : step w a = some w') :
    w'.Ordered := by
  obtain ⟨hlog, hqueue⟩ | ⟨hlog, hqueue⟩ := step_cases hstep
  · rw [Watched.Ordered, hlog]
    exact ⟨h.1, fun o ho => (h.2 o ho).trans hqueue⟩
  · rw [Watched.Ordered, hlog, hqueue, pairwise_append]
    refine ⟨⟨h.1, pairwise_singleton .., fun o ho o' ho' => ?_⟩, fun o ho => ?_⟩
    · obtain rfl := mem_singleton.mp ho'
      exact h.2 o ho
    · obtain ho | ho := mem_append.mp ho
      · exact h.2 o ho
      · obtain rfl := mem_singleton.mp ho
        exact Before.refl _

theorem ordered_run {start : Queue} {actions : List Action} {w : Watched}
    (h : queue.run ⟨start, []⟩ actions = some w) : w.Ordered :=
  queue.invariant_run (fun _ _ _ => ordered_step)
    ⟨List.Pairwise.nil, fun o ho => by cases ho⟩ h

/-- **An interval that was measured** runs from a moment to a later one. -/
theorem before_of_measured {w : Watched} (h : w.Ordered) {samples : List Queue}
    (hs : samples.Perm w.log) {p : Queue × Queue} (hp : p ∈ measured samples) : Before p.1 p.2 := by
  obtain ⟨hp, htime⟩ := mem_filter.mp hp
  obtain ⟨h1, h2⟩ := mem_of_mem_consecutivePairs hp
  rw [mem_insertionSort] at h1 h2
  have hlater : p.1.clock < p.2.clock :=
    of_decide_eq_true (Bool.and_eq_true_iff.mp htime).1
  have hne : p.1 ≠ p.2 := fun heq => Nat.lt_irrefl _ (heq ▸ hlater)
  have hsymm : Std.Symm fun a b : Queue => Before a b ∨ Before b a := ⟨fun _ _ => Or.symm⟩
  have heither : w.log.Pairwise fun a b => Before a b ∨ Before b a := h.1.imp .inl
  obtain hle | hge := heither.forall (hs.mem_iff.mp h1) (hs.mem_iff.mp h2) hne
  · exact hle
  · exact absurd hge.clock (Nat.not_le.mpr hlater)

/-! ## What the loop gathers -/

def Queue.timed (q : Queue) : Timed := ⟨q.queued, q.sent, q.clock⟩

theorem ordered_samples (samples : List Queue) :
    ordered (samples.map Queue.sample) =
      (samples.insertionSort fun a b => a.clock ≤ b.clock).map Queue.timed := by
  have hmap : (samples.map Queue.sample).filterMap QueueSample.timed = samples.map Queue.timed := by
    rw [filterMap_map]
    exact congrFun (filterMap_eq_map (f := Queue.timed)) samples
  rw [ordered, hmap]
  refine (map_insertionSort _ _ Queue.timed samples fun a _ b _ => ?_).symm
  exact Nat.cast_le.symm

/-- The counter went back in between. -/
def isReset (p : Queue × Queue) : Bool :=
  decide (p.1.clock < p.2.clock) && decide (p.2.sent < p.1.sent)

def rate (p : Queue × Queue) : ℚ :=
  ((p.2.sent : ℚ) - p.1.sent) / (((p.2.clock : ℚ) - p.1.clock) / 1000)

/-- One turn of the loop. -/
theorem measure_timed (t : Totals) (p : Queue × Queue) :
    measure t (Prod.map Queue.timed Queue.timed p) =
      { perInterval := t.perInterval ++ ([p].filter isMeasured).map rate
        resetsDetected := t.resetsDetected + [p].countP isReset
        totalSent := t.totalSent + change (fun q => (q.sent : ℚ)) ([p].filter isMeasured)
        totalSeconds :=
          t.totalSeconds + change (fun q => (q.clock : ℚ)) ([p].filter isMeasured) / 1000 } := by
  have hclock : ((p.2.clock : ℚ) - p.1.clock) / 1000 ≤ 0 ↔ ¬ p.1.clock < p.2.clock := by
    rw [Nat.not_lt, ← Nat.cast_le (α := ℚ)]
    constructor <;> intro h <;> linarith
  have hsent : (p.2.sent : ℚ) - p.1.sent < 0 ↔ p.2.sent < p.1.sent := by
    rw [sub_neg, Nat.cast_lt]
  simp only [measure, Prod.map, Queue.timed, hclock, hsent]
  by_cases hlater : p.1.clock < p.2.clock
  · rw [if_neg (not_not.mpr hlater)]
    by_cases hback : p.2.sent < p.1.sent
    · simp [hback, isMeasured, isReset, hlater]
    · simp [hback, isMeasured, isReset, hlater, Nat.not_lt.mp hback, rate, change]
  · simp [hlater, isMeasured, isReset]

theorem foldl_measure (ps : List (Queue × Queue)) (t : Totals) :
    (ps.map (Prod.map Queue.timed Queue.timed)).foldl measure t =
      { perInterval := t.perInterval ++ (ps.filter isMeasured).map rate
        resetsDetected := t.resetsDetected + ps.countP isReset
        totalSent := t.totalSent + change (fun q => (q.sent : ℚ)) (ps.filter isMeasured)
        totalSeconds :=
          t.totalSeconds + change (fun q => (q.clock : ℚ)) (ps.filter isMeasured) / 1000 } := by
  induction ps generalizing t with
  | nil => simp
  | cons p ps ih =>
    rw [map_cons, foldl_cons, ih, measure_timed]
    cases hm : isMeasured p with
    | true => simp [hm, change_cons, countP_cons, add_assoc, Nat.add_comm, add_div]
    | false =>
      simp [hm, countP_cons]
      omega

/-! ## The rates of a queue's samples -/

variable {samples : List Queue}

theorem exists_of_measured (hne : measured samples ≠ []) : ∃ first second rest,
    (samples.insertionSort fun a b => a.clock ≤ b.clock) = first :: second :: rest := by
  cases hsort : samples.insertionSort fun a b => a.clock ≤ b.clock with
  | nil => exact absurd (by rw [measured, intervals, hsort]; rfl) hne
  | cons first rest =>
    cases rest with
    | nil => exact absurd (by rw [measured, intervals, hsort]; rfl) hne
    | cons second rest => exact ⟨first, second, rest, rfl⟩

theorem change_clock_pos (hne : measured samples ≠ []) :
    0 < change (fun q => (q.clock : ℚ)) (measured samples) := by
  have hpos : ∀ x ∈ (measured samples).map fun p => (p.2.clock : ℚ) - p.1.clock, 0 < x := by
    intro x hx
    obtain ⟨p, hp, rfl⟩ := mem_map.mp hx
    have hlater := of_decide_eq_true (Bool.and_eq_true_iff.mp (mem_filter.mp hp).2).1
    exact sub_pos.mpr (Nat.cast_lt.mpr hlater)
  exact sum_pos _ hpos (by simpa using hne)

theorem change_clock_leftOut (samples : List Queue) :
    0 ≤ change (fun q => (q.clock : ℚ)) (leftOut samples) := by
  refine sum_nonneg fun x hx => ?_
  obtain ⟨p, hp, rfl⟩ := mem_map.mp hx
  have hle : p.1.clock ≤ p.2.clock :=
    rel_of_mem_consecutivePairs
      (List.pairwise_insertionSort (fun a b : Queue => a.clock ≤ b.clock) samples)
      (mem_filter.mp hp).1
  exact sub_nonneg.mpr (Nat.cast_le.mpr hle)

theorem change_intervals (f : Queue → ℚ) :
    change f (intervals samples) = change f (measured samples) + change f (leftOut samples) :=
  change_filter f isMeasured _

theorem totals_eq {first : Queue} {rest : List Queue}
    (hsort : (samples.insertionSort fun a b => a.clock ≤ b.clock) = first :: rest) :
    (first.timed :: rest.map Queue.timed).consecutivePairs.foldl measure Totals.zero =
      { perInterval := (measured samples).map rate
        resetsDetected := (intervals samples).countP isReset
        totalSent := change (fun q => (q.sent : ℚ)) (measured samples)
        totalSeconds := change (fun q => (q.clock : ℚ)) (measured samples) / 1000 } := by
  have hfold := foldl_measure (intervals samples) Totals.zero
  rw [intervals, ← consecutivePairs_map, hsort, map_cons] at hfold
  rw [hfold, measured, intervals, hsort]
  simp [Totals.zero]

/-- **The rates that are given** when an interval was measured: the egress is that of the measured
intervals, and the growth that of all. -/
theorem rates_of_measured (hne : measured samples ≠ []) :
    ∃ (last : Queue) (window : ℚ) (resets : Nat),
      let egress := perSecond Queue.sent (measured samples)
      let growth := perSecond Queue.queued (intervals samples)
      let drain := drainEstimate last.queued egress ((measured samples).map rate) resets
      rates samples =
        { depth := some (last.queued : ℚ)
          ingressPerSecond := some (max 0 (growth + egress))
          egressPerSecond := some egress
          growthPerSecond := some growth
          drainSeconds := drain.1
          drainUnavailableReason := drain.2
          windowSeconds := some window
          samples := samples.length
          resetsDetected := resets } := by
  obtain ⟨first, second, rest, hsort⟩ := exists_of_measured hne
  have hchange : ∀ f : Queue → ℚ,
      f (rest.getLastD second) - f first = change f (intervals samples) := by
    intro f
    rw [intervals, hsort, change_consecutivePairs, getLastD_cons]
  have hwindow : 0 < change (fun q => (q.clock : ℚ)) (intervals samples) / 1000 := by
    rw [change_intervals]
    refine div_pos ?_ (by norm_num)
    exact add_pos_of_pos_of_nonneg (change_clock_pos hne) (change_clock_leftOut samples)
  have hlength : (first.timed :: second.timed :: rest.map Queue.timed).length = samples.length := by
    rw [← length_insertionSort (fun a b : Queue => a.clock ≤ b.clock) samples, hsort]
    simp
  have hordered : ordered (samples.map Queue.sample) =
      first.timed :: second.timed :: rest.map Queue.timed := by
    rw [ordered_samples, hsort]
    rfl
  have htotals := totals_eq hsort
  rw [map_cons] at htotals
  refine ⟨rest.getLastD second, change (fun q => (q.clock : ℚ)) (intervals samples) / 1000,
    (intervals samples).countP isReset, ?_⟩
  rw [rates, deriveQueueRates, hordered]
  dsimp only
  rw [ratesOver, getLastD_map, htotals, hlength]
  simp only [Queue.timed, hchange fun q => (q.clock : ℚ), hchange fun q => (q.queued : ℚ)]
  rw [if_neg (by simpa using hne), if_pos hwindow]
  rfl

/-! ## Conservation -/

section Conservation

variable (hbefore : ∀ p ∈ measured samples, Before p.1 p.2)
include hbefore

theorem perSecond_queued :
    perSecond Queue.queued (measured samples) =
      perSecond Queue.arrived (measured samples) - perSecond Queue.left (measured samples) := by
  have hchange : change (fun q => (q.queued : ℚ)) (measured samples) =
      change (fun q => (q.arrived : ℚ)) (measured samples) -
        change (fun q => (q.left : ℚ)) (measured samples) := by
    refine change_sub fun p hp => ?_
    have h : ((p.2.queued + p.2.left + p.1.arrived : Nat) : ℚ) =
        (p.1.queued + p.1.left + p.2.arrived : Nat) := congrArg _ (hbefore p hp).conserved
    push_cast at h
    linarith
  rw [perSecond, hchange, sub_div]
  rfl

theorem perSecond_sent :
    perSecond Queue.sent (measured samples) =
      perSecond Queue.left (measured samples) - perSecond Queue.forgotten (measured samples) := by
  have hchange : change (fun q => (q.sent : ℚ)) (measured samples) =
      change (fun q => (q.left : ℚ)) (measured samples) -
        change (fun q => (q.forgotten : ℚ)) (measured samples) := by
    refine change_sub fun p hp => ?_
    have h : ((p.2.sent + p.2.forgotten + p.1.left : Nat) : ℚ) =
        (p.1.sent + p.1.forgotten + p.2.left : Nat) := congrArg _ (hbefore p hp).counted
    push_cast at h
    linarith
  rw [perSecond, hchange, sub_div]
  rfl

theorem perSecond_arrived_nonneg (hne : measured samples ≠ []) :
    0 ≤ perSecond Queue.arrived (measured samples) := by
  refine div_nonneg (sum_nonneg fun x hx => ?_)
    (div_pos (change_clock_pos hne) (by norm_num)).le
  obtain ⟨p, hp, rfl⟩ := mem_map.mp hx
  exact sub_nonneg.mpr (Nat.cast_le.mpr (hbefore p hp).arrived)

/-- No restart took anything off the counter within an interval that was measured. -/
theorem perSecond_forgotten_eq_zero_iff (hne : measured samples ≠ []) :
    perSecond Queue.forgotten (measured samples) = 0 ↔
      ∀ p ∈ measured samples, p.1.forgotten = p.2.forgotten := by
  have hseconds : change (fun q => (q.clock : ℚ)) (measured samples) / 1000 ≠ 0 :=
    (div_pos (change_clock_pos hne) (by norm_num)).ne'
  have hnonneg : ∀ x ∈ (measured samples).map fun p => (p.2.forgotten : ℚ) - p.1.forgotten,
      0 ≤ x := by
    intro x hx
    obtain ⟨p, hp, rfl⟩ := mem_map.mp hx
    exact sub_nonneg.mpr (Nat.cast_le.mpr (hbefore p hp).forgotten)
  rw [perSecond, div_eq_zero_iff, or_iff_left hseconds]
  constructor
  · intro hsum p hp
    have hzero := all_zero_of_le_zero_le_of_sum_eq_zero hnonneg hsum (mem_map_of_mem hp)
    exact (Nat.cast_injective (sub_eq_zero.mp hzero)).symm
  · intro heq
    refine sum_eq_zero fun x hx => ?_
    obtain ⟨p, hp, rfl⟩ := mem_map.mp hx
    dsimp only
    rw [heq p hp, sub_self]

end Conservation

/-- The depth changed over the intervals that were left out at the rate at which it changed over the
others. -/
def Alike (samples : List Queue) : Prop :=
  change (fun q => (q.queued : ℚ)) (leftOut samples) *
      change (fun q => (q.clock : ℚ)) (measured samples) =
    change (fun q => (q.queued : ℚ)) (measured samples) *
      change (fun q => (q.clock : ℚ)) (leftOut samples)

theorem growth_eq_iff (hne : measured samples ≠ []) :
    perSecond Queue.queued (intervals samples) = perSecond Queue.queued (measured samples) ↔
      Alike samples := by
  have hmeasured := change_clock_pos hne
  have hleft := change_clock_leftOut samples
  have hall := add_pos_of_pos_of_nonneg hmeasured hleft
  rw [perSecond, perSecond, change_intervals, change_intervals, Alike,
    div_eq_div_iff (div_pos hall (by norm_num)).ne' (div_pos hmeasured (by norm_num)).ne']
  constructor <;> intro h <;> linarith

theorem drain_ok {depth egress d : ℚ} {perInterval : List ℚ} {resets : Nat} (hdepth : 0 ≤ depth)
    (h : (drainEstimate depth egress perInterval resets).1 = some d) :
    0 ≤ d ∧ (depth = 0 ∧ d = 0 ∨ 0 < egress ∧ d * egress = depth) := by
  rw [drainEstimate] at h
  split at h
  · next hzero =>
    cases h
    exact ⟨le_refl 0, .inl ⟨le_antisymm hzero hdepth, rfl⟩⟩
  split at h
  · cases h
  split at h
  · cases h
  split at h
  · cases h
  · next hpos _ _ =>
    cases h
    have hpos := not_le.mp hpos
    exact ⟨div_nonneg hdepth hpos.le, .inr ⟨hpos, div_mul_cancel₀ _ hpos.ne'⟩⟩

/-- Without an interval that was measured no rate is given. -/
theorem rates_of_not_measured (h : measured samples = []) :
    (rates samples).egressPerSecond = none ∧ (rates samples).ingressPerSecond = none ∧
      (rates samples).growthPerSecond = none ∧ (rates samples).drainSeconds = none := by
  rw [rates, deriveQueueRates, ordered_samples]
  cases hsort : samples.insertionSort fun a b => a.clock ≤ b.clock with
  | nil => exact ⟨rfl, rfl, rfl, rfl⟩
  | cons first rest =>
    cases rest with
    | nil => exact ⟨rfl, rfl, rfl, rfl⟩
    | cons second rest =>
      have htotals := totals_eq hsort
      rw [map_cons] at htotals
      rw [map_cons, map_cons]
      dsimp only
      rw [ratesOver, htotals, h]
      exact ⟨rfl, rfl, rfl, rfl⟩

/-- **The rates of a queue are those of the measured intervals** exactly when no restart was hidden
in one of these and the depth changed over the others alike. -/
theorem queue_rates_iff (start : Queue) (actions : List Action) (w : Watched)
    (h : queue.run ⟨start, []⟩ actions = some w) (samples : List Queue) (hs : samples.Perm w.log) :
    Conserved samples ↔
      (∀ p ∈ measured samples, p.1.forgotten = p.2.forgotten) ∧ Alike samples := by
  by_cases hne : measured samples = []
  · obtain ⟨hegress, hingress, hgrowth, hdrain⟩ := rates_of_not_measured hne
    refine ⟨fun _ => ⟨fun p hp => (by rw [hne] at hp; cases hp), ?_⟩, fun _ => ⟨?_, ?_, ?_, ?_⟩⟩
    · rw [Alike, hne, change_nil, change_nil, mul_zero, zero_mul]
    · exact fun e he => by cases hegress.symm.trans he
    · exact fun i hi => by cases hingress.symm.trans hi
    · exact fun g hg => by cases hgrowth.symm.trans hg
    · exact fun d hd => by cases hdrain.symm.trans hd
  · have hbefore : ∀ p ∈ measured samples, Before p.1 p.2 :=
      fun p hp => before_of_measured (ordered_run h) hs hp
    have hqueued := perSecond_queued hbefore
    have hsent := perSecond_sent hbefore
    have hforgotten := perSecond_forgotten_eq_zero_iff hbefore hne
    have hgrowth := growth_eq_iff hne
    obtain ⟨last, window, resets, hrates⟩ := rates_of_measured hne
    rw [← hforgotten, ← hgrowth]
    constructor
    · intro hc
      have hegress := hc.egress _ (by rw [hrates])
      have hingress := hc.ingress _ (by rw [hrates])
      obtain ⟨i, e, hi, he, hdifference⟩ := hc.growth _ (by rw [hrates])
      rw [hrates] at hi he
      obtain rfl := Option.some.inj hi
      obtain rfl := Option.some.inj he
      refine ⟨by linarith, ?_⟩
      rw [hdifference, hingress, hegress, hqueued]
    · rintro ⟨hzero, halike⟩
      have hegress : perSecond Queue.sent (measured samples) =
          perSecond Queue.left (measured samples) := by rw [hsent, hzero, sub_zero]
      have hingress : max 0 (perSecond Queue.queued (intervals samples) +
          perSecond Queue.sent (measured samples)) =
            perSecond Queue.arrived (measured samples) := by
        rw [halike, hqueued, hegress, sub_add_cancel]
        exact max_eq_right (perSecond_arrived_nonneg hbefore hne)
      refine ⟨fun e he => ?_, fun i hi => ?_, fun g hg => ?_, fun d hd => ?_⟩
      · rw [hrates] at he
        exact (Option.some.inj he).symm.trans hegress
      · rw [hrates] at hi
        exact (Option.some.inj hi).symm.trans hingress
      · rw [hrates] at hg ⊢
        refine ⟨_, _, rfl, rfl, ?_⟩
        rw [hingress, hegress, ← Option.some.inj hg, halike, hqueued]
      · rw [hrates] at hd ⊢
        obtain ⟨hnonneg, ⟨hdepth, hd⟩ | ⟨hpos, hmul⟩⟩ := drain_ok (Nat.cast_nonneg _) hd
        · exact ⟨hnonneg, .inl ⟨congrArg some hdepth, hd⟩⟩
        · exact ⟨hnonneg, .inr ⟨_, _, rfl, rfl, hpos, hmul⟩⟩

/-- Ten messages wait, and half of them leave within a second. -/
def served : List Action := [.observe, .wait 1000, .leave 5, .observe]

/-- The two samples come newest first, and the rates are right. -/
theorem queue_rates_iff_served :
    Conserved [⟨1000, 5, 5, 10, 5, 0⟩, ⟨0, 10, 0, 10, 0, 0⟩] :=
  (queue_rates_iff ⟨0, 10, 0, 10, 0, 0⟩ served _ rfl [⟨1000, 5, 5, 10, 5, 0⟩, ⟨0, 10, 0, 10, 0, 0⟩]
    (List.Perm.swap ..)).mpr ⟨by decide, by
      rw [Alike]
      decide +kernel⟩

/-! ## A restart while the queue grows -/

/-- Five messages pass in one second; the engine restarts, and ten arrive in the next. -/
def restarted : List Action :=
  [.observe, .wait 1000, .arrive 5, .leave 5, .observe, .restart, .wait 1000, .arrive 10, .observe]

def restartedLog : List Queue :=
  [⟨0, 0, 10, 10, 10, 0⟩, ⟨1000, 0, 15, 15, 15, 0⟩, ⟨2000, 10, 0, 25, 15, 15⟩]

theorem restartedLog_run :
    queue.run ⟨⟨0, 0, 10, 10, 10, 0⟩, []⟩ restarted =
      some ⟨⟨2000, 10, 0, 25, 15, 15⟩, restartedLog⟩ := rfl

/-- Five messages per second entered where it was measured, and ten are reported. -/
theorem restart_doubles_ingress :
    queue.run ⟨⟨0, 0, 10, 10, 10, 0⟩, []⟩ restarted =
        some ⟨⟨2000, 10, 0, 25, 15, 15⟩, restartedLog⟩ ∧
      ¬ Conserved restartedLog := by
  refine ⟨restartedLog_run, fun h => ?_⟩
  have hreported : (rates restartedLog).ingressPerSecond = some 10 := by decide +kernel
  have hten := h.ingress 10 hreported
  have hfive : perSecond Queue.arrived (measured restartedLog) = 5 := by decide +kernel
  rw [hfive] at hten
  norm_num at hten

end Jkannel.Connectivity.QueueMetrics
