import Jkannel.Lib.Transition
import Jkannel.Retry.Statements

/-!
# Scans, one after the other

A scan reads its watermark, then a page of reports above it, and ingests them one by one, each in a
transaction of its own.  It stops when its budget is spent or a report fails, and records how far it
came; any number of scans may be under way, and any of them may die.

* `step` is the machine: scans, the engine's log, operators who move the watermark back, and what
  dispatches do to the tables meanwhile.
* `HandledOnce` is what a scan is for, and `Timely` the condition it rests on: a report of a retry
  is read while the chain waits for it, or after it has been answered.
* `handled_once` is the result, on the invariant `Inv`, and `replayed_report` a run that breaks
  without the condition.
-/

namespace Jkannel.Retry.Scan

open List Option
open Engine
open Transition (Ack System)

/-! ## The machine -/

/-- The tenant, as a scan sees it. -/
structure Tenant where
  policies : List DeliveryRetryPolicyRow
  /-- Its `smsc_definitions`. -/
  allowedSmscIds : List String

def Tenant.events (w : Tenant) : List Int := scannableEvents w.policies

/-- The cap of the tenant scope. -/
def Tenant.cap (w : Tenant) : Nat := (resolveRetryPolicy w.policies none none).maxRetriesPerMinute

/-- Where a scan is. -/
inductive Phase where
  /-- It has read its watermark, and how many attempts it may set in motion. -/
  | prepared (watermark budget : Nat)
  /-- It has its page, and is past the reports up to `highest`. -/
  | reading (highest budget : Nat) (rest : List NegativeDeliveryReport)
  /-- It is done, or has stopped. -/
  | recording (highest : Nat)

def Phase.highest : Phase → Nat
  | .prepared watermark _ => watermark
  | .reading highest _ _ | .recording highest => highest

def Phase.rest : Phase → List NegativeDeliveryReport
  | .reading _ _ rest => rest
  | _ => []

/-- The chains, the log and the scans. -/
structure State where
  store : Store
  /-- The engine's `sent_sms`. -/
  sent : List SqlboxRow
  scan : Nat → Option Phase
  /-- The reports whose transactions have been committed; no step reads them. -/
  processed : List NegativeDeliveryReport
  /-- The messages by whose reports chains have been continued; no step reads them either. -/
  continued : List String

def init : State := ⟨⟨[], [], [], 0⟩, [], fun _ => none, [], []⟩

/-- One step of the engine or a scan. -/
inductive Action where
  /-- The engine logs a message or a report. -/
  | log (row : SqlboxRow)
  /-- A send of the tenant's commits. -/
  | decide (d : Decision)
  | dispatch (statement : Dispatch)
  /-- A scan begins, when `recent` attempts were made in the last minute. -/
  | prepare (t recent : Nat)
  | fetch (t : Nat) (limit : Option Int)
  /-- One turn of its loop. -/
  | next (t : Nat) (nowMs : Int) (ack : Ack)
  /-- `recordScan`, whose failure is ignored. -/
  | record (t : Nat) (ack : Ack)
  /-- The engine is out of reach, or the worker dies. -/
  | abort (t : Nat)
  /-- The watermark is moved back. -/
  | reset (watermark : Nat)

def State.setScan (s : State) (t : Nat) (p : Option Phase) : State :=
  { s with scan := Function.update s.scan t p }

/-- The budget after a report. -/
def spend (budget : Nat) : Handled → Nat
  | .opened | .continued => budget - 1
  | _ => budget

/-- The transaction of one report. -/
def State.ingest (w : Tenant) (s : State) (report : NegativeDeliveryReport) (nowMs : Int) : State :=
  let handled := ingestReport w.policies s.store report nowMs
  { s with
    store := handled.1
    processed := report :: s.processed
    continued := if handled.2 = .continued then report.foreignId :: s.continued else s.continued }

/-- `watermark_sql_id = GREATEST(watermark_sql_id, …)`. -/
def State.recordScan (s : State) (highest : Nat) : State :=
  { s with store := { s.store with watermark := max s.store.watermark highest } }

/-- One step of the engine or a scan. -/
@[grind =] def step (w : Tenant) (s : State) : Action → Option State
  | .log row => some { s with sent := s.sent ++ [row] }
  | .decide d =>
    if s.store.taken d.messageRef then none
    else some { s with store := { s.store with decisions := d :: s.store.decisions } }
  | .dispatch statement => (s.store.dispatch statement).map fun store => { s with store := store }
  | .prepare t recent =>
    if s.scan t = none then
      -- nothing to scan for
      if w.events = [] ∨ w.allowedSmscIds = [] then some s
      else some (s.setScan t (some (.prepared s.store.watermark (w.cap - recent))))
    else none
  | .fetch t limit =>
    match s.scan t with
    | some (.prepared watermark budget) =>
      some (s.setScan t (some (.reading watermark budget (findNegativeDeliveryReports s.sent
        watermark w.events w.allowedSmscIds (reportLimit limit)))))
    | _ => none
  | .next t nowMs ack =>
    match s.scan t with
    | some (.reading highest _ []) => some (s.setScan t (some (.recording highest)))
    -- the storm cap
    | some (.reading highest 0 (_ :: _)) => some (s.setScan t (some (.recording highest)))
    | some (.reading highest budget (report :: rest)) =>
      let s' := if ack.committed then s.ingest w report nowMs else s
      match ack with
      | .ok => some (s'.setScan t (some (.reading report.dlrSqlId
          (spend budget (ingestReport w.policies s.store report nowMs).2) rest)))
      | .lost _ | .refused _ => some (s'.setScan t (some (.recording highest)))
    | _ => none
  | .record t ack =>
    match s.scan t with
    | some (.recording highest) =>
      some ((if ack.committed then s.recordScan highest else s).setScan t none)
    | _ => none
  | .abort t => some (s.setScan t none)
  | .reset watermark =>
    if watermark ≤ s.store.watermark then
      some { s with store := { s.store with watermark := watermark } }
    else none

/-- The scans as a system. -/
def scans (w : Tenant) : System State Action where
  step := step w

/-! ## What a scan is for -/

/-- The reports a scan may read. -/
def State.reports (w : Tenant) (s : State) : List NegativeDeliveryReport :=
  negativeReports s.sent w.events w.allowedSmscIds

/-- The report's message has one chain of its own or, when it is a retry, its chain has been
continued once. -/
def OneChain (s : State) (x : NegativeDeliveryReport) : Prop :=
  match s.store.attemptOf x.foreignId with
  | some _ => s.continued.count x.foreignId = 1
  | none => s.store.chains.countP (fun c => toString c.origin = x.foreignId) = 1

/-- **Negative reports are handled exactly once.** -/
structure HandledOnce (w : Tenant) (s : State) : Prop where
  /-- Whatever matches a policy, at or below the watermark, has its chain. -/
  handled : ∀ x ∈ negativeReports s.sent [DLR_EVENT_FAILED, DLR_EVENT_REJECTED] w.allowedSmscIds,
    x.dlrSqlId ≤ s.store.watermark → ∀ d ∈ s.store.decisions, toString d.messageRef = x.foreignId →
      Matches (resolveRetryPolicy w.policies (some x.smscId) d.customerId) x.dlrEvent → OneChain s x
  /-- The watermark passes no report that was not processed. -/
  passed : ∀ x ∈ s.reports w, x.dlrSqlId ≤ s.store.watermark → x ∈ s.processed
  /-- No message has two chains. -/
  owned : (s.store.chains.map ChainRow.origin).Nodup

/-- No report on the message has been logged. -/
def Unreported (sent : List SqlboxRow) (messageRef : Nat) : Prop :=
  ∀ r ∈ sent, isReport r = true → r.foreignId ≠ some (toString messageRef)

/-- Reports become visible in ascending order, after the message and the decision on it. -/
def InOrder (s : State) : Action → Prop
  | .log row => LoggedInOrder s.sent row ∧ (isReport row = true →
      0 < row.sqlId ∧ ∀ r ∈ s.sent, isReport r = true → r.sqlId < row.sqlId)
  | .decide d => Unreported s.sent d.messageRef
  | .dispatch (.submit _ _ _ messageRef _) => Unreported s.sent messageRef
  | _ => True

/-- The chain waits for a report of this attempt. -/
def Awaited (s : Store) (a : AttemptRow) : Prop :=
  (∃ c ∈ s.chainOf a.retryId, c.chain.status = .resent) ∧ a.attempt.dlrEvent = none

/-- A report of this attempt has continued its chain, which has not been re-sent since. -/
def Answered (s : Store) (a : AttemptRow) : Prop :=
  (∀ c ∈ s.chainOf a.retryId, c.chain.status ≠ .resent) ∧
    ∃ event ∈ a.attempt.dlrEvent, negativeEvent event = true

/-- The report a scan ingests next. -/
def Phase.report : Phase → Option NegativeDeliveryReport
  | .reading _ (_ + 1) (report :: _) => some report
  | _ => none

/-- **The condition reports are handled once under**: a report of a retry is ingested while the
chain waits for it, or after it has been answered and before the next retry goes out.  Nothing in
`continueChain` enforces it. -/
def Timely (s : State) : Action → Prop
  | .next t _ ack => ack.committed = true → ∀ report ∈ (s.scan t).bind Phase.report,
      ∀ a ∈ s.store.attemptOf report.foreignId, Awaited s.store a ∨ Answered s.store a
  | _ => True

section Decidable

instance (s : State) (x : NegativeDeliveryReport) : Decidable (OneChain s x) := by
  unfold OneChain
  split <;> infer_instance

instance (sent : List SqlboxRow) (messageRef : Nat) : Decidable (Unreported sent messageRef) :=
  inferInstanceAs (Decidable (∀ _ ∈ _, _))

instance (s : State) (a : Action) : Decidable (InOrder s a) := by
  unfold InOrder
  split <;> infer_instance

instance (s : Store) (a : AttemptRow) : Decidable (Awaited s a) :=
  inferInstanceAs (Decidable (_ ∧ _))

instance (s : Store) (a : AttemptRow) : Decidable (Answered s a) :=
  inferInstanceAs (Decidable (_ ∧ _))

instance (s : State) (a : Action) : Decidable (Timely s a) := by
  unfold Timely
  split <;> infer_instance

end Decidable

/-! ## The tables -/

section Tables

variable {w : Tenant} {s s' : Store} {processed : List NegativeDeliveryReport}
  {continued : List String}

/-- What has become of a report. -/
def Done (w : Tenant) (s : Store) (continued : List String) (x : NegativeDeliveryReport) : Prop :=
  ((∃ a ∈ s.attempts, a.isOf x.foreignId = true) ∧ continued.count x.foreignId = 1) ∨
  ((∀ a ∈ s.attempts, a.isOf x.foreignId = false) ∧
    ∀ d ∈ s.decisions, toString d.messageRef = x.foreignId →
      Matches (resolveRetryPolicy w.policies (some x.smscId) d.customerId) x.dlrEvent →
        ∃ c ∈ s.chains, toString c.origin = x.foreignId)

/-- The tables account for the reports processed so far: whatever continued a chain is one of them,
an attempt nothing is known of has continued none, and one that has failed has continued its chain
once. -/
structure Accounted (w : Tenant) (s : Store) (processed : List NegativeDeliveryReport)
    (continued : List String) : Prop where
  sound : s.Sound
  done : ∀ x ∈ processed, Done w s continued x
  from_ : ∀ foreignId ∈ continued, ∃ x ∈ processed, x.foreignId = foreignId
  waiting : ∀ a ∈ s.attempts, ∀ ref, a.attempt.messageRef = some ref → a.attempt.dlrEvent = none →
    toString ref ∉ continued
  failed : ∀ a ∈ s.attempts, ∀ ref event, a.attempt.messageRef = some ref →
    a.attempt.dlrEvent = some event → negativeEvent event = true →
      continued.count (toString ref) = 1

variable {a : AttemptRow} {x : NegativeDeliveryReport} {foreignId : String}

theorem isOf_congr {b : AttemptRow} (h : b.attempt.messageRef = a.attempt.messageRef)
    (foreignId : String) : b.isOf foreignId = a.isOf foreignId := by
  rw [AttemptRow.isOf, AttemptRow.isOf, h]

theorem exists_origin (horigins : s'.chains.map ChainRow.origin = s.chains.map ChainRow.origin)
    (h : ∃ c ∈ s.chains, toString c.origin = foreignId) :
    ∃ c ∈ s'.chains, toString c.origin = foreignId := by
  obtain ⟨c, hc, heq⟩ := h
  have hmem : c.origin ∈ s'.chains.map ChainRow.origin := by
    rw [horigins]
    exact mem_map_of_mem hc
  obtain ⟨c', hc', hcc⟩ := mem_map.mp hmem
  exact ⟨c', hc', by rw [hcc, heq]⟩

theorem Done.update (h : Done w s continued x) (hsame : s.SameKeys s') : Done w s' continued x := by
  rcases h with ⟨⟨a, ha, hof⟩, hcount⟩ | ⟨hnone, hchain⟩
  · obtain ⟨b, hb, hbref⟩ := hsame.symm.mem ha
    exact .inl ⟨⟨b, hb, (isOf_congr hbref _).trans hof⟩, hcount⟩
  · refine .inr ⟨fun a ha => ?_, fun d hd href hmatch => ?_⟩
    · obtain ⟨b, hb, hbref⟩ := hsame.mem ha
      exact (isOf_congr hbref _).symm.trans (hnone b hb)
    · exact exists_origin hsame.origins (hchain d (hsame.decisions ▸ hd) href hmatch)

section

variable (h : Accounted w s processed continued)
include h

/-- The attempts may be marked as delivered, and the chains may change. -/
theorem Accounted.update (hsame : s.SameKeys s') (hattempts : ∀ a ∈ s'.attempts, a ∈ s.attempts ∨
      a.attempt.dlrEvent = some DLR_EVENT_DELIVERED) : Accounted w s' processed continued where
  sound := h.sound.update hsame
  done := fun x hx => (h.done x hx).update hsame
  from_ := h.from_
  waiting := by
    intro a ha ref href hnone
    rcases hattempts a ha with ha | hdelivered
    · exact h.waiting a ha ref href hnone
    · rw [hnone] at hdelivered
      cases hdelivered
  failed := by
    intro a ha ref event href hevent hneg
    rcases hattempts a ha with ha | hdelivered
    · exact h.failed a ha ref event href hevent hneg
    · obtain rfl := some.inj (hevent.symm.trans hdelivered)
      cases hneg

/-- A decision on a message nothing has been reported of. -/
theorem Accounted.decide {d : Decision} (hfree : s.taken d.messageRef = false)
    (hnew : ∀ x ∈ processed, x.foreignId ≠ toString d.messageRef) :
    Accounted w { s with decisions := d :: s.decisions } processed continued where
  sound := h.sound.decide hfree
  done := by
    intro x hx
    rcases h.done x hx with hone | ⟨hnone, hchain⟩
    · exact .inl hone
    · refine .inr ⟨hnone, fun d' hd' href hmatch => ?_⟩
      rcases mem_cons.mp hd' with rfl | hd'
      · exact absurd href.symm (hnew x hx)
      · exact hchain d' hd' href hmatch
  __ := h

/-- An attempt that did not go out, or went out under a key of its own that nothing has been
reported of. -/
theorem Accounted.addAttempt (hwaits : a.attempt.dlrEvent = none)
    (hknown : ∀ ref, a.attempt.messageRef = some ref → ref ∈ s.decisions.map Decision.messageRef ∧
      (∀ b ∈ s.attempts, b.attempt.messageRef ≠ some ref) ∧
      ∀ x ∈ processed, x.foreignId ≠ toString ref) :
    Accounted w { s with attempts := s.attempts ++ [a] } processed continued where
  sound := h.sound.addAttempt fun ref href => ⟨(hknown ref href).1, (hknown ref href).2.1⟩
  done := by
    intro x hx
    rcases h.done x hx with ⟨⟨b, hb, hof⟩, hcount⟩ | ⟨hnone, hchain⟩
    · exact .inl ⟨⟨b, mem_append_left _ hb, hof⟩, hcount⟩
    · refine .inr ⟨fun b hb => ?_, hchain⟩
      rcases mem_append.mp hb with hb | hb
      · exact hnone b hb
      · obtain rfl := mem_singleton.mp hb
        by_contra hof
        obtain ⟨ref, href, heq⟩ := isOf_iff.mp (Bool.not_eq_false _ ▸ hof)
        exact (hknown ref href).2.2 x hx heq.symm
  from_ := h.from_
  waiting := by
    intro b hb ref href hnone
    rcases mem_append.mp hb with hb | hb
    · exact h.waiting b hb ref href hnone
    · obtain rfl := mem_singleton.mp hb
      intro hmem
      obtain ⟨x, hx, heq⟩ := h.from_ _ hmem
      exact (hknown ref href).2.2 x hx heq
  failed := by
    intro b hb ref event href hevent hneg
    rcases mem_append.mp hb with hb | hb
    · exact h.failed b hb ref event href hevent hneg
    · obtain rfl := mem_singleton.mp hb
      rw [hwaits] at hevent
      cases hevent

end

/-! What a dispatch commits. -/

theorem Accounted.onChain (h : Accounted w s processed continued) (id : Nat)
    {f : Chain → Option Chain}
    (hf : ∀ c c', f c = some c' → c'.originMessageRef = c.originMessageRef) :
    Accounted w (s.onChain id f) processed continued :=
  h.update (h.sound.onChain id hf) fun a ha => .inl (by rwa [onChain_attempts] at ha)

theorem Accounted.dispatch (h : Accounted w s processed continued) {statement : Dispatch}
    (hstep : s.dispatch statement = some s')
    (hnew : ∀ id n smscId ref reason, statement = .submit id n smscId ref reason →
      ∀ x ∈ processed, x.foreignId ≠ toString ref) :
    Accounted w s' processed continued ∧ s'.watermark = s.watermark := by
  cases statement with
  | claim id =>
    cases hstep
    exact ⟨h.onChain id fun _ _ => claim_origin, onChain_watermark ..⟩
  | submit id n smscId ref reason =>
    obtain ⟨c, -, -, -, hfree, rfl⟩ := dispatch_submit hstep
    have hnew' := hnew id n smscId ref reason rfl
    have hmarked : Accounted w (s.onChain id (markResent n smscId)) processed continued :=
      h.onChain id fun _ _ => markResent_origin
    have hfree' : (s.onChain id (markResent n smscId)).taken ref = false := by
      rwa [Store.taken, onChain_decisions]
    have hall := (hmarked.decide (d := ⟨ref, c.customerId⟩) hfree' hnew').addAttempt
      (a := ⟨id, n, some smscId, .submitted, some ref, none, reason⟩) rfl ?_
    · simp only [onChain_attempts, onChain_decisions] at hall
      exact ⟨hall, onChain_watermark ..⟩
    · intro ref' href
      cases href
      exact ⟨mem_cons_self .., hmarked.sound.not_sent hfree', hnew'⟩
  | recordAttempt id n smscId outcome reason =>
    rw [Store.dispatch] at hstep
    split at hstep
    · cases hstep
      exact ⟨h, rfl⟩
    · cases hstep
      exact ⟨h.addAttempt rfl (fun ref href => by cases href), rfl⟩
  | finish id status reason =>
    rw [Store.dispatch] at hstep
    split at hstep
    · cases hstep
      exact ⟨h.onChain id fun _ _ => terminate_origin, onChain_watermark ..⟩
    · cases hstep
  | settle id n reason =>
    cases hstep
    refine ⟨Accounted.onChain ?_ id fun _ _ => terminate_origin, onChain_watermark ..⟩
    refine h.update (settle_sameKeys s id n) fun a ha => ?_
    obtain ⟨b, hb, rfl⟩ := mem_map.mp ha
    split
    · exact .inr rfl
    · exact .inl hb

/-! What a report commits. -/

theorem Done.mono (h : Done w s continued x) (hattempts : s'.attempts = s.attempts)
    (hdecisions : s'.decisions = s.decisions) (hchains : s.chains ⊆ s'.chains) :
    Done w s' continued x := by
  unfold Done at h ⊢
  rw [hattempts, hdecisions]
  refine h.imp_right fun ⟨hnone, hchain⟩ => ⟨hnone, fun d hd href hmatch => ?_⟩
  obtain ⟨c, hc, heq⟩ := hchain d hd href hmatch
  exact ⟨c, hchains hc, heq⟩

theorem mem_setDlrEvent {messageRef : Option Nat} {event : Int} {b : AttemptRow}
    (h : b ∈ (s.setDlrEvent messageRef event).attempts) :
    (b.attempt.messageRef = messageRef ∧ b.attempt.dlrEvent = some event) ∨
      (b.attempt.messageRef ≠ messageRef ∧ b ∈ s.attempts) := by
  obtain ⟨b₀, hb₀, rfl⟩ := mem_map.mp h
  split
  · rename_i heq
    exact .inl ⟨heq, rfl⟩
  · rename_i hne
    exact .inr ⟨hne, hb₀⟩

/-- A retry has been reported on, and its chain has by now been continued once. -/
theorem Accounted.answer (h : Accounted w s processed continued) {ref : Nat} (ha : a ∈ s.attempts)
    (href : a.attempt.messageRef = some ref) (hforeign : toString ref = x.foreignId)
    (hsame : s.SameKeys s')
    (hattempts : s'.attempts = (s.setDlrEvent (some ref) x.dlrEvent).attempts)
    {continued' : List String} (hone : continued'.count x.foreignId = 1)
    (hrest : ∀ foreignId, foreignId ≠ x.foreignId →
      continued'.count foreignId = continued.count foreignId) :
    Accounted w s' (x :: processed) continued' where
  sound := h.sound.update hsame
  done := by
    have hof : a.isOf x.foreignId = true := isOf_iff.mpr ⟨ref, href, hforeign⟩
    obtain ⟨b, hb, hbref⟩ := hsame.symm.mem ha
    intro y hy
    rcases mem_cons.mp hy with rfl | hy
    · exact .inl ⟨⟨b, hb, (isOf_congr hbref _).trans hof⟩, hone⟩
    · rcases (h.done y hy).update hsame with ⟨hsome, hcount⟩ | hmessage
      · refine .inl ⟨hsome, ?_⟩
        by_cases heq : y.foreignId = x.foreignId
        · rw [heq, hone]
        · rw [hrest _ heq, hcount]
      · exact .inr hmessage
  from_ := by
    intro foreignId hmem
    by_cases heq : foreignId = x.foreignId
    · exact ⟨x, mem_cons_self .., heq.symm⟩
    · have hpos := count_pos_iff.mpr hmem
      rw [hrest _ heq] at hpos
      obtain ⟨y, hy, hyf⟩ := h.from_ _ (count_pos_iff.mp hpos)
      exact ⟨y, mem_cons_of_mem _ hy, hyf⟩
  waiting := by
    intro b hb ref' href' hnone
    rw [hattempts] at hb
    rcases mem_setDlrEvent hb with ⟨-, hevent⟩ | ⟨hne, hb⟩
    · rw [hnone] at hevent
      cases hevent
    · have hne' : toString ref' ≠ x.foreignId := fun heq =>
        hne (href'.trans (congrArg some (toString_inj (heq.trans hforeign.symm))))
      have hzero := count_eq_zero.mpr (h.waiting b hb ref' href' hnone)
      exact count_eq_zero.mp ((hrest _ hne').trans hzero)
  failed := by
    intro b hb ref' event href' hevent hneg
    rw [hattempts] at hb
    rcases mem_setDlrEvent hb with ⟨href, -⟩ | ⟨hne, hb⟩
    · obtain rfl := some.inj (href'.symm.trans href)
      rw [hforeign, hone]
    · have hne' : toString ref' ≠ x.foreignId := fun heq =>
        hne (href'.trans (congrArg some (toString_inj (heq.trans hforeign.symm))))
      rw [hrest _ hne']
      exact h.failed b hb ref' event href' hevent hneg

theorem not_isOf_of_attemptOf (h : s.attemptOf foreignId = none) :
    ∀ a ∈ s.attempts, a.isOf foreignId = false := by
  intro a ha
  simpa using find?_eq_none.mp h a ha

/-- **A report that comes in time is accounted for.** -/
theorem Accounted.ingest (h : Accounted w s processed continued)
    (htimely : ∀ a, s.attemptOf x.foreignId = some a → Awaited s a ∨ Answered s a) (nowMs : Int) :
    Accounted w (ingestReport w.policies s x nowMs).1 (x :: processed)
        (if (ingestReport w.policies s x nowMs).2 = .continued then x.foreignId :: continued
          else continued) ∧
      (ingestReport w.policies s x nowMs).1.watermark = s.watermark := by
  cases hattempt : s.attemptOf x.foreignId with
  | some a =>
    obtain ⟨ha, ref, href, hforeign⟩ := attemptOf_spec hattempt
    have heq : ingestReport w.policies s x nowMs = s.continueChain a x := by
      simp only [ingestReport, hattempt]
    obtain ⟨hsame, hattempts, hwatermark, hcontinued, hskipped⟩ := continueChain_spec h.sound a x
    rw [href] at hattempts
    rw [heq]
    refine ⟨?_, hwatermark⟩
    rcases htimely a hattempt with ⟨hresent, hnone⟩ | ⟨hnot, event, hevent, hneg⟩
    · have hzero := count_eq_zero.mpr (hforeign ▸ h.waiting a ha ref href hnone)
      rw [if_pos (hcontinued hresent)]
      refine h.answer ha href hforeign hsame hattempts ?_ fun foreignId hne => ?_
      · rw [count_cons_self, hzero]
      · rw [count_cons_of_ne (Ne.symm hne)]
    · have hone := h.failed a ha ref event href hevent hneg
      rw [hforeign] at hone
      rw [if_neg (by rw [hskipped hnot]; exact nofun)]
      exact h.answer ha href hforeign hsame hattempts hone fun _ _ => rfl
  | none =>
    obtain ⟨hattempts, hdecisions, hwatermark, hchains, hnot, hopened⟩ :=
      @ingestReport_message w.policies s x hattempt nowMs
    rw [if_neg hnot]
    refine ⟨⟨ingestReport_sound h.sound .., ?_, ?_, ?_, ?_⟩, hwatermark⟩
    · intro y hy
      rcases mem_cons.mp hy with rfl | hy
      · refine .inr ⟨hattempts ▸ not_isOf_of_attemptOf hattempt, fun d hd href hmatch => ?_⟩
        rw [hdecisions] at hd
        cases hdecision : s.decisionOf y.foreignId with
        | none =>
          have hne := find?_eq_none.mp hdecision d hd
          simp [href] at hne
        | some d' =>
          obtain ⟨hd', href'⟩ := decisionOf_spec hdecision
          obtain rfl := inj_on_of_nodup_map h.sound.decided hd hd'
            (toString_inj (href.trans href'.symm))
          exact hopened d hdecision hmatch
      · exact (h.done y hy).mono hattempts hdecisions hchains
    · intro foreignId hmem
      obtain ⟨y, hy, heq⟩ := h.from_ foreignId hmem
      exact ⟨y, mem_cons_of_mem _ hy, heq⟩
    · rw [hattempts]
      exact h.waiting
    · rw [hattempts]
      exact h.failed

end Tables

/-! ## The watermark -/

section Watermark

variable {w : Tenant} {s s' : State}

/-- Everything at or below `n` has been logged, and processed. -/
structure Reached (w : Tenant) (s : State) (n : Nat) : Prop where
  below : n = 0 ∨ ∃ r ∈ s.sent, isReport r = true ∧ n ≤ r.sqlId
  processed : ∀ x ∈ s.reports w, x.dlrSqlId ≤ n → x ∈ s.processed

variable {n : Nat} {x : NegativeDeliveryReport} {p : Phase} {row : SqlboxRow}

theorem Reached.mono {m : Nat} (h : Reached w s n) (hle : m ≤ n) : Reached w s m where
  below := by
    rcases h.below with rfl | ⟨r, hr, hreport, hn⟩
    · exact .inl (Nat.le_zero.mp hle)
    · exact .inr ⟨r, hr, hreport, hle.trans hn⟩
  processed x hx hm := h.processed x hx (hm.trans hle)

/-- What a scan under way relies on: it is past what it has processed, and its page is the next
there is. -/
structure Sweeping (w : Tenant) (s : State) (p : Phase) : Prop where
  reached : Reached w s p.highest
  page : ∀ x ∈ p.rest, x ∈ s.reports w
  sorted : p.rest.Pairwise fun x y => x.dlrSqlId ≤ y.dlrSqlId
  complete : ∀ x ∈ s.reports w, ∀ y ∈ p.rest, x.dlrSqlId ≤ y.dlrSqlId →
    x ∈ s.processed ∨ x ∈ p.rest

/-- The invariant of the machine. -/
structure Inv (w : Tenant) (s : State) : Prop where
  accounted : Accounted w s.store s.processed s.continued
  ordered : (s.reports w).Pairwise fun x y => x.dlrSqlId < y.dlrSqlId
  read : ∀ x ∈ s.processed, x ∈ s.reports w
  watermark : Reached w s s.store.watermark
  scans : ∀ t p, s.scan t = some p → Sweeping w s p

theorem inv_init (w : Tenant) : Inv w init where
  accounted := by
    refine ⟨⟨rfl, nodup_nil, nodup_nil, nodup_nil, ?_⟩, ?_, ?_, ?_, ?_⟩ <;>
      simp [init]
  ordered := List.Pairwise.nil
  read := by simp [init]
  watermark := ⟨.inl rfl, by simp [init, State.reports, negativeReports]⟩
  scans := nofun

/-- A report's key names it. -/
theorem Inv.report_unique (h : Inv w s) {y : NegativeDeliveryReport} (hx : x ∈ s.reports w)
    (hy : y ∈ s.reports w) (heq : x.dlrSqlId = y.dlrSqlId) : x = y := by
  have hnodup : ((s.reports w).map NegativeDeliveryReport.dlrSqlId).Nodup :=
    pairwise_map.mpr (h.ordered.imp Nat.ne_of_lt)
  exact inj_on_of_nodup_map hnodup hx hy heq

theorem report_of_mem (hx : x ∈ s.reports w) :
    ∃ r ∈ s.sent, isReport r = true ∧ x.dlrSqlId = r.sqlId ∧ r.foreignId = some x.foreignId ∧
      x.dlrEvent ∈ w.events := by
  obtain ⟨r, hr, hjoin⟩ := mem_filterMap.mp hx
  obtain ⟨hreport, hid, hforeign, hevent⟩ := joinReport_spec hjoin
  exact ⟨r, hr, hreport, hid, hforeign, hevent⟩

/-- A message nothing is reported of is none a processed report is about. -/
theorem Inv.unreported (h : Inv w s) {messageRef : Nat} (hnone : Unreported s.sent messageRef) :
    ∀ x ∈ s.processed, x.foreignId ≠ toString messageRef := by
  intro x hx heq
  obtain ⟨r, hr, hreport, -, hforeign, -⟩ := report_of_mem (h.read x hx)
  exact hnone r hr hreport (hforeign.trans (congrArg some heq))

/-! More is processed, and nothing is logged. -/

theorem Reached.grow (h : Reached w s n) (hsent : s'.sent = s.sent)
    (hprocessed : s.processed ⊆ s'.processed) : Reached w s' n where
  below := hsent ▸ h.below
  processed x hx hn := by
    rw [State.reports, hsent] at hx
    exact hprocessed (h.processed x hx hn)

theorem Sweeping.grow (h : Sweeping w s p) (hsent : s'.sent = s.sent)
    (hprocessed : s.processed ⊆ s'.processed) : Sweeping w s' p where
  reached := h.reached.grow hsent hprocessed
  page := by
    rw [State.reports, hsent]
    exact h.page
  sorted := h.sorted
  complete := by
    rw [State.reports, hsent]
    exact fun x hx y hy hle => (h.complete x hx y hy hle).imp_left (@hprocessed x)

section

variable (h : Inv w s)
include h

/-- The tables change, and no report is read. -/
theorem Inv.tables {store : Store} (haccounted : Accounted w store s.processed s.continued)
    (hwatermark : Reached w s store.watermark) : Inv w { s with store := store } where
  accounted := haccounted
  __ := h
  watermark := hwatermark.grow rfl (List.Subset.refl _)
  scans t p hp := (h.scans t p hp).grow rfl (List.Subset.refl _)

theorem Inv.setWatermark (hn : Reached w s n) :
    Inv w { s with store := { s.store with watermark := n } } :=
  h.tables (h.accounted.update ⟨rfl, rfl, rfl, rfl⟩ fun _ ha => .inl ha) hn

theorem Inv.setScan {t : Nat} {p : Option Phase}
    (hp : ∀ q, p = some q → Sweeping w s q) : Inv w (s.setScan t p) where
  __ := h
  watermark := h.watermark.grow rfl (List.Subset.refl _)
  scans t' q hq := by
    have hsame : Sweeping w s q := by
      by_cases ht : t' = t
      · subst ht
        exact hp q (by simpa [State.setScan] using hq)
      · exact h.scans t' q (by simpa [State.setScan, Function.update_of_ne ht] using hq)
    exact hsame.grow rfl (List.Subset.refl _)

theorem Inv.goOn (t : Nat) (hp : Sweeping w s p) : Inv w (s.setScan t (some p)) :=
  h.setScan fun q hq => by
    cases hq
    exact hp

theorem Inv.endScan (t : Nat) : Inv w (s.setScan t none) := h.setScan nofun

end

/-! The engine logs a row. -/

theorem reports_log (horder : LoggedInOrder s.sent row) :
    State.reports w { s with sent := s.sent ++ [row] } =
      s.reports w ++ (joinReport (s.sent ++ [row]) w.events w.allowedSmscIds row).toList :=
  negativeReports_grow horder

theorem Reached.log (h : Reached w s n) (horder : InOrder s (.log row)) :
    Reached w { s with sent := s.sent ++ [row] } n where
  below := h.below.imp_right fun ⟨r, hr, hreport, hn⟩ =>
    ⟨r, mem_append_left _ hr, hreport, hn⟩
  processed := by
    intro x hx hn
    rw [reports_log horder.1] at hx
    rcases mem_append.mp hx with hx | hx
    · exact h.processed x hx hn
    · -- the new report is past everything
      obtain ⟨hreport, hid, -, -⟩ := joinReport_spec (mem_toList.mp hx)
      obtain ⟨hpos, habove⟩ := horder.2 hreport
      rcases h.below with rfl | ⟨r, hr, hreport', hle⟩
      · omega
      · have := habove r hr hreport'
        omega

theorem Sweeping.log (h : Sweeping w s p) (horder : InOrder s (.log row)) :
    Sweeping w { s with sent := s.sent ++ [row] } p where
  reached := h.reached.log horder
  page x hx := by
    rw [reports_log horder.1]
    exact mem_append_left _ (h.page x hx)
  sorted := h.sorted
  complete := by
    intro x hx y hy hle
    rw [reports_log horder.1] at hx
    rcases mem_append.mp hx with hx | hx
    · exact h.complete x hx y hy hle
    · obtain ⟨hreport, hid, -, -⟩ := joinReport_spec (mem_toList.mp hx)
      obtain ⟨r, hr, hreport', hid', -, -⟩ := report_of_mem (h.page y hy)
      have := (horder.2 hreport).2 r hr hreport'
      omega

theorem Inv.log (h : Inv w s) (horder : InOrder s (.log row)) :
    Inv w { s with sent := s.sent ++ [row] } where
  accounted := h.accounted
  ordered := by
    rw [reports_log horder.1, pairwise_append]
    refine ⟨h.ordered, ?_, fun x hx y hy => ?_⟩
    · cases joinReport (s.sent ++ [row]) w.events w.allowedSmscIds row with
      | none => exact List.Pairwise.nil
      | some y => exact pairwise_singleton _ _
    · obtain ⟨hreport, hid, -, -⟩ := joinReport_spec (mem_toList.mp hy)
      obtain ⟨r, hr, hreport', hid', -, -⟩ := report_of_mem hx
      have := (horder.2 hreport).2 r hr hreport'
      omega
  read x hx := by
    rw [reports_log horder.1]
    exact mem_append_left _ (h.read x hx)
  watermark := h.watermark.log horder
  scans t p hp := (h.scans t p hp).log horder

/-! A scan goes on. -/

theorem Inv.fetch (h : Inv w s) {watermark budget : Nat} (hreached : Reached w s watermark)
    (limit : Nat) : Sweeping w s (.reading watermark budget
      (findNegativeDeliveryReports s.sent watermark w.events w.allowedSmscIds limit)) where
  reached := hreached
  page x hx := (mem_find hx).1
  sorted := find_sorted
  complete := by
    intro x hx y hy hle
    by_cases hafter : watermark < x.dlrSqlId
    · obtain ⟨z, hz, heq⟩ := find_complete hx hafter hy hle
      rw [h.report_unique hx (mem_find hz).1 heq.symm]
      exact .inr hz
    · exact .inl (hreached.processed x hx (Nat.le_of_not_lt hafter))

theorem Sweeping.of_rest_nil (hreached : Reached w s p.highest) (hrest : p.rest = []) :
    Sweeping w s p where
  reached := hreached
  page x hx := by
    rw [hrest] at hx
    cases hx
  sorted := by
    rw [hrest]
    exact List.Pairwise.nil
  complete x _ y hy := by
    rw [hrest] at hy
    cases hy

theorem Sweeping.stop (h : Sweeping w s p) : Sweeping w s (.recording p.highest) :=
  .of_rest_nil h.reached rfl

/-- The transaction of a report that comes in time. -/
theorem Inv.ingest (h : Inv w s) (hx : x ∈ s.reports w)
    (htimely : ∀ a, s.store.attemptOf x.foreignId = some a →
      Awaited s.store a ∨ Answered s.store a) (nowMs : Int) : Inv w (s.ingest w x nowMs) := by
  obtain ⟨haccounted, hwatermark⟩ := h.accounted.ingest htimely nowMs
  refine ⟨haccounted, h.ordered, fun y hy => ?_, ?_, fun t p hp => ?_⟩
  · rcases mem_cons.mp hy with rfl | hy
    · exact hx
    · exact h.read y hy
  · have hsame : (s.ingest w x nowMs).store.watermark = s.store.watermark := hwatermark
    rw [hsame]
    exact h.watermark.grow rfl (subset_cons_self ..)
  · exact (h.scans t p hp).grow rfl (subset_cons_self ..)

/-- Past a report that has been processed. -/
theorem Inv.advance (h : Inv w s) {highest budget budget' : Nat}
    {rest : List NegativeDeliveryReport}
    (hsweep : Sweeping w s (.reading highest budget (x :: rest))) (hdone : x ∈ s.processed) :
    Sweeping w s (.reading x.dlrSqlId budget' rest) where
  reached := by
    refine ⟨?_, fun y hy hle => ?_⟩
    · obtain ⟨r, hr, hreport, hid, -⟩ := report_of_mem (hsweep.page x (mem_cons_self ..))
      exact .inr ⟨r, hr, hreport, hid.le⟩
    · rcases hsweep.complete y hy x (mem_cons_self ..) hle with hmem | hmem
      · exact hmem
      · rcases mem_cons.mp hmem with rfl | hmem
        · exact hdone
        · -- the page is in order, so it is the same report
          have hge := rel_of_pairwise_cons hsweep.sorted hmem
          rw [h.report_unique hy (hsweep.page x (mem_cons_self ..)) (Nat.le_antisymm hle hge)]
          exact hdone
  page y hy := hsweep.page y (mem_cons_of_mem _ hy)
  sorted := hsweep.sorted.of_cons
  complete := by
    intro y hy z hz hle
    rcases hsweep.complete y hy z (mem_cons_of_mem _ hz) hle with hmem | hmem
    · exact .inl hmem
    · rcases mem_cons.mp hmem with rfl | hmem
      · exact .inl hdone
      · exact .inr hmem

/-- The turn of the loop that reads a report. -/
theorem Inv.next (h : Inv w s) {t : Nat} {nowMs : Int} {ack : Ack} (htimely : Timely s (.next t nowMs ack))
    (hstep : step w s (.next t nowMs ack) = some s') : Inv w s' := by
  simp only [step] at hstep
  split at hstep
  · rename_i highest budget hp
    cases hstep
    exact h.goOn t (h.scans t _ hp).stop
  · rename_i highest x rest hp
    cases hstep
    exact h.goOn t (h.scans t _ hp).stop
  · rename_i highest budget x rest hbudget hp
    have hsweep := h.scans t _ hp
    have hx := hsweep.page x (mem_cons_self ..)
    obtain ⟨budget, rfl⟩ := Nat.exists_eq_succ_of_ne_zero fun hzero => hbudget hzero
    have hsteps : ∀ committed : Bool, ack.committed = committed →
        Inv w (if committed then s.ingest w x nowMs else s) := by
      intro committed hcommitted
      cases committed with
      | true => exact h.ingest hx (htimely hcommitted x (by rw [hp]; rfl)) nowMs
      | false => exact h
    have hstopped : ∀ committed : Bool, ack.committed = committed → Sweeping w
        (if committed then s.ingest w x nowMs else s) (.recording highest) := by
      intro committed _
      cases committed with
      | true => exact hsweep.stop.grow rfl (subset_cons_self ..)
      | false => exact hsweep.stop
    cases ack with
    | ok =>
      cases hstep
      have hingest := hsteps true rfl
      have hsweep' : Sweeping w (s.ingest w x nowMs) (.reading highest (budget + 1) (x :: rest)) :=
        hsweep.grow rfl (subset_cons_self ..)
      exact hingest.goOn t (hingest.advance hsweep' (mem_cons_self ..))
    | lost error =>
      cases hstep
      exact (hsteps true rfl).goOn t (hstopped true rfl)
    | refused error =>
      cases hstep
      exact (hsteps false rfl).goOn t (hstopped false rfl)
  · cases hstep

/-- Every step that is in order and in time keeps the invariant. -/
theorem inv_step {a : Action} (h : Inv w s) (horder : InOrder s a) (htimely : Timely s a)
    (hstep : step w s a = some s') : Inv w s' := by
  cases a with
  | log row =>
    cases hstep
    exact h.log horder
  | decide d =>
    simp only [step] at hstep
    split at hstep
    · cases hstep
    · rename_i hfree
      cases hstep
      exact h.tables (h.accounted.decide (Bool.eq_false_iff.mpr hfree) (h.unreported horder))
        h.watermark
  | dispatch statement =>
    obtain ⟨store, hdispatch, rfl⟩ := map_eq_some_iff.mp hstep
    obtain ⟨haccounted, hwatermark⟩ := h.accounted.dispatch hdispatch
      fun id n smscId ref reason heq => by
        subst heq
        exact h.unreported horder
    exact h.tables haccounted (hwatermark ▸ h.watermark)
  | prepare t recent =>
    simp only [step] at hstep
    split at hstep
    · split at hstep
      · cases hstep
        exact h
      · cases hstep
        exact h.goOn t (.of_rest_nil h.watermark rfl)
    · cases hstep
  | fetch t limit =>
    simp only [step] at hstep
    split at hstep
    · rename_i watermark budget hp
      cases hstep
      exact h.goOn t (h.fetch (h.scans t _ hp).reached _)
    · cases hstep
  | next t nowMs ack => exact h.next htimely hstep
  | record t ack =>
    simp only [step] at hstep
    split at hstep
    · rename_i highest hp
      cases hstep
      refine Inv.endScan ?_ t
      split
      · -- both of them are past nothing that is unprocessed
        refine h.setWatermark ?_
        rcases Nat.le_total s.store.watermark highest with hle | hle
        · rw [max_eq_right hle]
          exact (h.scans t _ hp).reached
        · rw [max_eq_left hle]
          exact h.watermark
      · exact h
    · cases hstep
  | abort t =>
    cases hstep
    exact h.endScan t
  | reset watermark =>
    simp only [step] at hstep
    split at hstep
    · rename_i hle
      cases hstep
      exact h.setWatermark (h.watermark.mono hle)
    · cases hstep

end Watermark

/-! ## Exactly once -/

/-- An origin that is there is there once. -/
theorem Store.Sound.one_chain {s : Store} (h : s.Sound) {foreignId : String}
    (hthere : ∃ c ∈ s.chains, toString c.origin = foreignId) :
    s.chains.countP (fun c => toString c.origin = foreignId) = 1 := by
  obtain ⟨c, hc, rfl⟩ := hthere
  have hcount := count_eq_one_of_mem h.origins (mem_map_of_mem hc)
  rw [count_eq_countP, countP_map] at hcount
  rw [← hcount]
  refine countP_congr fun c' _ => ?_
  simp only [Function.comp, decide_eq_true_eq, beq_iff_eq]
  exact ⟨toString_inj, fun heq => congrArg toString heq⟩

theorem Inv.handledOnce {w : Tenant} {s : State} (h : Inv w s) : HandledOnce w s where
  handled := by
    intro x hx hle d hd href hmatch
    have hreport : x ∈ s.reports w := mem_negativeReports_of_event hx (matches_scannable hmatch)
    have hdone := h.accounted.done x (h.watermark.processed x hreport hle)
    unfold OneChain
    split
    · rename_i a hattempt
      obtain ⟨ha, hof⟩ := attemptOf_spec hattempt
      rcases hdone with ⟨-, hcount⟩ | ⟨hnone, -⟩
      · exact hcount
      · have := hnone a ha
        rw [isOf_iff.mpr hof] at this
        cases this
    · rename_i hattempt
      rcases hdone with ⟨⟨a, ha, hof⟩, -⟩ | ⟨-, hchain⟩
      · have := not_isOf_of_attemptOf hattempt a ha
        rw [hof] at this
        cases this
      · exact h.accounted.sound.one_chain (hchain d hd href hmatch)
  passed := h.watermark.processed
  owned := h.accounted.sound.origins

/-- **Every report is handled exactly once**, in every run in which reports appear in order, and
those of retries are ingested in time. -/
theorem handled_once {w : Tenant} {s : State} {as : List Action}
    (horder : (scans w).Along (fun s a => InOrder s a ∧ Timely s a) init as)
    (hrun : (scans w).run init as = some s) : HandledOnce w s :=
  Inv.handledOnce <| (scans w).invariant_along
    (fun _ _ _ hi hP hstep => inv_step hi hP.1 hP.2 hstep) (inv_init w) horder hrun

/-! Runs. -/

/-- One policy for the whole tenant, which retries failures twice. -/
def tenant : Tenant where
  policies := [⟨1, .tenant, none, none, true, 2, true, false, 60, 3600, true, true, 60, 30,
    by decide⟩]
  allowedSmscIds := ["a", "b", "c"]

/-- Message `ref` goes out on a bind, and fails. -/
def failure (ref : Nat) (smscId : String) (sqlId : Nat) : List Action :=
  [.log ⟨sqlId, some "MT", none, none, none, none, some smscId, none, some (toString ref)⟩,
   .log ⟨sqlId + 1, some "DLR", none, none, none, none, none, some 2, some (toString ref)⟩]

/-- A scan that finds one report. -/
def scanOnce : List Action :=
  [.prepare 0 0, .fetch 0 none, .next 0 0 .ok, .next 0 0 .ok, .record 0 .ok]

/-- Retry `n` of the first chain goes out. -/
def resend (n : Nat) (smscId : String) (ref : Nat) : List Action :=
  [.dispatch (.claim 0), .dispatch (.submit 0 n smscId ref "next healthy bind")]

/-- Message 1 fails, and so does its retry, which is message 2. -/
def failsTwice : List Action :=
  .decide ⟨1, none⟩ :: (failure 1 "a" 10 ++ scanOnce ++ resend 1 "b" 2 ++ failure 2 "b" 20 ++
    scanOnce)

theorem handled_once_failsTwice :
    ∃ s, (scans tenant).run init failsTwice = some s ∧ s.continued = ["2"] ∧
      HandledOnce tenant s := by
  have hchecked : (scans tenant).check (fun s a => InOrder s a ∧ Timely s a) init failsTwice =
      true := by decide +kernel
  have hends : ((scans tenant).run init failsTwice).any (fun s => s.continued = ["2"]) = true := by
    decide +kernel
  obtain ⟨s, hs, hcontinued⟩ := (scans tenant).exists_run _ hends
  exact ⟨s, hs, of_decide_eq_true hcontinued,
    handled_once ((scans tenant).along_of_check _ hchecked) hs⟩

/-- The next retry goes out, and the watermark moves back below the report of the first. -/
def readAgain : List Action := failsTwice ++ (resend 2 "c" 3 ++ .reset 11 :: scanOnce)

/-- **A report that is read again continues its chain again**: the scan takes the report of the
first retry for a failure of the second, which is still under way, and gives the chain up. -/
theorem replayed_report : ∃ s, (scans tenant).Along InOrder init readAgain ∧
    (scans tenant).run init readAgain = some s ∧ ¬ HandledOnce tenant s := by
  have hchecked : (scans tenant).check InOrder init readAgain = true := by decide +kernel
  have hends : ((scans tenant).run init readAgain).any (fun s =>
      ∃ x ∈ negativeReports s.sent [DLR_EVENT_FAILED, DLR_EVENT_REJECTED] tenant.allowedSmscIds,
        x.dlrSqlId ≤ s.store.watermark ∧ ∃ d ∈ s.store.decisions,
          toString d.messageRef = x.foreignId ∧
            Matches (resolveRetryPolicy tenant.policies (some x.smscId) d.customerId) x.dlrEvent ∧
              ¬ OneChain s x) = true := by decide +kernel
  obtain ⟨s, hs, hbad⟩ := (scans tenant).exists_run _ hends
  refine ⟨s, (scans tenant).along_of_check _ hchecked, hs, fun h => ?_⟩
  obtain ⟨x, hx, hle, d, hd, href, hmatch, hnot⟩ := of_decide_eq_true hbad
  exact hnot (h.handled x hx hle d hd href hmatch)

end Jkannel.Retry.Scan

