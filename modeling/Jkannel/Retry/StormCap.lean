import Jkannel.Lib.Window
import Jkannel.Retry.ScanRuns

/-!
# The storm cap

A policy caps the retries of a tenant per minute.  A scan sets chains in motion for as long as the
cap leaves room beside the attempts of the last sixty seconds; but a chain attempts its retry later,
when its delay is over, and until then no count knows of it.

* `Store.owed` is what no count knows of: the chains that are to attempt a retry.
* `Storm.step` is the machine of the scans with a clock: attempts get a time, and a dispatch starts
  when its job is due.
* `Capped` is the cap, over every window of sixty seconds, and `Roomy` the condition it holds under:
  whatever is set in motion fits under the cap together with the chains in motion already.
* `storm_cap` is the result, on the account of `Window.Reserved`, and `openings_fall_due_together` a
  run that breaks without the condition.
-/

namespace Jkannel.Retry.Scan

open List
open Engine (NegativeDeliveryReport)

/-! ## What chains owe

An attempt is owed from when a chain is opened or continued until it is recorded. -/

/-- The chain is to attempt a retry: it waits for its dispatch, or has been claimed by one that has
recorded nothing yet. -/
def Store.owes (s : Store) (c : ChainRow) : Bool :=
  match c.chain.status with
  | .pending => true
  | .retrying => !s.recorded c.id c.chain.attempts
  | _ => false

def Store.owed (s : Store) : Nat := s.chains.countP s.owes

/-- The report sets a chain in motion: it opens one, or has its message's chain continued with
another attempt. -/
def SetsInMotion (policies : List DeliveryRetryPolicyRow) (s : Store)
    (report : NegativeDeliveryReport) (nowMs : Int) : Prop :=
  match s.attemptOf report.foreignId with
  | some a => ∃ c ∈ s.chainOf a.retryId,
      c.chain.status = .resent ∧ c.chain.attempts < c.chain.maxAttempts
  | none => (∀ c ∈ s.chains, toString c.origin ≠ report.foreignId) ∧
      ∃ d ∈ s.decisionOf report.foreignId,
        classifyReport (resolveRetryPolicy policies (some report.smscId) d.customerId)
          report.dlrEvent report.dlrAt nowMs = .retry

instance (policies : List DeliveryRetryPolicyRow) (s : Store) (report : NegativeDeliveryReport)
    (nowMs : Int) : Decidable (SetsInMotion policies s report nowMs) := by
  unfold SetsInMotion
  split <;> infer_instance

section Counting

variable {α : Type}

/-- Counting after an update of the row of one key. -/
theorem countP_map_update (p : α → Bool) (key : α → Nat) (g : α → α) {l : List α}
    (hnodup : (l.map key).Nodup) {c : α} (hc : c ∈ l) :
    (l.map fun x => if key x = key c then g x else x).countP p + (if p c then 1 else 0) =
      l.countP p + (if p (g c) then 1 else 0) := by
  induction l with
  | nil => cases hc
  | cons b l ih =>
    rw [map_cons, nodup_cons] at hnodup
    by_cases hb : key b = key c
    · have hnot : ∀ x ∈ l, key x ≠ key c := fun x hx heq =>
        hnodup.1 (hb ▸ heq ▸ mem_map_of_mem hx)
      obtain rfl : c = b := by
        rcases mem_cons.mp hc with heq | hmem
        · exact heq
        · exact absurd rfl (hnot c hmem)
      have hrest : (l.map fun x => if key x = key c then g x else x) = l := by
        rw [map_congr_left fun x hx => if_neg (hnot x hx), map_id']
      rw [map_cons, if_pos rfl, hrest, countP_cons, countP_cons]
      omega
    · have hmem : c ∈ l := by
        rcases mem_cons.mp hc with rfl | hmem
        · exact absurd rfl hb
        · exact hmem
      have := ih hnodup.2 hmem
      rw [map_cons, if_neg hb, countP_cons, countP_cons]
      omega

/-- A count loses whatever no longer counts. -/
theorem countP_lt {p q : α → Bool} {l : List α} (hle : ∀ x ∈ l, q x = true → p x = true) {c : α}
    (hc : c ∈ l) (hp : p c = true) (hq : q c = false) : l.countP q + 1 ≤ l.countP p := by
  induction l with
  | nil => cases hc
  | cons b l ih =>
    rw [countP_cons, countP_cons]
    have hrest : ∀ x ∈ l, q x = true → p x = true := fun x hx => hle x (mem_cons_of_mem b hx)
    rcases mem_cons.mp hc with rfl | hmem
    · have := countP_mono_left hrest
      rw [hp, hq]
      simp only [Bool.false_eq_true, if_false, if_true]
      omega
    · have := ih hrest hmem
      have hb := hle b (mem_cons_self ..)
      cases hqb : q b with
      | true =>
        rw [hb hqb]
        omega
      | false =>
        simp only [Bool.false_eq_true, if_false]
        omega

end Counting

section Owed

variable {s s' : Store}

variable {c : ChainRow} {n : Nat} {reason : String} {id : Nat} {f : Chain → Option Chain}

theorem owes_resent (h : c.chain.status = .resent) : s.owes c = false := by
  rw [Store.owes, h]

theorem owes_terminal (h : c.chain.status.terminal = true) : s.owes c = false := by
  cases hstatus : c.chain.status <;> rw [hstatus] at h <;> simp_all [Store.owes, ChainStatus.terminal]

/-- Chains owe what they owe by the attempts on record. -/
theorem owes_congr (h : ∀ id n, s'.recorded id n = s.recorded id n) : s'.owes = s.owes := by
  funext c
  unfold Store.owes
  split
  · rfl
  · rw [h]
  · rfl

theorem owed_congr (hchains : s'.chains = s.chains)
    (h : ∀ id n, s'.recorded id n = s.recorded id n) : s'.owed = s.owed := by
  rw [Store.owed, Store.owed, hchains, owes_congr h]

theorem recorded_map (s : Store) {f : AttemptRow → AttemptRow}
    (hid : ∀ a, (f a).retryId = a.retryId)
    (hno : ∀ a, (f a).attempt.attemptNo = a.attempt.attemptNo) (id n : Nat) :
    Store.recorded { s with attempts := s.attempts.map f } id n = s.recorded id n := by
  simp only [Store.recorded, any_map]
  congr 1
  funext a
  simp only [Function.comp, hid, hno]

theorem setChain_owed (h : s.Sound) (hc : s.chainOf id = some c) (chain : Chain) :
    (s.setChain id chain).owed + (if s.owes c then 1 else 0) =
      s.owed + (if s.owes { c with chain := chain } then 1 else 0) := by
  obtain ⟨hmem, rfl⟩ := chainOf_spec hc
  have hnodup : (s.chains.map ChainRow.id).Nodup := h.ids ▸ nodup_range
  exact countP_map_update s.owes ChainRow.id (fun x => { x with chain := chain }) hnodup hmem

theorem onChain_of_some {chain : Chain} (hc : s.chainOf id = some c) (hf : f c.chain = some chain) :
    s.onChain id f = s.setChain id chain := by
  rw [Store.onChain, hc, Option.bind_some, hf]

/-- A statement on one chain leaves at most that chain owing more. -/
theorem onChain_owed_le_succ (h : s.Sound) (id : Nat) (f : Chain → Option Chain) :
    (s.onChain id f).owed ≤ s.owed + 1 := by
  unfold Store.onChain
  split
  · rename_i chain hbind
    obtain ⟨c, hc, -⟩ := Option.bind_eq_some_iff.mp hbind
    have := setChain_owed h hc chain
    split at this <;> split at this <;> omega
  · omega

theorem onChain_owed_le (h : s.Sound)
    (hf : ∀ c chain, s.chainOf id = some c → f c.chain = some chain →
      s.owes { c with chain := chain } = true → s.owes c = true) :
    (s.onChain id f).owed ≤ s.owed := by
  unfold Store.onChain
  split
  · rename_i chain hbind
    obtain ⟨c, hc, hstatement⟩ := Option.bind_eq_some_iff.mp hbind
    have := setChain_owed h hc chain
    split at this
    · split at this <;> omega
    · rename_i hnot
      rw [if_neg fun howes => hnot (hf c chain hc hstatement howes)] at this
      omega
  · exact Nat.le_refl _

/-! What a report adds. -/

theorem continueChain_owed (h : s.Sound) (a : AttemptRow) (report : NegativeDeliveryReport) :
    (s.continueChain a report).1.attempts.length = s.attempts.length ∧
      (s.continueChain a report).1.owed ≤ s.owed + 1 ∧
      ((¬ ∃ c ∈ s.chainOf a.retryId,
          c.chain.status = .resent ∧ c.chain.attempts < c.chain.maxAttempts) →
        (s.continueChain a report).1.owed ≤ s.owed) := by
  have hsame : (s.setDlrEvent a.attempt.messageRef report.dlrEvent).owed = s.owed := by
    refine owed_congr rfl (recorded_map s ?_ ?_)
    all_goals
      intro b
      split <;> rfl
  have hsound := h.update (setDlrEvent_sameKeys s a.attempt.messageRef report.dlrEvent)
  have heq : (s.continueChain a report).1 =
      (s.setDlrEvent a.attempt.messageRef report.dlrEvent).onChain a.retryId
        (Retry.continueChain report.smscId report.dlrEvent) := by
    have hchain : (s.setDlrEvent a.attempt.messageRef report.dlrEvent).chainOf a.retryId =
        s.chainOf a.retryId := rfl
    rw [Store.continueChain, Store.onChain, hchain]
    cases (s.chainOf a.retryId).bind fun c =>
        Retry.continueChain report.smscId report.dlrEvent c.chain with
    | none | some _ => rfl
  rw [heq, ← hsame]
  refine ⟨?_, onChain_owed_le_succ hsound _ _, fun hnot => ?_⟩
  · rw [onChain_attempts]
    simp [Store.setDlrEvent]
  · refine onChain_owed_le hsound fun c chain hc hcontinue howes => ?_
    -- a chain that may be continued is continued with another attempt, or ends
    have hexhausted : ¬ (c.chain.status = .resent ∧ c.chain.attempts < c.chain.maxAttempts) :=
      fun hmay => hnot ⟨c, hc, hmay⟩
    unfold Retry.continueChain at hcontinue
    split at hcontinue
    · rename_i hresent
      rw [if_pos (Nat.le_of_not_lt fun hlt => hexhausted ⟨hresent, hlt⟩)] at hcontinue
      cases hcontinue
      cases howes
    · cases hcontinue

theorem open_owed (s : Store) (d : Decision) (report : NegativeDeliveryReport)
    (policy : DeliveryRetryPolicy) (refused : Option String) :
    (s.open d report policy refused).1.attempts = s.attempts ∧
      (s.open d report policy refused).1.owed ≤ s.owed + 1 ∧
      (refused.isSome = true ∨ (∃ c ∈ s.chains, toString c.origin = report.foreignId) →
        (s.open d report policy refused).1.owed ≤ s.owed) := by
  unfold Store.open
  split
  · exact ⟨rfl, Nat.le_succ _, fun _ => Nat.le_refl _⟩
  · rename_i hnone
    split
    · rename_i chain hopen
      have hcount : ∀ s', s' = { s with
          chains := s.chains ++ [(⟨s.chains.length, d.customerId, chain⟩ : ChainRow)] } →
          s'.owed = s.owed + (if s.owes ⟨s.chains.length, d.customerId, chain⟩ then 1 else 0) := by
        rintro s' rfl
        exact (countP_append ..).trans (congrArg _ (countP_singleton ..))
      refine ⟨rfl, ?_, fun hno => ?_⟩
      · rw [hcount _ rfl]
        split <;> omega
      · rw [hcount _ rfl, if_neg, Nat.add_zero]
        rcases hno with hrefused | ⟨c, hc, heq⟩
        · rw [owes_terminal]
          · exact Bool.false_ne_true
          · unfold openChain at hopen
            split at hopen
            · cases hopen
              rfl
            · cases hopen
        · exact absurd (any_eq_true.mpr ⟨c, hc, decide_eq_true heq⟩) hnone
    · exact ⟨rfl, Nat.le_succ _, fun _ => Nat.le_refl _⟩

/-- **A report leaves at most one chain more in motion**, and none if it sets none. -/
theorem ingestReport_owed (h : s.Sound) (policies : List DeliveryRetryPolicyRow)
    (report : NegativeDeliveryReport) (nowMs : Int) :
    (ingestReport policies s report nowMs).1.attempts.length = s.attempts.length ∧
      (ingestReport policies s report nowMs).1.owed ≤ s.owed + 1 ∧
      (¬ SetsInMotion policies s report nowMs →
        (ingestReport policies s report nowMs).1.owed ≤ s.owed) := by
  cases hattempt : s.attemptOf report.foreignId with
  | some a =>
    simp only [ingestReport, SetsInMotion, hattempt]
    exact continueChain_owed h a report
  | none =>
    simp only [ingestReport, SetsInMotion, hattempt]
    cases hdecision : s.decisionOf report.foreignId with
    | none => exact ⟨rfl, Nat.le_succ _, fun _ => Nat.le_refl _⟩
    | some d =>
      simp only
      split
      · rename_i hretry
        obtain ⟨hattempts, hle, hno⟩ := open_owed s d report
          (resolveRetryPolicy policies (some report.smscId) d.customerId) none
        refine ⟨by rw [hattempts], hle, fun hnot => hno (.inr ?_)⟩
        by_contra hnone
        simp only [not_exists, not_and] at hnone
        exact hnot ⟨hnone, d, rfl, hretry⟩
      · rename_i reason _
        obtain ⟨hattempts, hle, hno⟩ := open_owed s d report
          (resolveRetryPolicy policies (some report.smscId) d.customerId) (some reason)
        exact ⟨by rw [hattempts], hle, fun _ => hno (.inl rfl)⟩
      · exact ⟨rfl, Nat.le_succ _, fun _ => Nat.le_refl _⟩

/-! What a dispatch takes away. -/

/-- With a row for attempt `n` of the chain, that attempt is no longer owed. -/
theorem addAttempt_owed_le (s : Store) (a : AttemptRow) :
    Store.owed { s with attempts := s.attempts ++ [a] } ≤ s.owed := by
  refine countP_mono_left fun c _ howes => ?_
  unfold Store.owes at howes ⊢
  split at howes
  · rfl
  · simp only [Store.recorded, any_append, Bool.not_eq_eq_eq_not, Bool.not_true,
      Bool.or_eq_false_iff] at howes ⊢
    exact howes.1
  · cases howes

theorem addAttempt_owed_lt {a : AttemptRow} (hc : c ∈ s.chains)
    (hretrying : c.chain.status = .retrying) (hid : a.retryId = c.id)
    (hno : a.attempt.attemptNo = c.chain.attempts)
    (hnew : s.recorded c.id c.chain.attempts = false) :
    Store.owed { s with attempts := s.attempts ++ [a] } + 1 ≤ s.owed := by
  refine countP_lt (fun x _ howes => ?_) hc ?_ ?_
  · unfold Store.owes at howes ⊢
    split at howes
    · rfl
    · simp only [Store.recorded, any_append, Bool.not_eq_eq_eq_not, Bool.not_true,
        Bool.or_eq_false_iff] at howes ⊢
      exact howes.1
    · cases howes
  · rw [Store.owes, hretrying]
    simp [hnew]
  · rw [Store.owes, hretrying]
    simp [Store.recorded, hid, hno]

theorem claim_owed (h : s.Sound) (id : Nat)
    (hfresh : ∀ c ∈ s.chainOf id, c.chain.status = .retrying →
      c.chain.attempts < c.chain.maxAttempts → s.recorded c.id c.chain.attempts = false) :
    (s.onChain id claim).owed ≤ s.owed := by
  refine onChain_owed_le h fun c chain hc hclaim _ => ?_
  obtain ⟨hclaimable, hlt, -⟩ := claim_spec hclaim
  unfold Store.owes
  split
  · rfl
  · rename_i hretrying
    rw [hfresh c hc hretrying hlt]
    rfl
  · rename_i hpending hretrying
    cases hstatus : c.chain.status <;> simp_all [ChainStatus.claimable]

theorem submit_owed (h : s.Sound) {id messageRef : Nat} {smscId : String}
    (hstep : s.dispatch (.submit id n smscId messageRef reason) = some s') :
    s'.attempts.length = s.attempts.length + 1 ∧ s'.owed + 1 ≤ s.owed := by
  obtain ⟨c, hc, hfence, hnew, -, rfl⟩ := dispatch_submit hstep
  simp only [holdsFence, Bool.and_eq_true, decide_eq_true_eq] at hfence
  obtain ⟨hretrying, hn⟩ := hfence
  obtain ⟨hmem, hid⟩ := chainOf_spec hc
  refine ⟨by simp, ?_⟩
  have hmark : markResent n smscId c.chain = some { c.chain with
      status := .resent, triedSmscIds := c.chain.triedSmscIds ++ [smscId] } := by
    rw [markResent, if_pos hn]
  have howes : s.owes c = true := by
    rw [Store.owes, hretrying, hid, hn]
    simp [hnew]
  have hset := setChain_owed h hc { c.chain with
    status := .resent, triedSmscIds := c.chain.triedSmscIds ++ [smscId] }
  rw [if_pos howes, if_neg (by rw [owes_resent rfl]; exact Bool.false_ne_true)] at hset
  rw [onChain_of_some hc hmark]
  have hle := addAttempt_owed_le (s.setChain id { c.chain with
    status := .resent, triedSmscIds := c.chain.triedSmscIds ++ [smscId] })
    ⟨id, n, some smscId, .submitted, some messageRef, none, reason⟩
  exact Nat.le_trans (Nat.succ_le_succ hle) (Nat.le_of_eq hset)

theorem recordAttempt_owed {smscId : Option String} {outcome : AttemptOutcome}
    (hstep : s.dispatch (.recordAttempt id n smscId outcome reason) = some s') :
    (s' = s ∧ s.recorded id n = true) ∨ (s.recorded id n = false ∧
      s'.attempts.length = s.attempts.length + 1 ∧ s'.owed ≤ s.owed ∧
        ((∃ c ∈ s.chainOf id, c.chain.status = .retrying ∧ c.chain.attempts = n) →
          s'.owed + 1 ≤ s.owed)) := by
  rw [Store.dispatch] at hstep
  split at hstep
  · rename_i hrecorded
    exact .inl ⟨(Option.some.inj hstep).symm, hrecorded⟩
  · rename_i hnew
    have hnew' : s.recorded id n = false := Bool.eq_false_iff.mpr hnew
    cases hstep
    refine .inr ⟨hnew', by simp, addAttempt_owed_le s _, ?_⟩
    rintro ⟨c, hc, hretrying, hn⟩
    obtain ⟨hmem, hid⟩ := chainOf_spec hc
    exact addAttempt_owed_lt hmem hretrying hid.symm hn.symm (by rw [hid, hn, hnew'])

theorem finish_owed (h : s.Sound) {status : ChainStatus} (hterminal : status.terminal = true) :
    (s.onChain id fun c => some (terminate status reason c)).owed ≤ s.owed := by
  refine onChain_owed_le h fun c chain _ hfinish howes => ?_
  cases hfinish
  rw [owes_terminal hterminal] at howes
  cases howes

theorem settle_owed (h : s.Sound) (hstep : s.dispatch (.settle id n reason) = some s') :
    s'.attempts.length = s.attempts.length ∧ s'.owed ≤ s.owed := by
  cases hstep
  refine ⟨by simp, ?_⟩
  refine Nat.le_trans (finish_owed (h.update (settle_sameKeys s id n)) rfl) (Nat.le_of_eq ?_)
  refine owed_congr rfl (recorded_map s ?_ ?_)
  all_goals
    intro a
    split <;> rfl

end Owed

/-! ## What a step of the scans does to the tables -/

theorem step_store {w : Tenant} {s t : State} {a : Action} (h : step w s a = some t) :
    (t.store.chains = s.store.chains ∧ t.store.attempts = s.store.attempts ∧
      (s.store.Sound → t.store.Sound)) ∨
    (∃ k nowMs ack report, a = .next k nowMs ack ∧ ack.committed = true ∧
      report ∈ (s.scan k).bind Phase.report ∧
        t.store = (ingestReport w.policies s.store report nowMs).1) ∨
    ∃ statement, a = .dispatch statement ∧ s.store.dispatch statement = some t.store := by
  have hkept : ∀ {u : State}, u.store = s.store → u.store.chains = s.store.chains ∧
      u.store.attempts = s.store.attempts ∧ (s.store.Sound → u.store.Sound) := by
    intro u hu
    rw [hu]
    exact ⟨rfl, rfl, id⟩
  have hwatermark : ∀ n, Store.Sound s.store → Store.Sound { s.store with watermark := n } :=
    fun n hs => hs.update ⟨rfl, rfl, rfl, rfl⟩
  cases a with
  | log _ | abort _ =>
    cases h
    exact .inl (hkept rfl)
  | decide d =>
    simp only [step] at h
    split at h
    · cases h
    · rename_i hfree
      cases h
      exact .inl ⟨rfl, rfl, fun hs => hs.decide (Bool.eq_false_iff.mpr hfree)⟩
  | dispatch statement =>
    obtain ⟨store, hdispatch, rfl⟩ := Option.map_eq_some_iff.mp h
    exact .inr (.inr ⟨statement, rfl, hdispatch⟩)
  | prepare t recent =>
    simp only [step] at h
    split at h
    · split at h <;> (obtain rfl := Option.some.inj h; exact .inl (hkept rfl))
    · cases h
  | fetch t limit =>
    simp only [step] at h
    split at h
    · cases h
      exact .inl (hkept rfl)
    · cases h
  | next k nowMs ack =>
    simp only [step] at h
    split at h
    · cases h
      exact .inl (hkept rfl)
    · cases h
      exact .inl (hkept rfl)
    · rename_i highest budget report rest hbudget hp
      obtain ⟨budget, rfl⟩ := Nat.exists_eq_succ_of_ne_zero fun hzero => hbudget hzero
      have hreport : report ∈ (s.scan k).bind Phase.report := by
        rw [hp]
        rfl
      cases ack with
      | ok =>
        cases h
        exact .inr (.inl ⟨k, nowMs, .ok, report, rfl, rfl, hreport, rfl⟩)
      | lost error =>
        cases h
        exact .inr (.inl ⟨k, nowMs, .lost error, report, rfl, rfl, hreport, rfl⟩)
      | refused error =>
        cases h
        exact .inl (hkept rfl)
    · cases h
  | record t ack =>
    simp only [step] at h
    split at h
    · cases h
      refine .inl ?_
      cases ack.committed with
      | true => exact ⟨rfl, rfl, hwatermark _⟩
      | false => exact hkept rfl
    · cases h
  | reset watermark =>
    simp only [step] at h
    split at h
    · cases h
      exact .inl ⟨rfl, rfl, hwatermark _⟩
    · cases h

end Jkannel.Retry.Scan

namespace Jkannel.Retry.Storm

open Scan
open Transition (System)

/-! ## Scans with a clock -/

/-- The window of the count, in milliseconds. -/
def BREAKER_WINDOW : Int := 60 * 1000

/-- The chains with the times of attempts. -/
structure State where
  tables : Scan.State
  /-- Epoch milliseconds. -/
  now : Int
  /-- `created_at` of the attempts, in their order. -/
  made : List Int
  /-- The dispatch jobs: a chain, and when its dispatch is due. -/
  due : List (Nat × Int)

def init (now : Int) : State := ⟨Scan.init, now, [], []⟩

/-- A step of the scans, or time passing. -/
inductive Action where
  | tick (ms : Nat)
  | act (a : Scan.Action)

def State.recentAttemptCount (s : State) : Nat :=
  s.made.countP fun createdAt => s.now - BREAKER_WINDOW < createdAt

/-- Whether an action reads the clock and the tables as they are. -/
def OnTime (s : State) : Scan.Action → Prop
  | .prepare _ recent => recent = s.recentAttemptCount
  | .next _ nowMs _ => nowMs = s.now
  | .dispatch (.claim id) => ∃ job ∈ s.due, job.1 = id ∧ job.2 ≤ s.now
  | _ => True

instance (s : State) (a : Scan.Action) : Decidable (OnTime s a) :=
  match a with
  | .prepare _ recent => inferInstanceAs (Decidable (recent = s.recentAttemptCount))
  | .next _ nowMs _ => inferInstanceAs (Decidable (nowMs = s.now))
  | .dispatch (.claim id) =>
    inferInstanceAs (Decidable (∃ job ∈ s.due, job.1 = id ∧ job.2 ≤ s.now))
  | .dispatch (.submit ..) | .dispatch (.recordAttempt ..) | .dispatch (.finish ..)
  | .dispatch (.settle ..) | .log _ | .decide _ | .fetch .. | .record .. | .abort _ | .reset _ =>
    inferInstanceAs (Decidable True)

/-- The dispatches that the transaction of a report enqueues: one for each chain it leaves
waiting. -/
def State.enqueueDispatch (w : Tenant) (s : State) (t : Scan.State) :
    Scan.Action → List (Nat × Int)
  | .next k _ _ =>
    match (s.tables.scan k).bind Phase.report with
    | some report =>
      let waits (c : ChainRow) := decide (c.chain.status = .pending) &&
        !(s.tables.store.chains.any fun b => b.id = c.id && b.chain.status = .pending)
      (t.store.chains.filter waits).map fun c =>
        let policy := resolveRetryPolicy w.policies (some report.smscId) c.customerId
        (c.id, s.now + policy.minDelaySeconds * 1000)
    | none => []
  | _ => []

/-- After an action of the scans: the attempts it has recorded are made now. -/
def State.after (s : State) (t : Scan.State) (due : List (Nat × Int)) : State where
  tables := t
  now := s.now
  made := s.made ++
    List.replicate (t.store.attempts.length - s.tables.store.attempts.length) s.now
  due := s.due ++ due

/-- A step of the scans at its instant. -/
def step (w : Tenant) (s : State) : Action → Option State
  | .tick ms => some { s with now := s.now + ms }
  | .act a =>
    if OnTime s a then
      (Scan.step w s.tables a).map fun t => s.after t (s.enqueueDispatch w t a)
    else none

def storms (w : Tenant) : System State Action where
  step := step w

/-- **The cap**: no sixty seconds hold more attempts than the tenant's policy allows. -/
def Capped (w : Tenant) (s : State) : Prop :=
  ∀ t, Window.count BREAKER_WINDOW s.made t ≤ w.cap

/-- There is room under the cap for another attempt, beside those of the last minute and those that
are owed. -/
def Room (w : Tenant) (s : State) : Prop :=
  s.recentAttemptCount + s.tables.store.owed < w.cap

/-- **The condition the cap holds under**: there is room for every chain a report sets in motion.
The same goes for an attempt beside those: a dispatch that takes a chain up again after an attempt
of its own is on record, or records an attempt that is not the chain's latest. -/
def Roomy (w : Tenant) (s : State) : Action → Prop
  | .act (.next k nowMs ack) => ack.committed = true →
      ∀ report ∈ (s.tables.scan k).bind Phase.report,
        SetsInMotion w.policies s.tables.store report nowMs → Room w s
  | .act (.dispatch (.claim id)) => ∀ c ∈ s.tables.store.chainOf id, c.chain.status = .retrying →
      c.chain.attempts < c.chain.maxAttempts →
        s.tables.store.recorded c.id c.chain.attempts = true → Room w s
  | .act (.dispatch (.recordAttempt id n _ _ _)) => s.tables.store.recorded id n = false →
      (∃ c ∈ s.tables.store.chainOf id, c.chain.status = .retrying ∧ c.chain.attempts = n) ∨
        Room w s
  | _ => True

instance (w : Tenant) (s : State) : Decidable (Room w s) := inferInstanceAs (Decidable (_ < _))

instance (w : Tenant) (s : State) (a : Action) : Decidable (Roomy w s a) := by
  unfold Roomy
  split <;> infer_instance

/-! ## The account

The attempts of the last minute and those owed stay within the cap together. -/

/-- What a timed step keeps. -/
structure Inv (w : Tenant) (s : State) : Prop where
  sound : s.tables.store.Sound
  reserved : Window.Reserved BREAKER_WINDOW w.cap s.made s.now s.tables.store.owed

section Account

variable {w : Tenant} {s s' : State} {due : List (Nat × Int)}

theorem inv_init (w : Tenant) (now : Int) : Inv w (init now) where
  sound := (Scan.inv_init w).accounted.sound
  reserved := Window.reserved_nil ..

theorem Inv.room (h : Inv w s) (hroom : Room w s) :
    Window.Reserved BREAKER_WINDOW w.cap s.made s.now (s.tables.store.owed + 1) := by
  refine h.reserved.reserve ?_
  rw [Window.count_now h.reserved.past]
  exact hroom

/-- The account after an action of the scans, when it records `k` attempts. -/
theorem Inv.account {t : Scan.State} {k : Nat} (hsound : t.store.Sound)
    (hlength : t.store.attempts.length = s.tables.store.attempts.length + k)
    (hreserved : Window.Reserved BREAKER_WINDOW w.cap (s.made ++ List.replicate k s.now) s.now
      t.store.owed) :
    Inv w (s.after t due) := by
  refine ⟨hsound, ?_⟩
  rw [State.after, hlength, Nat.add_sub_cancel_left]
  exact hreserved

theorem Inv.dispatch (h : Inv w s) {statement : Dispatch} {t : Scan.State}
    (hroomy : Roomy w s (.act (.dispatch statement)))
    (hstep : s.tables.store.dispatch statement = some t.store) :
    Inv w (s.after t due) := by
  have hsound := h.sound.dispatch hstep
  have hquiet : ∀ {owed : Nat}, Window.Reserved BREAKER_WINDOW w.cap s.made s.now owed →
      Window.Reserved BREAKER_WINDOW w.cap (s.made ++ List.replicate 0 s.now) s.now owed := by
    intro owed hr
    rwa [List.replicate_zero, List.append_nil]
  cases statement with
  | claim id =>
    have heq := (Option.some.inj hstep).symm
    have hlength : t.store.attempts.length = s.tables.store.attempts.length := by
      rw [heq, Scan.onChain_attempts]
    refine Inv.account hsound hlength (hquiet ?_)
    rw [heq]
    by_cases hroom : Room w s
    · exact (h.room hroom).release (onChain_owed_le_succ h.sound _ _)
    · refine h.reserved.release (claim_owed h.sound id fun c hc hretrying hlt => ?_)
      by_contra hrecorded
      exact hroom (hroomy c hc hretrying hlt (Bool.not_eq_false _ ▸ hrecorded))
  | submit id n smscId messageRef reason =>
    obtain ⟨hlength, hle⟩ := submit_owed h.sound hstep
    exact Inv.account hsound hlength (h.reserved.release hle).event
  | recordAttempt id n smscId outcome reason =>
    rcases recordAttempt_owed hstep with ⟨heq, -⟩ | ⟨hnew, hlength, hle, hlt⟩
    · refine Inv.account hsound (k := 0) (by rw [heq, Nat.add_zero]) (hquiet ?_)
      rw [heq]
      exact h.reserved
    · refine Inv.account hsound hlength ?_
      rcases hroomy hnew with howed | hroom
      · exact (h.reserved.release (hlt howed)).event
      · exact ((h.room hroom).event).release hle
  | finish id status reason =>
    rw [Store.dispatch] at hstep
    split at hstep
    · rename_i hterminal
      have heq := (Option.some.inj hstep).symm
      have hlength : t.store.attempts.length = s.tables.store.attempts.length := by
        rw [heq, Scan.onChain_attempts]
      refine Inv.account hsound hlength (hquiet ?_)
      rw [heq]
      exact h.reserved.release (finish_owed h.sound hterminal)
    · cases hstep
  | settle id n reason =>
    obtain ⟨hlength, hle⟩ := settle_owed h.sound hstep
    exact Inv.account hsound hlength (hquiet (h.reserved.release hle))

theorem inv_step {a : Action} (h : Inv w s) (hroomy : Roomy w s a)
    (hstep : step w s a = some s') : Inv w s' := by
  cases a with
  | tick ms =>
    cases hstep
    exact ⟨h.sound, h.reserved.tick ms⟩
  | act a =>
    simp only [step] at hstep
    split at hstep
    · obtain ⟨t, ht, rfl⟩ := Option.map_eq_some_iff.mp hstep
      rcases step_store ht with ⟨hchains, hattempts, hsound⟩ |
        ⟨k, nowMs, ack, report, rfl, hack, hreport, hstore⟩ | ⟨statement, rfl, hdispatch⟩
      · refine Inv.account (k := 0) (hsound h.sound) (by rw [hattempts, Nat.add_zero]) ?_
        rw [List.replicate_zero, List.append_nil, owed_congr hchains fun id n => by
          rw [Store.recorded, Store.recorded, hattempts]]
        exact h.reserved
      · obtain ⟨hlength, hle, hno⟩ := ingestReport_owed h.sound w.policies report nowMs
        rw [← hstore] at hlength hle hno
        refine Inv.account (k := 0) (hstore ▸ ingestReport_sound h.sound ..)
          (by rw [hlength, Nat.add_zero]) ?_
        rw [List.replicate_zero, List.append_nil]
        by_cases hsets : SetsInMotion w.policies s.tables.store report nowMs
        · exact (h.room (hroomy hack report hreport hsets)).release hle
        · exact h.reserved.release (hno hsets)
      · exact h.dispatch hroomy hdispatch
    · cases hstep

end Account

/-- **The storm cap holds** in every run in which there is room for whatever is set in motion. -/
theorem storm_cap {w : Tenant} {now : Int} {s : State} {as : List Action}
    (hroomy : (storms w).Along (Roomy w) (init now) as)
    (hrun : (storms w).run (init now) as = some s) : Capped w s := by
  have h : Inv w s := (storms w).invariant_along (fun _ _ _ hi hP hstep => inv_step hi hP hstep)
    (inv_init w now) hroomy hrun
  exact fun t => h.reserved.count_le t

/-! Runs, with one retry a minute and a delay of six seconds. -/

theorem twice_check : 1 ≤ 2 ∧ 2 ≤ 5 := by decide

def tenant : Tenant where
  policies := [⟨1, .tenant, none, none, true, 2, true, false, 6, 3600, true, true, 1, 30,
    twice_check⟩]
  allowedSmscIds := ["a", "b"]

/-- A message goes out and fails. -/
def fails (ref sqlId : Nat) : List Action :=
  (.decide ⟨ref, none⟩ :: failure ref "a" sqlId).map .act

/-- What a scan does with a page of `reports`. -/
def scanActions (nowMs : Int) (recent reports : Nat) : List Scan.Action :=
  [.prepare 0 recent, .fetch 0 none] ++ List.replicate (reports + 1) (.next 0 nowMs .ok) ++
    [.record 0 .ok]

/-- A scan at a time. -/
def scanAt (nowMs : Int) (recent reports : Nat) : List Action :=
  (scanActions nowMs recent reports).map .act

/-- The first retry of a chain goes out. -/
def resends (id ref : Nat) : List Action :=
  [.act (.dispatch (.claim id)), .act (.dispatch (.submit id 1 "b" ref "next healthy bind"))]

/-- One message fails, and is sent again. -/
def steadyRun : List Action := fails 1 10 ++ scanAt 0 0 1 ++ .tick 6000 :: resends 0 3

theorem storm_cap_steadyRun :
    ∃ s, (storms tenant).run (init 0) steadyRun = some s ∧ s.made = [6000] ∧ Capped tenant s := by
  have hchecked : (storms tenant).check (Roomy tenant) (init 0) steadyRun = true := by
    decide +kernel
  have hends : ((storms tenant).run (init 0) steadyRun).any (fun s => s.made = [6000]) = true := by
    decide +kernel
  obtain ⟨s, hs, hmade⟩ := (storms tenant).exists_run _ hends
  exact ⟨s, hs, of_decide_eq_true hmade, storm_cap ((storms tenant).along_of_check _ hchecked) hs⟩

/-- Two messages fail within five seconds, which is how often the tenant is scanned. -/
def failsTwice : List Action :=
  fails 1 10 ++ scanAt 0 0 1 ++ .tick 5000 :: (fails 2 20 ++ scanAt 5000 0 1 ++
    .tick 1000 :: (resends 0 3 ++ .tick 4000 :: (scanAt 10000 1 0 ++ .tick 1000 :: resends 1 4)))

/-- **The chains of two scans fall due together**: neither scan counts what the other has set in
motion. -/
theorem openings_fall_due_together :
    ∃ s, (storms tenant).run (init 0) failsTwice = some s ∧ ¬ Capped tenant s := by
  have hends : ((storms tenant).run (init 0) failsTwice).any (fun s =>
      tenant.cap < Window.count BREAKER_WINDOW s.made 11000) = true := by decide +kernel
  obtain ⟨s, hs, hmade⟩ := (storms tenant).exists_run _ hends
  exact ⟨s, hs, fun h => absurd (of_decide_eq_true hmade) (Nat.not_lt.mpr (h 11000))⟩

end Jkannel.Retry.Storm
