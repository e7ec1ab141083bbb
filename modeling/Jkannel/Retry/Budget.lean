import Jkannel.Lib.Ledger
import Jkannel.Retry.Effects

/-!
# The retry budget

A chain is re-sent at most `max_attempts` times, however many dispatches of it run, repeat or die.
The argument is about numbers: the claim hands out attempt numbers, one at a time and never past
the maximum, in a transaction that is committed before the engine is written to; a dispatch writes
to the engine at most once, under the number it claimed; so the engine's rows for the chain are
entered under distinct numbers that have been handed out.  The attempt rows are a second ledger
under the same numbers.

* `Inv` is the invariant: the counter within its budget, the two ledgers, and what the dispatches
  under way hold.
* `inv_step` is the step and `budget_run` the result.
-/

namespace Jkannel.Retry

open Attempt (attemptNo)

/-- The attempts committed so far. -/
def State.count (s : State) : Nat := (s.chain.map Chain.attempts).getD 0

/-- What holds of the counter, the two ledgers and the dispatches under way. -/
structure Inv (s : State) : Prop where
  /-- The counter stays within the budget. -/
  budget : ∀ c, s.chain = some c → c.attempts ≤ c.maxAttempts
  /-- The engine's rows are entered under numbers handed out, each once. -/
  spool : Ledger s.count (s.spool.map Submission.attemptNo)
  /-- So are the attempt rows. -/
  rows : Ledger s.count (s.attempts.map attemptNo)
  /-- A dispatch holds a number that was handed out. -/
  fence : ∀ d p n, s.dispatcher d = some p → p.fence = some n → 1 ≤ n ∧ n ≤ s.count
  /-- No two dispatches hold the same number. -/
  distinct : ∀ d p d' p' n, s.dispatcher d = some p → s.dispatcher d' = some p' →
    p.fence = some n → p'.fence = some n → d = d'
  /-- A dispatch that may still write to the engine has not done so. -/
  unsent : ∀ d p n, s.dispatcher d = some p → p.unsent = some n →
    n ∉ s.spool.map Submission.attemptNo
  /-- A dispatch that has yet to record its attempt has not done so. -/
  unrecorded : ∀ d p n, s.dispatcher d = some p → p.unrecorded = some n →
    n ∉ s.attempts.map attemptNo

theorem inv_init : Inv init := by
  refine ⟨?_, Ledger.nil _, Ledger.nil _, ?_, ?_, ?_, ?_⟩ <;> simp [init]

/-! ## What may change, one thing at a time -/

variable {s s' : State} {d n : Nat} {p' p : Phase} {a : Action} {retryId : String}

/-- A dispatch moves to a phase that holds nothing, or to one that claims no more. -/
theorem Inv.move (h : Inv s)
    (hw : p'.fence = none ∨ ∃ p, s.dispatcher d = some p ∧ Phase.Within p p') :
    Inv (s.setPhase d p') := by
  have hdisp : ∀ e q n, (s.setPhase d p').dispatcher e = some q → q.fence = some n →
      ∃ q₀, s.dispatcher e = some q₀ ∧ Phase.Within q₀ q := by
    intro e q n hq hn
    by_cases he : e = d
    · subst he
      obtain rfl : p' = q := by simpa [State.setPhase] using hq
      rcases hw with hnone | hw
      · rw [hnone] at hn; cases hn
      · exact hw
    · exact ⟨q, by simpa [State.setPhase, Function.update_of_ne he] using hq, Phase.within_refl q⟩
  refine ⟨h.budget, h.spool, h.rows, ?_, ?_, ?_, ?_⟩
  · intro e q n hq hn
    obtain ⟨q₀, hq₀, hwq⟩ := hdisp e q n hq hn
    exact h.fence e q₀ n hq₀ (hwq.fence n hn)
  · intro e q e' q' n hq hq' hn hn'
    obtain ⟨q₀, hq₀, hwq⟩ := hdisp e q n hq hn
    obtain ⟨q₁, hq₁, hwq'⟩ := hdisp e' q' n hq' hn'
    exact h.distinct e q₀ e' q₁ n hq₀ hq₁ (hwq.fence n hn) (hwq'.fence n hn')
  · intro e q n hq hn
    obtain ⟨q₀, hq₀, hwq⟩ := hdisp e q n hq (Phase.unsent_fence hn)
    exact h.unsent e q₀ n hq₀ (hwq.unsent n hn)
  · intro e q n hq hn
    obtain ⟨q₀, hq₀, hwq⟩ := hdisp e q n hq (Phase.unrecorded_fence hn)
    exact h.unrecorded e q₀ n hq₀ (hwq.unrecorded n hn)

theorem Inv.setPhase (h : Inv s) (hp : s.dispatcher d = some p) (hw : Phase.Within p p') :
    Inv (s.setPhase d p') :=
  h.move (.inr ⟨p, hp, hw⟩)

/-- The chain may change as long as its counter does not. -/
theorem Inv.chain (h : Inv s) (hcount : s'.count = s.count)
    (hbudget : ∀ c, s'.chain = some c → c.attempts ≤ c.maxAttempts) (hspool : s'.spool = s.spool)
    (hrows : s'.attempts.map attemptNo = s.attempts.map attemptNo)
    (hdisp : s'.dispatcher = s.dispatcher) : Inv s' where
  budget := hbudget
  spool := by rw [hcount, hspool]; exact h.spool
  rows := by rw [hcount, hrows]; exact h.rows
  fence := by rw [hcount, hdisp]; exact h.fence
  distinct := by rw [hdisp]; exact h.distinct
  unsent := by rw [hdisp, hspool]; exact h.unsent
  unrecorded := by rw [hdisp, hrows]; exact h.unrecorded

@[simp] theorem setDlrEvent_numbers (s : State) (p : Attempt → Bool) (event : Int) :
    (s.setDlrEvent p event).attempts.map attemptNo = s.attempts.map attemptNo := by
  simp only [State.setDlrEvent, List.map_map]
  refine List.map_congr_left fun a _ => ?_
  simp only [Function.comp]
  split <;> rfl

/-- A statement on the chain that keeps its counters. -/
theorem Inv.onChain (h : Inv s) {f : Chain → Option Chain}
    (hf : ∀ c c', f c = some c' → c'.attempts = c.attempts ∧ c'.maxAttempts = c.maxAttempts) :
    Inv (s.onChain f) := by
  unfold State.onChain
  split
  · rename_i c' hbind
    obtain ⟨c, hc, hstmt⟩ := Option.bind_eq_some_iff.mp hbind
    obtain ⟨hatt, hmax⟩ := hf c c' hstmt
    refine h.chain ?_ ?_ rfl rfl rfl
    · simp [State.count, hc, hatt]
    · intro c₁ hc₁
      obtain rfl : c' = c₁ := by simpa using hc₁
      rw [hatt, hmax]
      exact h.budget c hc
  · exact h

theorem Inv.setDlrEvent (h : Inv s) (p : Attempt → Bool) (event : Int) :
    Inv (s.setDlrEvent p event) :=
  h.chain rfl h.budget rfl (setDlrEvent_numbers s p event) rfl

/-- The dispatches of a state whose dispatch `d` has moved on: `d` itself, and the others as they
were. -/
theorem setPhase_dispatcher {e : Nat} {q : Phase} (h : (s.setPhase d p).dispatcher e = some q) :
    (e = d ∧ q = p) ∨ (e ≠ d ∧ s.dispatcher e = some q) := by
  by_cases he : e = d
  · subst he
    exact .inl ⟨rfl, by simpa [State.setPhase, eq_comm] using h⟩
  · exact .inr ⟨he, by simpa [State.setPhase, Function.update_of_ne he] using h⟩

/-- A claim hands out the next number. -/
theorem Inv.claim (h : Inv s) {c c' : Chain} (hp : s.dispatcher d = some p) (hc : s.chain = some c)
    (hclaim : claim c = some c') :
    Inv ({ s with chain := some c' }.setPhase d (.claimed c'.attempts)) := by
  obtain ⟨-, hlt, -, hatt, hmax⟩ := claim_spec hclaim
  have hcount : s.count = c.attempts := by simp [State.count, hc]
  have hcount' : ({ s with chain := some c' }.setPhase d (.claimed c'.attempts)).count =
      s.count + 1 := by
    simp [State.count, State.setPhase, hc, hatt]
  have hle : s.count ≤ s.count + 1 := Nat.le_succ _
  have hnew : c'.attempts = s.count + 1 := by rw [hatt, hcount]
  refine ⟨?_, ?_, ?_, ?_, ?_, ?_, ?_⟩
  · intro c₁ hc₁
    obtain rfl : c' = c₁ := by simpa [State.setPhase] using hc₁
    omega
  · rw [hcount']; exact h.spool.mono hle
  · rw [hcount']; exact h.rows.mono hle
  · intro e q n hq hn
    rw [hcount']
    rcases setPhase_dispatcher hq with ⟨rfl, rfl⟩ | ⟨-, hq'⟩
    · obtain rfl : c'.attempts = n := by simpa [Phase.fence] using hn
      omega
    · have := h.fence e q n hq' hn
      omega
  · intro e q e' q' n hq hq' hn hn'
    rcases setPhase_dispatcher hq with ⟨rfl, rfl⟩ | ⟨-, hq₀⟩ <;>
      rcases setPhase_dispatcher hq' with ⟨rfl, rfl⟩ | ⟨-, hq₁⟩
    · rfl
    · obtain rfl : c'.attempts = n := by simpa [Phase.fence] using hn
      have := h.fence e' q' _ hq₁ hn'
      omega
    · obtain rfl : c'.attempts = n := by simpa [Phase.fence] using hn'
      have := h.fence e q _ hq₀ hn
      omega
    · exact h.distinct e q e' q' n hq₀ hq₁ hn hn'
  · intro e q n hq hn
    rcases setPhase_dispatcher hq with ⟨rfl, rfl⟩ | ⟨-, hq'⟩
    · obtain rfl : c'.attempts = n := by simpa [Phase.unsent] using hn
      intro hmem
      have := h.spool.within _ hmem
      omega
    · exact h.unsent e q n hq' hn
  · intro e q n hq hn
    rcases setPhase_dispatcher hq with ⟨rfl, rfl⟩ | ⟨-, hq'⟩
    · obtain rfl : c'.attempts = n := by simpa [Phase.unrecorded] using hn
      intro hmem
      have := h.rows.within _ hmem
      omega
    · exact h.unrecorded e q n hq' hn

/-- The engine takes the number of the dispatch that writes to it, which moves on. -/
theorem Inv.engineInsert (h : Inv s) {smscId : String} (hp : s.dispatcher d = some p)
    (hn : p.unsent = some n) (hw : Phase.Within p p') (hdone : p'.unsent = none) :
    Inv ((s.engineInsert n smscId).setPhase d p') := by
  have h' := h.setPhase hp hw
  have hfence := Phase.unsent_fence hn
  obtain ⟨hone, hle⟩ := h.fence d p n hp hfence
  have hfresh := h.unsent d p n hp hn
  refine ⟨h'.budget, ?_, h'.rows, h'.fence, h'.distinct, ?_, h'.unrecorded⟩
  · have hnumbers : ((s.engineInsert n smscId).setPhase d p').spool.map Submission.attemptNo =
        s.spool.map Submission.attemptNo ++ [n] := by
      simp [State.engineInsert, State.setPhase]
    rw [hnumbers]
    exact h.spool.append hone hle hfresh
  · intro e q m hq hm
    have hother : m ≠ n := by
      rintro rfl
      rcases setPhase_dispatcher hq with ⟨rfl, rfl⟩ | ⟨hne, hq'⟩
      · rw [hdone] at hm; cases hm
      · exact hne (h.distinct e q d p m hq' hp (Phase.unsent_fence hm) hfence)
    have := h'.unsent e q m hq hm
    simpa [State.engineInsert, State.setPhase, hother] using this

/-- An attempt row is entered under the number of the dispatch that inserts it, which moves on. -/
theorem Inv.insertRow (h : Inv s) {row : Attempt} (hp : s.dispatcher d = some p)
    (hfence : p.fence = some n) (hrow : row.attemptNo = n) (hfresh : n ∉ s.attempts.map attemptNo)
    (hw : Phase.Within p p') (hdone : p'.unrecorded = none) :
    Inv ({ s with attempts := s.attempts ++ [row] }.setPhase d p') := by
  have h' := h.setPhase hp hw
  obtain ⟨hone, hle⟩ := h.fence d p n hp hfence
  refine ⟨h'.budget, h'.spool, ?_, h'.fence, h'.distinct, h'.unsent, ?_⟩
  · have hnumbers : ({ s with attempts := s.attempts ++ [row] }.setPhase d p').attempts.map
        attemptNo = s.attempts.map attemptNo ++ [n] := by
      simp [State.setPhase, hrow]
    rw [hnumbers]
    exact h.rows.append hone hle hfresh
  · intro e q m hq hm
    have hother : m ≠ n := by
      rintro rfl
      rcases setPhase_dispatcher hq with ⟨rfl, rfl⟩ | ⟨hne, hq'⟩
      · rw [hdone] at hm; cases hm
      · exact hne (h.distinct e q d p m hq' hp (Phase.unrecorded_fence hm) hfence)
    have := h'.unrecorded e q m hq hm
    simpa [State.setPhase, hrow, hother] using this

theorem recorded_iff (s : State) (n : Nat) :
    s.recorded n = true ↔ n ∈ s.attempts.map attemptNo := by
  simp [State.recorded]

/-- Recording an attempt that was not submitted, unless a row of that number is there. -/
theorem Inv.recordAttempt (h : Inv s) {smscId : Option String} {outcome : AttemptOutcome}
    {reason : String} {applied : Bool} (hp : s.dispatcher d = some p) (hfence : p.fence = some n)
    (hw : Phase.Within p p') (hdone : p'.unrecorded = none) :
    Inv ((if applied then s.recordAttempt n smscId outcome reason else s).setPhase d p') := by
  unfold State.recordAttempt
  split
  · split
    · exact h.setPhase hp hw
    · rename_i hnot
      exact h.insertRow hp hfence rfl (fun hmem => hnot ((recorded_iff s n).mpr hmem)) hw hdone
  · exact h.setPhase hp hw

/-- The send's transaction: the chain keeps its counter, and the attempt gets its row. -/
theorem Inv.commitSend (h : Inv s) {ref : Nat} {smscId reason : String}
    (hp : s.dispatcher d = some (.fenced n smscId ref reason))
    (hw : Phase.Within (.fenced n smscId ref reason) p') (hdone : p'.unrecorded = none) :
    Inv ((s.commitSend n smscId ref reason).setPhase d p') := by
  have hchain : Inv (s.onChain (markResent n smscId)) :=
    h.onChain fun c c' hm => (markResent_spec hm).2.2
  have hp' : (s.onChain (markResent n smscId)).dispatcher d =
      some (.fenced n smscId ref reason) := by rw [onChain_dispatcher]; exact hp
  have hfresh : n ∉ (s.onChain (markResent n smscId)).attempts.map attemptNo := by
    rw [onChain_attempts]
    exact h.unrecorded d _ n hp rfl
  have hins := fun (row : Attempt) (hrow : row.attemptNo = n) => hchain.insertRow hp' rfl hrow hfresh hw hdone
  simpa only [State.commitSend, onChain_attempts] using
    hins ⟨n, some smscId, .submitted, some ref, none, reason⟩ rfl

/-! ## The step -/

/-- **One step of a dispatch.** -/
theorem Inv.effect (h : Inv s) (hp : s.dispatcher d = some p) (he : Effect s d p a s') :
    Inv s' := by
  cases he with
  | move p' hw => exact h.setPhase hp hw
  | claim c c' p' hc hclaim hp' =>
    have hclaimed := h.claim hp hc hclaim
    rcases hp' with rfl | rfl
    · exact hclaimed
    · -- the dispatch dies holding the number it was given
      have hd : ({ s with chain := some c' }.setPhase d (.claimed c'.attempts)).dispatcher d =
          some (.claimed c'.attempts) := by simp [State.setPhase]
      have hend := hclaimed.setPhase hd (Phase.within_ended _)
      simpa [State.setPhase] using hend
  | insert n smscId p' hn hw hdone => exact h.engineInsert hp hn hw hdone
  | commit n smscId ref reason p' hpf hw hdone =>
    subst hpf
    exact h.commitSend hp hw hdone
  | record n smscId outcome reason applied p' hn hw hdone =>
    exact h.recordAttempt hp hn hw hdone
  | finish status reason n ack hpf ha hcommitted =>
    have hchain : Inv (s.onChain fun c => some (terminate status reason c)) :=
      h.onChain fun c c' hc => by cases hc; exact ⟨rfl, rfl⟩
    exact hchain.setPhase (by rw [onChain_dispatcher]; exact hp) (Phase.within_ended _)

theorem Inv.setSettle (h : Inv s) (t : Nat) (p : Settle) : Inv (s.setSettle t p) :=
  h.chain rfl h.budget rfl rfl rfl

/-- **One step.** -/
theorem inv_step (h : Inv s) (hs : step retryId s a = some s') : Inv s' := by
  have hdispatch : ∀ d, (∀ e ack, a = .finish e ack → e = d) →
      (s.dispatcher d).bind (fun p => dispatchStep retryId s d p a) = some s' → Inv s' := by
    intro d ha hbind
    obtain ⟨p, hp, hstep⟩ := Option.bind_eq_some_iff.mp hbind
    exact h.effect hp (dispatch_effect ha hstep)
  cases a with
  | report place ref event => cases hs; exact h.chain rfl h.budget rfl rfl rfl
  | ingest origin smscId maxAttempts refused =>
    simp only [step] at hs
    split at hs
    · rename_i c hnone hopen
      cases hs
      obtain ⟨hzero, -⟩ := openChain_spec hopen
      refine h.chain ?_ ?_ rfl rfl rfl
      · simp [State.count, hnone, hzero]
      · intro c₁ hc₁
        obtain rfl : c = c₁ := by simpa using hc₁
        omega
    · cases hs; exact h
  | continueWith ref event smscId =>
    simp only [step] at hs
    split at hs
    · cases hs
      exact (h.setDlrEvent _ _).onChain fun c c' hc => (continueChain_spec hc).2.2
    · cases hs
  | settleLoad t =>
    simp only [step] at hs
    split at hs
    · split at hs
      · split at hs
        · split at hs <;> (cases hs; exact h.setSettle ..)
        · cases hs; exact h.setSettle ..
      · cases hs; exact h.setSettle ..
    · cases hs
  | settleRead t =>
    simp only [step] at hs
    split at hs
    · split at hs <;> (cases hs; exact h.setSettle ..)
    · cases hs
  | settleFinish t ack =>
    simp only [step] at hs
    split at hs
    · cases hs
      refine Inv.setSettle ?_ t .ended
      split
      · exact (h.setDlrEvent _ _).onChain fun c c' hc => by cases hc; exact ⟨rfl, rfl⟩
      · exact h
    · cases hs
  | load d enabled =>
    simp only [step] at hs
    split at hs
    · split at hs <;> (cases hs; exact h.move (.inl rfl))
    · cases hs
  | finish d ack => exact hdispatch d (fun e ack' he => by cases he; rfl) hs
  | _ => exact hdispatch _ (fun _ _ he => by cases he) hs

theorem inv_run {as : List Action} (hrun : (retries retryId).run init as = some s) : Inv s :=
  (retries retryId).invariant_run (fun _ _ _ hi hs => inv_step hi hs) inv_init hrun

/-! ## The budget -/

/-- The same chain, later: no fewer attempts, out of as many. -/
def Later (s s' : State) : Prop :=
  ∀ c, s.chain = some c →
    ∃ c', s'.chain = some c' ∧ c.attempts ≤ c'.attempts ∧ c'.maxAttempts = c.maxAttempts

theorem step_later (hs : step retryId s a = some s') : Later s s' := by
  intro c hc
  have later : ∀ c₀ c' : Chain, s.chain = some c₀ → c₀.attempts ≤ c'.attempts →
      c'.maxAttempts = c₀.maxAttempts → ∃ c₁, some c' = some c₁ ∧ c.attempts ≤ c₁.attempts ∧
        c₁.maxAttempts = c.maxAttempts := by
    intro c₀ c' hc₀ hatt hmax
    obtain rfl : c = c₀ := Option.some.inj (hc.symm.trans hc₀)
    exact ⟨c', rfl, hatt, hmax⟩
  have heff := chain_effect hs
  generalize s'.chain = chain' at heff ⊢
  cases heff with
  | same => exact ⟨c, hc, Nat.le_refl _, rfl⟩
  | opened c' hnone => rw [hnone] at hc; cases hc
  | claimed c₀ c' hc₀ hclaim =>
    obtain ⟨-, -, -, hatt, hmax⟩ := claim_spec hclaim
    exact later c₀ c' hc₀ (by omega) hmax
  | resent d n smscId ref reason c₀ c' hd hc₀ hm =>
    obtain ⟨-, -, hatt, hmax⟩ := markResent_spec hm
    exact later c₀ c' hc₀ (by omega) hmax
  | continued ref event smscId c₀ c' ha hreport hnegative hc₀ hc' =>
    obtain ⟨-, -, hatt, hmax⟩ := continueChain_spec hc'
    exact later c₀ c' hc₀ (by omega) hmax
  | settled _ _ _ _ _ c₀ _ _ _ hc₀ | finished _ _ _ _ _ c₀ _ _ _ hc₀ =>
    exact later c₀ _ hc₀ (Nat.le_refl _) rfl

theorem run_later {as : List Action} (hrun : (retries retryId).run s as = some s') : Later s s' :=
  (retries retryId).monotone_along (P := fun _ _ => True) (I := fun _ => True) (R := Later)
    (fun _ c hc => ⟨c, hc, Nat.le_refl _, rfl⟩)
    (fun _ _ _ h₁ h₂ c hc => by
      obtain ⟨c₁, hc₁, hatt₁, hmax₁⟩ := h₁ c hc
      obtain ⟨c₂, hc₂, hatt₂, hmax₂⟩ := h₂ c₁ hc₁
      exact ⟨c₂, hc₂, Nat.le_trans hatt₁ hatt₂, hmax₂.trans hmax₁⟩)
    (fun _ _ _ _ _ hs => ⟨trivial, step_later hs⟩) trivial
    ((retries retryId).along_of_forall (fun _ _ => trivial) s as) hrun

/-- **The retry budget.**  After any run of dispatches, scans, reports and crashes, the engine has
been given no more rows for the chain than the chain may be attempted, the counter is within the
maximum and will never be lower, and no attempt number has two rows. -/
theorem budget_run {retryId : String} {as : List Action} {s : State} {c : Chain}
    (hrun : (retries retryId).run init as = some s) (hc : s.chain = some c) :
    s.spool.length ≤ c.maxAttempts ∧
    c.attempts ≤ c.maxAttempts ∧
    (s.attempts.map attemptNo).Nodup ∧
    ∀ bs s', (retries retryId).run s bs = some s' →
      ∃ c', s'.chain = some c' ∧ c.attempts ≤ c'.attempts ∧ c'.maxAttempts = c.maxAttempts := by
  have h := inv_run hrun
  have hcount : s.count = c.attempts := by simp [State.count, hc]
  have hbudget := h.budget c hc
  refine ⟨?_, hbudget, h.rows.nodup, fun bs s' hrun' => run_later hrun' c hc⟩
  calc s.spool.length = (s.spool.map Submission.attemptNo).length := (List.length_map ..).symm
    _ ≤ s.count := h.spool.length_le
    _ ≤ c.maxAttempts := by omega

/-- A chain of two attempts: the first dispatch dies after writing to the engine, the second is
sent, and its own report fails the chain. -/
def tornRun : List Action :=
  [.ingest 10 "bind-a" 2 none,
   .load 0 true, .readReports 0, .claim 0 .ok, .chooseBind 0 (some "bind-b") "route",
   .insert 0 .ok, .crash 0,
   .load 1 true, .readReports 1, .claim 1 .ok, .chooseBind 1 (some "bind-c") "route",
   .insert 1 .ok, .fence 1, .commit 1 .ok, .charge 1 .ok,
   .report 0 2 2, .continueWith 2 2 "bind-c"]

theorem budget_run_tornRun :
    ∃ s c, (retries "r").run init tornRun = some s ∧ s.chain = some c ∧ c.status = .exhausted ∧
      s.spool.length = 2 ∧ s.spool.length ≤ c.maxAttempts := by
  obtain ⟨s, hs, c, hc, hstatus, hlen⟩ : ∃ s, (retries "r").run init tornRun = some s ∧
      ∃ c, s.chain = some c ∧ c.status = .exhausted ∧ s.spool.length = 2 :=
    ⟨_, rfl, _, rfl, rfl, rfl⟩
  exact ⟨s, c, hs, hc, hstatus, hlen, (budget_run hs hc).1⟩

end Jkannel.Retry
