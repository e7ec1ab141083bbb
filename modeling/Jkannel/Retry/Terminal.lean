import Jkannel.Retry.Budget

/-!
# How chains end

A chain ends by a statement that looks at nothing but its id, and the read that statement rests on
was made earlier, in another transaction.  Whether an end is final, and whether it is true, is
therefore a question of what came between.

* `InFlight` and `HeldByOther` are the two situations a chain must not be ended in.
* `Undisturbed` is the condition the ends are safe under: the chain is still what the statement's
  author last saw.  Nothing in the statements enforces it.
* `Guarded` is what such runs keep beside the budget's invariant, and `ends_along` what follows.
* `late_finish_breaks` are the runs that break without it.
-/

namespace Jkannel.Retry

open Option
open State (commitSend setPhase onChain)

/-- A retry is in flight at the carrier: the chain is `resent`, and no report says that its latest
attempt failed. -/
def InFlight (s : State) : Prop :=
  ∃ c row ref, s.chain = some c ∧ c.status = .resent ∧ row ∈ s.attempts ∧
    row.attemptNo = c.attempts ∧ row.messageRef = some ref ∧
    ∀ event, negativeEvent event = true → (ref, event) ∉ s.reports

/-- The dispatch an action belongs to. -/
def Action.actor : Action → Option Nat
  | .load d _ | .readReports d | .claim d _ | .chooseBind d _ _ | .insert d _ | .fence d
  | .commit d _ | .sendFails d _ | .charge d _ | .recordAttempt d _ | .finish d _ | .crash d =>
    some d
  | _ => none

/-- A dispatch other than the action's holds the chain's current fence. -/
def HeldByOther (s : State) (a : Action) : Prop :=
  ∃ c d p, s.chain = some c ∧ c.status = .retrying ∧ s.dispatcher d = some p ∧
    p.fence = some c.attempts ∧ a.actor ≠ some d

/-- **The condition chains end well under**: each statement that looks at the id alone arrives
while the chain is still what its author last saw.  A dispatch that lost the claim, or stopped
before it, ends a chain nobody holds; one that claimed it ends its own attempt; a scan settles the
attempt it read, and exhausts the chain by a report of the latest attempt. -/
def Undisturbed (s : State) : Action → Prop
  | .finish d ack => ack.committed = true → ∀ status reason n,
      s.dispatcher d = some (.finishing status reason n) → ∀ c, s.chain = some c →
        match n with
        | some n => c.status = .retrying ∧ c.attempts = n
        | none => c.status.claimable = true ∧ ¬ HeldByOther s (.finish d ack)
  | .settleFinish t ack => ack.committed = true → ∀ n smscId,
      s.settler t = some (.seen n smscId) → ∀ c, s.chain = some c →
        c.status = .resent ∧ c.attempts = n
  | .continueWith ref _ _ => ∀ c, s.chain = some c → c.status = .resent →
      c.maxAttempts ≤ c.attempts →
        ∃ row ∈ s.attempts, row.messageRef = some ref ∧ row.attemptNo = c.attempts
  | _ => True

/-- A dispatch that may still record the current attempt finds the chain as it claimed it. -/
def Guarded (s : State) : Prop :=
  ∀ d p, s.dispatcher d = some p → p.unrecorded = some s.count →
    ∃ c, s.chain = some c ∧ c.status = .retrying

theorem guarded_init : Guarded init := fun _ _ h => by cases h

/-! ## The step -/

variable {s s' : State} {d : Nat} {p : Phase} {a : Action} {retryId : String}

theorem count_of_chain {c : Chain} (hc : s.chain = some c) : s.count = c.attempts := by
  simp [State.count, hc]

/-- The dispatches may change as long as none gains the right to record. -/
theorem Guarded.keep (h : Guarded s) (hchain : s'.chain = s.chain)
    (hdisp : ∀ d p n, s'.dispatcher d = some p → p.unrecorded = some n →
      ∃ q, s.dispatcher d = some q ∧ q.unrecorded = some n) : Guarded s' := by
  have hcount : s'.count = s.count := by simp [State.count, hchain]
  intro d p hp hn
  obtain ⟨q, hq, hqn⟩ := hdisp d p _ hp hn
  rw [hcount] at hqn
  rw [hchain]
  exact h d q hq hqn

/-- Nobody may record the current attempt of a chain that is not being retried. -/
theorem Guarded.quiet (h : Guarded s) {c : Chain} (hc : s.chain = some c)
    (hs : c.status ≠ .retrying) (hp : s.dispatcher d = some p) : p.unrecorded ≠ some s.count := by
  intro hn
  obtain ⟨c', hc', hr⟩ := h d p hp hn
  obtain rfl : c = c' := some.inj (hc.symm.trans hc')
  exact hs hr

/-- A dispatch that moves on gains no right. -/
theorem setPhase_unrecorded {p' : Phase} (hp : s.dispatcher d = some p) (hw : Phase.Within p p')
    {e n : Nat} {q : Phase} (hq : (s.setPhase d p').dispatcher e = some q)
    (hn : q.unrecorded = some n) : ∃ r, s.dispatcher e = some r ∧ r.unrecorded = some n := by
  rcases setPhase_dispatcher hq with ⟨rfl, rfl⟩ | ⟨-, hq'⟩
  · exact ⟨p, hp, hw.unrecorded n hn⟩
  · exact ⟨q, hq', hn⟩

/-- When the dispatch that holds the current number moves past recording it, nobody may. -/
theorem Inv.alone (h : Inv s) {p' : Phase} (hp : s.dispatcher d = some p)
    (hfence : p.fence = some s.count) (hdone : p'.unrecorded = none) {e : Nat} {q : Phase}
    (hq : (s.setPhase d p').dispatcher e = some q) : q.unrecorded ≠ some s.count := by
  intro hn
  rcases setPhase_dispatcher hq with ⟨rfl, rfl⟩ | ⟨hne, hq'⟩
  · rw [hdone] at hn; cases hn
  · exact hne (h.distinct e q d p _ hq' hp (Phase.unrecorded_fence hn) hfence)

theorem Guarded.effect (hi : Inv s) (h : Guarded s) (hu : Undisturbed s a)
    (hp : s.dispatcher d = some p) (he : Effect s d p a s') : Guarded s' := by
  cases he with
  | move p' hw => exact h.keep rfl fun e q n hq hn => setPhase_unrecorded hp hw hq hn
  | claim c c' p' hc hclaim hp' =>
    intro e q _ _
    exact ⟨c', rfl, (claim_spec hclaim).2.2.1⟩
  | insert n smscId p' hn hw hdone =>
    exact h.keep rfl fun e q m hq hm => setPhase_unrecorded hp hw hq hm
  | commit n smscId ref reason p' hpf hw hdone =>
    subst hpf
    rcases onChain_chain s (markResent n smscId) with heq | ⟨c, c', hc, hm, heq⟩
    · refine h.keep ?_ fun e q m hq hm => setPhase_unrecorded hp hw (e := e) ?_ hm
      · simpa [commitSend, setPhase] using heq
      · simpa [commitSend, setPhase] using hq
    · -- the number is the dispatch's own, and it is done with it
      obtain ⟨hn, -, hatt, -⟩ := markResent_spec hm
      have hcount : s.count = n := (count_of_chain hc).trans hn
      intro e q hq hqn
      have hq' : (s.setPhase d p').dispatcher e = some q := by
        simpa [commitSend, setPhase] using hq
      have hcount' : ((s.commitSend n smscId ref reason).setPhase d p').count = s.count := by
        simp [State.count, commitSend, setPhase, heq, hc, hatt]
      rw [hcount'] at hqn
      exact absurd hqn (hi.alone hp (by rw [hcount]; rfl) hdone hq')
  | record n smscId outcome reason applied p' hn hw hdone =>
    have hchain : ((if applied then s.recordAttempt n smscId outcome reason else s).setPhase d
        p').chain = s.chain := by
      unfold State.recordAttempt
      split
      · split <;> rfl
      · rfl
    refine h.keep hchain fun e q m hq hm => setPhase_unrecorded hp hw (e := e) ?_ hm
    unfold State.recordAttempt at hq
    split at hq
    · split at hq <;> exact hq
    · exact hq
  | finish status reason n ack hpf ha hcommitted =>
    subst hpf ha
    cases hc : s.chain with
    | none =>
      have hsame : s.onChain (fun c => some (terminate status reason c)) = s := by
        simp [onChain, hc]
      rw [hsame]
      exact h.keep rfl fun e q m hq hm => setPhase_unrecorded hp (Phase.within_ended _) hq hm
    | some c =>
      have hcond := hu hcommitted status reason n hp c hc
      have hcount : ((s.onChain fun c => some (terminate status reason c)).setPhase d
          .ended).count = s.count := by
        simp [State.count, onChain, setPhase, hc]
      intro e q hq hqn
      have hq' : (s.setPhase d .ended).dispatcher e = some q := by
        simpa [setPhase] using hq
      rw [hcount] at hqn
      cases n with
      | some n =>
        have hfence : (Phase.finishing status reason (some n)).fence = some s.count := by
          rw [count_of_chain hc, hcond.2]; rfl
        exact absurd hqn (hi.alone hp hfence rfl hq')
      | none =>
        -- nobody else holds the chain, so nobody else may record
        rcases setPhase_dispatcher hq' with ⟨rfl, rfl⟩ | ⟨hne, hq''⟩
        · cases hqn
        · obtain ⟨c₁, hc₁, hr⟩ := h e q hq'' hqn
          obtain rfl : c = c₁ := some.inj (hc.symm.trans hc₁)
          have hfence : q.fence = some c.attempts := by
            rw [← count_of_chain hc]; exact Phase.unrecorded_fence hqn
          exact absurd ⟨c, e, q, hc, hr, hq'', hfence, fun he => hne (some.inj he).symm⟩
            hcond.2

/-- A statement on a chain that is not being retried, and that keeps its counter. -/
theorem Guarded.onChain (h : Guarded s) {f : Chain → Option Chain}
    (hf : ∀ c c', s.chain = some c → f c = some c' →
      c'.attempts = c.attempts ∧ c.status ≠ .retrying) : Guarded (s.onChain f) := by
  rcases onChain_chain s f with heq | ⟨c, c', hc, hc', heq⟩
  · exact h.keep heq fun d p n hp hn => ⟨p, by rwa [onChain_dispatcher] at hp, hn⟩
  · obtain ⟨hatt, hstatus⟩ := hf c c' hc hc'
    have hcount : (s.onChain f).count = s.count := by simp [State.count, heq, hc, hatt]
    intro d p hp hn
    rw [onChain_dispatcher] at hp
    rw [hcount] at hn
    exact absurd hn (h.quiet hc hstatus hp)

theorem Guarded.step (hi : Inv s) (h : Guarded s) (hu : Undisturbed s a)
    (hs : step retryId s a = some s') : Guarded s' := by
  have hdispatch : ∀ d, (∀ e ack, a = .finish e ack → e = d) →
      (s.dispatcher d).bind (fun p => dispatchStep retryId s d p a) = some s' → Guarded s' := by
    intro d ha hbind
    obtain ⟨p, hp, hstep⟩ := bind_eq_some_iff.mp hbind
    exact h.effect hi hu hp (dispatch_effect ha hstep)
  have same : ∀ t : State, t.chain = s.chain → t.dispatcher = s.dispatcher → Guarded t :=
    fun t hchain hdisp => h.keep hchain fun d p n hp hn => ⟨p, hdisp ▸ hp, hn⟩
  cases a with
  | report place ref event => cases hs; exact same _ rfl rfl
  | ingest origin smscId maxAttempts refused =>
    simp only [Retry.step] at hs
    split at hs
    · rename_i c hnone hopen
      cases hs
      -- nobody holds a number of a chain that has just been opened
      intro d p hp hn
      have hpos := (hi.fence d p _ hp (Phase.unrecorded_fence hn)).1
      simp [State.count, (openChain_spec hopen).1] at hpos
    · cases hs; exact h
  | continueWith ref event smscId =>
    simp only [Retry.step] at hs
    split at hs
    · cases hs
      have hdlr : Guarded (s.setDlrEvent (fun a => a.messageRef = some ref) event) :=
        same _ rfl rfl
      refine hdlr.onChain fun c c' hc hc' => ?_
      obtain ⟨hresent, -, hatt, -⟩ := continueChain_spec hc'
      exact ⟨hatt, by rw [hresent]; decide⟩
    · cases hs
  | settleLoad t =>
    simp only [Retry.step] at hs
    split at hs
    · split at hs
      · split at hs
        · split at hs <;> (cases hs; exact same _ rfl rfl)
        · cases hs; exact same _ rfl rfl
      · cases hs; exact same _ rfl rfl
    · cases hs
  | settleRead t =>
    simp only [Retry.step] at hs
    split at hs
    · split at hs <;> (cases hs; exact same _ rfl rfl)
    · cases hs
  | settleFinish t ack =>
    simp only [Retry.step] at hs
    split at hs
    · rename_i n smscId ht
      cases hs
      by_cases hack : ack.committed = true
      · simp only [hack, if_true]
        have hend : Guarded ((s.setDlrEvent (fun a => a.attemptNo = n) DLR_EVENT_DELIVERED).onChain
            fun c => some (terminate .delivered ("retry " ++ toString n ++ " on " ++
              smscId.getD "unknown bind" ++ " was delivered") c)) := by
          have hdlr : Guarded (s.setDlrEvent (fun a => a.attemptNo = n) DLR_EVENT_DELIVERED) :=
            same _ rfl rfl
          refine hdlr.onChain fun c c' hc hc' => ?_
          cases hc'
          have hresent := (hu hack n smscId ht c hc).1
          exact ⟨rfl, by rw [hresent]; decide⟩
        exact hend.keep rfl fun d p m hp hm => ⟨p, hp, hm⟩
      · simp only [hack]; exact same _ rfl rfl
    · cases hs
  | load d enabled =>
    simp only [Retry.step] at hs
    split at hs
    · split at hs
      all_goals
        cases hs
        refine h.keep rfl fun e q n hq hn => ?_
        rcases setPhase_dispatcher hq with ⟨rfl, rfl⟩ | ⟨-, hq'⟩
        · cases hn
        · exact ⟨q, hq', hn⟩
    · cases hs
  | finish d ack => exact hdispatch d (fun e ack' he => by cases he; rfl) hs
  | _ => exact hdispatch _ (fun _ _ he => by cases he) hs

/-! ## How the chain ends -/

/-- A chain that has ended keeps its status and its reason. -/
def EndKept (s s' : State) : Prop :=
  ∀ c, s.chain = some c → c.status.terminal = true →
    ∃ c', s'.chain = some c' ∧ c'.status = c.status ∧ c'.terminalReason = c.terminalReason

/-- What the action makes of the chain, if it gives it up, it does not take from the carrier or
from another dispatch. -/
def Harmless (s : State) (a : Action) (s' : State) : Prop :=
  ∀ c c', s.chain = some c → s'.chain = some c' → c' ≠ c →
    (c'.status = .exhausted ∨ c'.status = .failed) → ¬ InFlight s ∧ ¬ HeldByOther s a

theorem end_kept (h : Guarded s) (hu : Undisturbed s a) (hs : step retryId s a = some s') :
    EndKept s s' := by
  intro c hc hend
  have never : ∀ c₀, s.chain = some c₀ → c₀.status.terminal = false → False := by
    intro c₀ hc₀ hlive
    obtain rfl : c = c₀ := some.inj (hc.symm.trans hc₀)
    rw [hend] at hlive
    cases hlive
  have heff := chain_effect hs
  generalize s'.chain = chain' at heff ⊢
  cases heff with
  | same => exact ⟨c, hc, rfl, rfl⟩
  | opened c' hnone => rw [hnone] at hc; cases hc
  | claimed c₀ c' hc₀ hclaim =>
    have hlive := (claim_spec hclaim).1
    exact (never c₀ hc₀ (by revert hlive; cases c₀.status <;> decide)).elim
  | resent d n smscId ref reason c₀ c' hd hc₀ hm =>
    have hcount : s.count = n := (count_of_chain hc₀).trans (markResent_spec hm).1
    obtain ⟨c₁, hc₁, hretrying⟩ := h d _ hd (by rw [hcount]; rfl)
    exact (never c₁ hc₁ (by rw [hretrying]; rfl)).elim
  | continued ref event smscId c₀ c' ha hreport hnegative hc₀ hc' =>
    exact (never c₀ hc₀ (by rw [(continueChain_spec hc').1]; rfl)).elim
  | settled t n ack smscId reason c₀ ha hcommitted ht hc₀ =>
    subst ha
    exact (never c₀ hc₀ (by rw [(hu hcommitted n smscId ht c₀ hc₀).1]; rfl)).elim
  | finished d ack status reason n c₀ ha hcommitted hd hc₀ =>
    subst ha
    have hcond := hu hcommitted status reason n hd c₀ hc₀
    refine (never c₀ hc₀ ?_).elim
    cases n with
    | some n => rw [hcond.1]; rfl
    | none => exact (by have := hcond.1; revert this; cases c₀.status <;> decide)

theorem harmless (hi : Inv s) (hu : Undisturbed s a) (hs : step retryId s a = some s') :
    Harmless s a s' := by
  intro c c' hc hc' hne hgiven
  have heff := chain_effect hs
  rw [hc'] at heff
  generalize hchain : some c' = chain' at heff
  have retrying_not_inFlight : ∀ c₀, s.chain = some c₀ → c₀.status ≠ .resent → ¬ InFlight s := by
    rintro c₀ hc₀ hstatus ⟨c₁, row, ref, hc₁, hresent, -⟩
    obtain rfl : c₀ = c₁ := some.inj (hc₀.symm.trans hc₁)
    exact hstatus hresent
  cases heff with
  | same => exact absurd (some.inj (hchain.trans hc)) hne
  | opened c₁ hnone => rw [hnone] at hc; cases hc
  | claimed c₀ c₁ hc₀ hclaim =>
    cases hchain
    rw [(claim_spec hclaim).2.2.1] at hgiven
    rcases hgiven with h | h <;> cases h
  | resent d n smscId ref reason c₀ c₁ hd hc₀ hm =>
    cases hchain
    rw [(markResent_spec hm).2.1] at hgiven
    rcases hgiven with h | h <;> cases h
  | continued ref event smscId c₀ c₁ ha hreport hnegative hc₀ hcont =>
    cases hchain
    subst ha
    have hresent := (continueChain_spec hcont).1
    refine ⟨?_, ?_⟩
    · rintro ⟨c₂, row, ref', hc₂, -, hrow, hno, href, hquiet⟩
      obtain rfl : c₀ = c₂ := some.inj (hc₀.symm.trans hc₂)
      have hspent : c₀.maxAttempts ≤ c₀.attempts := by
        by_contra hleft
        have : c'.status = .pending := by
          unfold continueChain at hcont
          rw [if_pos hresent, if_neg hleft] at hcont
          cases hcont
          rfl
        rw [this] at hgiven
        rcases hgiven with h | h <;> cases h
      -- the report is of the latest attempt, whose row is the only one of its number
      obtain ⟨row', hrow', href', hno'⟩ := hu c₀ hc₀ hresent hspent
      have hsame : row' = row :=
        List.inj_on_of_nodup_map hi.rows.nodup hrow' hrow (hno'.trans hno.symm)
      rw [hsame, href] at href'
      cases href'
      exact hquiet event hnegative hreport
    · rintro ⟨c₂, d, p, hc₂, hretrying, -⟩
      obtain rfl : c₀ = c₂ := some.inj (hc₀.symm.trans hc₂)
      rw [hresent] at hretrying
      cases hretrying
  | settled t n ack smscId reason c₀ ha hcommitted ht hc₀ =>
    cases hchain
    rcases hgiven with h | h <;> cases h
  | finished d ack status reason n c₀ ha hcommitted hd hc₀ =>
    subst ha
    have hcond := hu hcommitted status reason n hd c₀ hc₀
    cases n with
    | some n =>
      refine ⟨retrying_not_inFlight c₀ hc₀ (by rw [hcond.1]; decide), ?_⟩
      rintro ⟨c₂, e, p, hc₂, -, hp, hfence, hother⟩
      obtain rfl : c₀ = c₂ := some.inj (hc₀.symm.trans hc₂)
      rw [hcond.2] at hfence
      exact hother (congrArg some (hi.distinct d _ e p n hd hp rfl hfence))
    | none =>
      refine ⟨retrying_not_inFlight c₀ hc₀ ?_, hcond.2⟩
      intro hresent
      have := hcond.1
      rw [hresent] at this
      cases this

/-! ## Whole runs -/

theorem EndKept.trans {t u : State} (h₁ : EndKept s t) (h₂ : EndKept t u) : EndKept s u := by
  intro c hc hend
  obtain ⟨c₁, hc₁, hstatus₁, hreason₁⟩ := h₁ c hc hend
  obtain ⟨c₂, hc₂, hstatus₂, hreason₂⟩ := h₂ c₁ hc₁ (by rw [hstatus₁]; exact hend)
  exact ⟨c₂, hc₂, hstatus₂.trans hstatus₁, hreason₂.trans hreason₁⟩

/-- **How chains end.**  In every run in which the ends arrive undisturbed, a chain that has ended
keeps its status and its reason, and no step gives up a chain that is in flight at the carrier or
that another dispatch holds. -/
theorem ends_along {retryId : String} {as : List Action} {s : State}
    (hrun : (retries retryId).run init as = some s)
    (hu : (retries retryId).Along Undisturbed init as) :
    (∀ bs s', (retries retryId).run s bs = some s' →
      (retries retryId).Along Undisturbed s bs → EndKept s s') ∧
    (∀ a s', (retries retryId).step s a = some s' → Undisturbed s a → Harmless s a s') := by
  have hboth : Inv s ∧ Guarded s :=
    (retries retryId).invariant_along (I := fun t => Inv t ∧ Guarded t)
      (fun _ _ _ h hp hs => ⟨inv_step h.1 hs, h.2.step h.1 hp hs⟩) ⟨inv_init, guarded_init⟩ hu hrun
  refine ⟨fun bs s' hrun' hu' => ?_, fun a s' hs hp => harmless hboth.1 hp hs⟩
  exact (retries retryId).monotone_along (I := fun t => Inv t ∧ Guarded t) (R := EndKept)
    (fun _ c hc _ => ⟨c, hc, rfl, rfl⟩) (fun _ _ _ => EndKept.trans)
    (fun _ _ _ h hp hs => ⟨⟨inv_step h.1 hs, h.2.step h.1 hp hs⟩, end_kept h.2 hp hs⟩) hboth hu' hrun'

/-- A chain whose only dispatch finds no bind, and ends it. -/
def strandedRun : List Action :=
  [.ingest 10 "bind-a" 1 none, .load 0 true, .readReports 0, .claim 0 .ok,
   .chooseBind 0 none "no untried bind is available", .recordAttempt 0 true, .finish 0 .ok]

theorem strandedRun_undisturbed : (retries "r").Along Undisturbed init strandedRun := by
  have hfinish : ∀ s, (retries "r").run init (strandedRun.take 6) = some s →
      Undisturbed s (.finish 0 .ok) := by
    intro s hs _ status reason n hd c hc
    cases hs
    obtain ⟨-, -, rfl⟩ := Phase.finishing.inj (some.inj hd)
    cases hc
    exact ⟨rfl, rfl⟩
  iterate 6 refine Transition.System.along_cons _ rfl trivial ?_
  exact Transition.System.along_cons _ rfl (hfinish _ rfl) trivial

theorem ends_along_strandedRun :
    ∃ s, (retries "r").run init strandedRun = some s ∧
      ∀ bs s', (retries "r").run s bs = some s' →
        (retries "r").Along Undisturbed s bs → EndKept s s' :=
  ⟨_, rfl, (ends_along rfl strandedRun_undisturbed).1⟩

/-- Two dispatches of a chain of one attempt: the first claims it and sends, the second loses the
claim and is to end the chain. -/
def racingRun : List Action :=
  [.ingest 10 "bind-a" 1 none,
   .load 0 true, .load 1 true, .readReports 0, .readReports 1, .claim 0 .ok, .claim 1 .ok,
   .chooseBind 0 (some "bind-b") "route", .insert 0 .ok, .fence 0]

/-- The loser's end comes before the winner's commit, and is overwritten; or it comes after, and
gives up a message that is in flight. -/
theorem late_finish_breaks :
    (¬ ∀ as bs s s', (retries "r").run init as = some s → (retries "r").run s bs = some s' →
      EndKept s s') ∧
    (¬ ∀ as a s s', (retries "r").run init as = some s → (retries "r").step s a = some s' →
      Harmless s a s') := by
  constructor
  · intro h
    obtain ⟨s, hs, c, hc, hend, s', hs', c', hc', hlive⟩ : ∃ s,
        (retries "r").run init (racingRun ++ [.finish 1 .ok]) = some s ∧
        ∃ c, s.chain = some c ∧ c.status = .exhausted ∧
        ∃ s', (retries "r").run s [.commit 0 .ok] = some s' ∧
        ∃ c', s'.chain = some c' ∧ c'.status = .resent :=
      ⟨_, rfl, _, rfl, rfl, _, rfl, _, rfl, rfl⟩
    obtain ⟨c₁, hc₁, hkept, -⟩ := h _ _ s s' hs hs' c hc (by rw [hend]; rfl)
    obtain rfl : c' = c₁ := some.inj (hc'.symm.trans hc₁)
    rw [hlive, hend] at hkept
    cases hkept
  · intro h
    obtain ⟨s, hs, c, hc, hresent, row, hrow, hno, href, hreports, s', hs', c', hc', hgiven⟩ :
        ∃ s, (retries "r").run init (racingRun ++ [.commit 0 .ok]) = some s ∧
        ∃ c, s.chain = some c ∧ c.status = .resent ∧
        ∃ row, s.attempts = [row] ∧ row.attemptNo = c.attempts ∧ row.messageRef = some 1 ∧
        s.reports = [] ∧
        ∃ s', (retries "r").step s (.finish 1 .ok) = some s' ∧
        ∃ c', s'.chain = some c' ∧ c'.status = .exhausted :=
      ⟨_, rfl, _, rfl, rfl, _, rfl, rfl, rfl, rfl, _, rfl, _, rfl, rfl⟩
    have hne : c' ≠ c := by
      rintro rfl
      rw [hresent] at hgiven
      cases hgiven
    refine (h _ _ s s' hs hs' c c' hc hc' hne (Or.inl hgiven)).1 ?_
    exact ⟨c, row, 1, hc, hresent, by simp [hrow], hno, href, fun event _ => by simp [hreports]⟩

end Jkannel.Retry
