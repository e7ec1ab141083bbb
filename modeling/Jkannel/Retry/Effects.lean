import Jkannel.Retry.Machine

/-!
# What a step can do

Every invariant of the retry machine is a case analysis over its steps, and the cases are said once
here.

* `Phase.fence`, `Phase.unsent` and `Phase.unrecorded` are the attempt number a dispatch holds, and
  whether it may still send or record under it; `Phase.Within` compares two phases by them.
* `Effect` lists what an action of a dispatch does, and `dispatch_effect` is the inversion.
* `ChainEffect` lists what any action does to the chain row, and `chain_effect` is the inversion.
-/

namespace Jkannel.Retry

open Transition (Ack)

/-! ## The number a dispatch holds -/

/-- The attempt number a dispatch has claimed and not finished with. -/
def Phase.fence : Phase → Option Nat
  | .claimed n | .bound n _ _ | .submitted n _ _ _ | .fenced n _ _ _ | .sent n _ | .noBind n _
  | .refused n _ _ => some n
  | .finishing _ _ n => n
  | _ => none

/-- The number under which a dispatch may still write to the engine. -/
def Phase.unsent : Phase → Option Nat
  | .claimed n | .bound n _ _ => some n
  | _ => none

/-- The number under which a dispatch has yet to insert an attempt row. -/
def Phase.unrecorded : Phase → Option Nat
  | .claimed n | .bound n _ _ | .submitted n _ _ _ | .fenced n _ _ _ | .noBind n _ => some n
  | _ => none

/-- `p'` claims no more than `p`. -/
structure Phase.Within (p p' : Phase) : Prop where
  fence : ∀ n, p'.fence = some n → p.fence = some n
  unsent : ∀ n, p'.unsent = some n → p.unsent = some n
  unrecorded : ∀ n, p'.unrecorded = some n → p.unrecorded = some n

variable {p : Phase} {n : Nat} {s s' : State} {a : Action}

theorem Phase.unsent_fence (h : p.unsent = some n) : p.fence = some n := by
  cases p <;> simp_all [Phase.unsent, Phase.fence]

theorem Phase.unrecorded_fence (h : p.unrecorded = some n) : p.fence = some n := by
  cases p <;> simp_all [Phase.unrecorded, Phase.fence]

theorem Phase.within_ended (p : Phase) : Phase.Within p .ended :=
  ⟨fun _ h => (by cases h), fun _ h => (by cases h), fun _ h => (by cases h)⟩

/-! ## What an action of a dispatch does -/

/-- Everything an action of dispatch `d`, in phase `p`, can do to the state. -/
inductive Effect (s : State) (d : Nat) (p : Phase) (a : Action) : State → Prop where
  /-- It moves on, and claims no more than before. -/
  | move (p' : Phase) (hw : Phase.Within p p') : Effect s d p a (s.setPhase d p')
  /-- It claims the chain, and may not live to know it. -/
  | claim (c c' : Chain) (p' : Phase) (hc : s.chain = some c) (hclaim : claim c = some c')
      (hp' : p' = .claimed c'.attempts ∨ p' = .ended) :
      Effect s d p a ({ s with chain := some c' }.setPhase d p')
  /-- It writes to the engine, under a number it may still send under. -/
  | insert (n : Nat) (smscId : String) (p' : Phase) (hn : p.unsent = some n)
      (hw : Phase.Within p p') (hdone : p'.unsent = none) :
      Effect s d p a ((s.engineInsert n smscId).setPhase d p')
  /-- It commits the send. -/
  | commit (n : Nat) (smscId : String) (ref : Nat) (reason : String) (p' : Phase)
      (hp : p = .fenced n smscId ref reason) (hw : Phase.Within p p')
      (hdone : p'.unrecorded = none) :
      Effect s d p a ((s.commitSend n smscId ref reason).setPhase d p')
  /-- It records an attempt that was not submitted. -/
  | record (n : Nat) (smscId : Option String) (outcome : AttemptOutcome) (reason : String)
      (applied : Bool) (p' : Phase) (hn : p.fence = some n) (hw : Phase.Within p p')
      (hdone : p'.unrecorded = none) :
      Effect s d p a
        ((if applied then s.recordAttempt n smscId outcome reason else s).setPhase d p')
  /-- It ends the chain. -/
  | finish (status : ChainStatus) (reason : String) (n : Option Nat) (ack : Ack)
      (hp : p = .finishing status reason n) (ha : a = .finish d ack)
      (hcommitted : ack.committed = true) :
      Effect s d p a ((s.onChain fun c => some (terminate status reason c)).setPhase d .ended)

theorem Phase.within_refl (p : Phase) : Phase.Within p p := ⟨fun _ => id, fun _ => id, fun _ => id⟩

/-- From a phase that holds nothing, or to one that does, nothing new is held. -/
theorem Phase.within_of_none {p' : Phase} (h : p'.fence = none) : Phase.Within p p' :=
  ⟨fun n hn => (by rw [h] at hn; cases hn),
    fun n hn => (by have := Phase.unsent_fence hn; rw [h] at this; cases this),
    fun n hn => (by have := Phase.unrecorded_fence hn; rw [h] at this; cases this)⟩

/-- A dispatch keeps its number, and with it at most what it could still do under it. -/
theorem Phase.within_keep {p' : Phase} (hp : p.fence = some n) (hp' : p'.fence = some n)
    (hunsent : p'.unsent = none ∨ p.unsent = some n)
    (hunrecorded : p'.unrecorded = none ∨ p.unrecorded = some n) : Phase.Within p p' := by
  refine ⟨fun m hm => by rw [hp]; rw [hp'] at hm; exact hm, fun m hm => ?_, fun m hm => ?_⟩
  · have hmn : m = n := by
      have := Phase.unsent_fence hm
      rw [hp'] at this
      exact (Option.some.inj this).symm
    rcases hunsent with hnone | hsome
    · rw [hnone] at hm; cases hm
    · rw [hmn]; exact hsome
  · have hmn : m = n := by
      have := Phase.unrecorded_fence hm
      rw [hp'] at this
      exact (Option.some.inj this).symm
    rcases hunrecorded with hnone | hsome
    · rw [hnone] at hm; cases hm
    · rw [hmn]; exact hsome

theorem dispatch_effect {retryId : String} {d : Nat} (ha : ∀ e ack, a = .finish e ack → e = d)
    (hs : dispatchStep retryId s d p a = some s') : Effect s d p a s' := by
  unfold dispatchStep at hs
  split at hs
  case h_1 =>
    split at hs
    · cases hs; exact .move _ (Phase.within_of_none rfl)
    · split at hs <;> (cases hs; exact .move _ (Phase.within_of_none rfl))
  case h_2 =>
    split at hs
    · split at hs
      · rename_i c' hbind
        obtain ⟨c, hc, hclaim⟩ := Option.bind_eq_some_iff.mp hbind
        split at hs
        · cases hs; exact .claim c c' _ hc hclaim (.inl rfl)
        · cases hs; exact .claim c c' _ hc hclaim (.inr rfl)
      · cases hs
        refine .move _ (Phase.within_of_none ?_)
        split <;> rfl
    · cases hs; exact .move _ (Phase.within_ended _)
  case h_3 =>
    -- a bind to send on, or none
    split at hs
    · cases hs
      exact .move _ (Phase.within_keep rfl rfl (.inr rfl) (.inr rfl))
    · cases hs
      exact .move _ (Phase.within_keep rfl rfl (.inl rfl) (.inr rfl))
  case h_4 n smscId reason _ ack =>
    cases ack with
    | ok =>
      cases hs
      exact .insert n smscId _ rfl (Phase.within_keep rfl rfl (.inl rfl) (.inr rfl)) rfl
    | lost error =>
      cases hs
      exact .insert n smscId _ rfl (Phase.within_keep rfl rfl (.inl rfl) (.inl rfl)) rfl
    | refused error =>
      cases hs
      exact .move _ (Phase.within_keep rfl rfl (.inl rfl) (.inl rfl))
  case h_5 =>
    cases hs
    exact .move _ (Phase.within_keep rfl rfl (.inl rfl) (.inl rfl))
  case h_6 =>
    split at hs
    · cases hs
      exact .move _ (Phase.within_keep rfl rfl (.inl rfl) (.inl rfl))
    · split at hs
      · cases hs
        exact .move _ (Phase.within_keep rfl rfl (.inl rfl) (.inl rfl))
      · cases hs
        exact .move _ (Phase.within_keep rfl rfl (.inl rfl) (.inr rfl))
  case h_7 =>
    cases hs
    exact .move _ (Phase.within_keep rfl rfl (.inl rfl) (.inl rfl))
  case h_8 n smscId ref reason _ ack =>
    cases ack with
    | ok | lost _ =>
      cases hs
      exact .commit n smscId ref reason _ rfl
        (Phase.within_keep rfl rfl (.inl rfl) (.inl rfl)) rfl
    | refused error =>
      cases hs
      exact .move _ (Phase.within_keep rfl rfl (.inl rfl) (.inl rfl))
  case h_9 =>
    cases hs
    exact .move _ (Phase.within_keep rfl rfl (.inl rfl) (.inl rfl))
  case h_10 n smscId _ ack =>
    cases ack with
    | ok => cases hs; exact .move _ (Phase.within_ended _)
    | lost _ | refused _ =>
      cases hs
      exact .move _ (Phase.within_keep rfl rfl (.inl rfl) (.inl rfl))
  case h_11 n reason _ applied =>
    cases hs
    exact .record n none .noBind reason applied _ rfl
      (Phase.within_keep rfl rfl (.inl rfl) (.inl rfl)) rfl
  case h_12 n smscId message _ applied =>
    cases hs
    exact .record n (some smscId) .refused _ applied _ rfl
      (Phase.within_keep rfl rfl (.inl rfl) (.inl rfl)) rfl
  case h_13 status reason n e ack =>
    obtain rfl : e = d := ha e ack rfl
    cases hs
    cases ack with
    | ok => exact .finish status reason n .ok rfl rfl rfl
    | lost error => exact .finish status reason n (.lost error) rfl rfl rfl
    | refused error => exact .move _ (Phase.within_ended _)
  case h_14 => cases hs; exact .move _ (Phase.within_ended _)
  case h_15 => cases hs

/-! ## What an action does to the chain -/

/-- Everything an action can make of the chain row. -/
inductive ChainEffect (s : State) (a : Action) : Option Chain → Prop where
  | same : ChainEffect s a s.chain
  /-- A report opens the chain. -/
  | opened (c : Chain) (hnone : s.chain = none) (hzero : c.attempts = 0) :
      ChainEffect s a (some c)
  /-- A dispatch claims it. -/
  | claimed (c c' : Chain) (hc : s.chain = some c) (hclaim : claim c = some c') :
      ChainEffect s a (some c')
  /-- A send is committed. -/
  | resent (d n : Nat) (smscId : String) (ref : Nat) (reason : String) (c c' : Chain)
      (hd : s.dispatcher d = some (.fenced n smscId ref reason)) (hc : s.chain = some c)
      (hm : markResent n smscId c = some c') : ChainEffect s a (some c')
  /-- A negative report of a retry arrives. -/
  | continued (ref : Nat) (event : Int) (smscId : String) (c c' : Chain)
      (ha : a = .continueWith ref event smscId) (hreport : (ref, event) ∈ s.reports)
      (hnegative : negativeEvent event = true)
      (hc : s.chain = some c) (hc' : continueChain smscId event c = some c') :
      ChainEffect s a (some c')
  /-- A scan finds the retry delivered. -/
  | settled (t n : Nat) (ack : Ack) (smscId : Option String) (reason : String) (c : Chain)
      (ha : a = .settleFinish t ack) (hcommitted : ack.committed = true)
      (ht : s.settler t = some (.seen n smscId)) (hc : s.chain = some c) :
      ChainEffect s a (some (terminate .delivered reason c))
  /-- A dispatch ends it. -/
  | finished (d : Nat) (ack : Ack) (status : ChainStatus) (reason : String) (n : Option Nat)
      (c : Chain) (ha : a = .finish d ack) (hcommitted : ack.committed = true)
      (hd : s.dispatcher d = some (.finishing status reason n)) (hc : s.chain = some c) :
      ChainEffect s a (some (terminate status reason c))

/-- A statement on the chain leaves it, or makes of it what the statement says. -/
theorem onChain_chain (s : State) (f : Chain → Option Chain) :
    (s.onChain f).chain = s.chain ∨
      ∃ c c', s.chain = some c ∧ f c = some c' ∧ (s.onChain f).chain = some c' := by
  unfold State.onChain
  split
  · rename_i c' hbind
    obtain ⟨c, hc, hstmt⟩ := Option.bind_eq_some_iff.mp hbind
    exact .inr ⟨c, c', hc, hstmt, rfl⟩
  · exact .inl rfl

theorem Effect.chain {d : Nat} (hp : s.dispatcher d = some p) (he : Effect s d p a s') :
    ChainEffect s a s'.chain := by
  cases he with
  | move _ _ | insert _ _ _ _ _ _ => exact .same
  | claim c c' p' hc hclaim hp' => exact .claimed c c' hc hclaim
  | commit n smscId ref reason p' hpf hw hdone =>
    subst hpf
    rcases onChain_chain s (markResent n smscId) with heq | ⟨c, c', hc, hm, heq⟩
    · simp only [State.commitSend, State.setPhase, heq]; exact .same
    · simp only [State.commitSend, State.setPhase, heq]
      exact .resent d n smscId ref reason c c' hp hc hm
  | record n smscId outcome reason applied p' hn hw hdone =>
    have : ((if applied then s.recordAttempt n smscId outcome reason else s).setPhase d p').chain =
        s.chain := by
      unfold State.recordAttempt
      split
      · split <;> rfl
      · rfl
    rw [this]; exact .same
  | finish status reason n ack hpf ha hcommitted =>
    subst hpf
    rcases onChain_chain s (fun c => some (terminate status reason c)) with
      heq | ⟨c, c', hc, hstmt, heq⟩
    · simp only [State.setPhase, heq]; exact .same
    · cases hstmt
      simp only [State.setPhase, heq]
      exact .finished d ack status reason n c ha hcommitted hp hc

theorem chain_effect {retryId : String} (hs : step retryId s a = some s') :
    ChainEffect s a s'.chain := by
  have hdispatch : ∀ d, (∀ e ack, a = .finish e ack → e = d) →
      (s.dispatcher d).bind (fun p => dispatchStep retryId s d p a) = some s' →
        ChainEffect s a s'.chain := by
    intro d ha hbind
    obtain ⟨p, hp, hstep⟩ := Option.bind_eq_some_iff.mp hbind
    exact (dispatch_effect ha hstep).chain hp
  cases a with
  | report place ref event => cases hs; exact .same
  | ingest origin smscId maxAttempts refused =>
    simp only [step] at hs
    split at hs
    · rename_i c hnone hopen
      cases hs
      exact .opened c hnone (openChain_spec hopen).1
    · cases hs; exact .same
  | continueWith ref event smscId =>
    simp only [step] at hs
    split at hs
    · rename_i hguard
      cases hs
      rcases onChain_chain (s.setDlrEvent (fun a => a.messageRef = some ref) event)
          (continueChain smscId event) with heq | ⟨c, c', hc, hc', heq⟩
      · rw [heq]; exact .same
      · rw [heq]
        exact .continued ref event smscId c c' rfl hguard.1 hguard.2.1 hc hc'
    · cases hs
  | settleLoad t =>
    simp only [step] at hs
    split at hs
    · split at hs
      · split at hs
        · split at hs <;> (cases hs; exact .same)
        · cases hs; exact .same
      · cases hs; exact .same
    · cases hs
  | settleRead _ | load _ _ =>
    simp only [step] at hs
    split at hs
    · split at hs <;> (cases hs; exact .same)
    · cases hs
  | settleFinish t ack =>
    simp only [step] at hs
    split at hs
    · rename_i n smscId ht
      cases hs
      by_cases hack : ack.committed = true
      · rcases onChain_chain (s.setDlrEvent (fun a => a.attemptNo = n) DLR_EVENT_DELIVERED)
            (fun c => some (terminate .delivered ("retry " ++ toString n ++ " on " ++
              smscId.getD "unknown bind" ++ " was delivered") c)) with
          heq | ⟨c, c', hc, hc', heq⟩
        · simp only [hack, if_true, State.setSettle, heq]; exact .same
        · cases hc'
          simp only [hack, if_true, State.setSettle, heq]
          exact .settled t n ack smscId _ c rfl hack ht hc
      · simp only [hack, State.setSettle]; exact .same
    · cases hs
  | finish d ack => exact hdispatch d (fun e ack' he => by cases he; rfl) hs
  | _ => exact hdispatch _ (fun _ _ he => by cases he) hs

end Jkannel.Retry
