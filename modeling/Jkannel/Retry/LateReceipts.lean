import Jkannel.Engine.Receipts
import Jkannel.QueueConsole.Resend
import Jkannel.Retry.Effects

/-!
# Receipts that come late

A carrier may report a message as failed after it has reported it as delivered, or the other way
round.  The log, the resend, the dispatch of a retry and the settling of a chain all look at the
newest receipt and no other.

* `Mirrors` is when the chain's state machine has the receipts of a log, and `latestEvent_eq` that a
  dispatch then sees the newest receipt the log has.
* `over_run` is why a dispatch that has seen a delivery is the end of it: it never writes to the
  engine again.
* `Final` is what all four should come to once there is a receipt of delivery, and
  `delivered_is_final_iff` when they do.
-/

namespace Jkannel.Retry

open List Option
open Engine QueueConsole

/-! ## The log and the state machine -/

/-- The correlation ids of the chain: its original message's and its re-sends'. -/
def State.correlations (s : State) : List Nat :=
  (s.chain.map Chain.originMessageRef).toList ++ s.attempts.filterMap Attempt.messageRef

/-- The state has the log's receipts of its messages, in the order the engine sorts them. -/
def Mirrors (s : State) (sent : List SqlboxRow) : Prop :=
  ∀ ref ∈ s.correlations, (s.reports.filter fun p => p.1 = ref).map Prod.snd =
    ((receiptsOf sent (toString ref)).insertionSort (compareRows · · ≠ .gt)).map
      fun r => r.dlrMask.getD 0

instance (s : State) (sent : List SqlboxRow) : Decidable (Mirrors s sent) :=
  inferInstanceAs (Decidable (∀ ref ∈ s.correlations, _))

section Mirrors

variable {s : State} {t : EngineTable} {ref : Nat}

/-- The last of the receipts in the order of time is the newest. -/
theorem getLast?_receipts (foreignId : String) :
    ((receiptsOf t.rows foreignId).insertionSort (compareRows · · ≠ .gt)).getLast? =
      newestReceipt t.rows foreignId := by
  cases hlast : ((receiptsOf t.rows foreignId).insertionSort (compareRows · · ≠ .gt)).getLast? with
  | none =>
    have hnil := getLast?_eq_none_iff.mp hlast
    have hlength := length_insertionSort (compareRows · · ≠ .gt) (receiptsOf t.rows foreignId)
    rw [hnil] at hlength
    rw [newestReceipt, eq_nil_of_length_eq_zero hlength.symm]
    rfl
  | some r =>
    symm
    rw [newestReceipt_iff]
    have hsorted := @Ranking.pairwise_insertionSort _ compareRows _
      (receiptsOf t.rows foreignId)
    obtain ⟨before, hbefore⟩ := getLast?_eq_some_iff.mp hlast
    have hmem : ∀ {x : SqlboxRow}, x ∈ receiptsOf t.rows foreignId ↔ x ∈ before ++ [r] := by
      intro x
      rw [← hbefore, mem_insertionSort]
    refine ⟨hmem.mpr (by simp), fun x hx => ?_⟩
    rw [hbefore] at hsorted
    rcases mem_append.mp (hmem.mp hx) with hx | hx
    · exact (pairwise_append.mp hsorted).2.2 x hx r (mem_singleton_self r)
    · rw [mem_singleton.mp hx, show compareNewest r r = .eq from Std.ReflCmp.compare_self]
      exact Ordering.noConfusion

/-- **A dispatch sees the newest receipt.** -/
theorem latestEvent_eq (h : Mirrors s t.rows) (href : ref ∈ s.correlations) :
    s.latestEvent ref = (newestReceipt t.rows (toString ref)).map fun r => r.dlrMask.getD 0 := by
  rw [State.latestEvent, ← getLast?_receipts, ← getLast?_map, ← getLast?_map, h ref href]

theorem latestEvent_delivered (h : Mirrors s t.rows) (href : ref ∈ s.correlations) :
    s.latestEvent ref = some DLR_EVENT_DELIVERED ↔ NewestDelivered t.rows (toString ref) := by
  rw [latestEvent_eq h href, map_eq_some_iff]
  refine exists_congr fun r => and_congr newestReceipt_iff ?_
  cases r.dlrMask with
  | none => exact ⟨fun h => (by cases h), fun h => by cases h⟩
  | some mask => exact ⟨fun h => congrArg some h, fun h => some.inj h⟩

end Mirrors

/-! ## A dispatch that is over -/

/-- The dispatch has nothing left to do but to end the chain. -/
def Over (s : State) (d : Nat) : Prop :=
  s.dispatcher d = some .ended ∨
    ∃ status reason n, s.dispatcher d = some (.finishing status reason n)

section Over

variable {retryId : String} {s s' : State} {d e : Nat} {a : Action}

theorem setPhase_dispatcher_ne (s : State) (p : Phase) (hd : d ≠ e) :
    (s.setPhase e p).dispatcher d = s.dispatcher d := by
  simp [State.setPhase, hd]

theorem setPhase_dispatcher_self (s : State) (p : Phase) :
    (s.setPhase d p).dispatcher d = some p := by
  simp [State.setPhase]

/-- A dispatch does not touch another. -/
theorem Effect.dispatcher {p : Phase} (h : Effect s e p a s') (hd : d ≠ e) :
    s'.dispatcher d = s.dispatcher d := by
  cases h with
  | move p' hw => exact setPhase_dispatcher_ne s p' hd
  | claim _ _ p' _ _ _ | insert _ _ p' _ _ _ => exact setPhase_dispatcher_ne _ p' hd
  | commit n smscId ref reason p' hp hw hdone =>
    rw [setPhase_dispatcher_ne _ p' hd, State.commitSend]
    exact congrFun (onChain_dispatcher s _) d
  | record n smscId outcome reason applied p' hn hw hdone =>
    rw [setPhase_dispatcher_ne _ p' hd]
    split
    · rw [State.recordAttempt]
      split
      · rfl
      · rfl
    · rfl
  | finish status reason n ack hp ha hcommitted =>
    rw [setPhase_dispatcher_ne _ .ended hd, onChain_dispatcher]

/-- What a dispatch that is over may still do is to end. -/
theorem over_dispatchStep {p : Phase}
    (hp : p = .ended ∨ ∃ status reason n, p = .finishing status reason n)
    (hs : dispatchStep retryId s d p a = some s') : s'.dispatcher d = some .ended := by
  rcases hp with rfl | ⟨status, reason, n, rfl⟩
  · cases a with
    | crash e =>
      cases hs
      exact setPhase_dispatcher_self s .ended
    | _ => cases hs
  · cases a with
    | crash e =>
      cases hs
      exact setPhase_dispatcher_self s .ended
    | finish e ack =>
      cases hs
      exact setPhase_dispatcher_self _ .ended
    | _ => cases hs

theorem over_step (h : Over s d) (hs : step retryId s a = some s') : Over s' d := by
  have hsame : s'.dispatcher d = s.dispatcher d → Over s' d := by
    intro hsame
    rwa [Over, hsame]
  have hdispatch : ∀ e, (∀ e' ack, a = .finish e' ack → e' = e) →
      (s.dispatcher e).bind (fun p => dispatchStep retryId s e p a) = some s' → Over s' d := by
    intro e ha hbind
    obtain ⟨p, hp, hstep⟩ := bind_eq_some_iff.mp hbind
    by_cases hd : d = e
    · subst hd
      refine .inl (over_dispatchStep ?_ hstep)
      rcases h with h | ⟨status, reason, n, h⟩
      · exact .inl (some.inj (hp.symm.trans h))
      · exact .inr ⟨status, reason, n, some.inj (hp.symm.trans h)⟩
    · exact hsame ((dispatch_effect ha hstep).dispatcher hd)
  cases a with
  | report place ref event => cases hs; exact h
  | ingest origin smscId maxAttempts refused =>
    simp only [step] at hs
    split at hs <;> (cases hs; exact h)
  | continueWith ref event smscId =>
    simp only [step] at hs
    split at hs
    · cases hs
      exact hsame (congrFun (onChain_dispatcher _ _) d)
    · cases hs
  | settleLoad t =>
    simp only [step] at hs
    split at hs
    · split at hs
      · split at hs
        · split at hs <;> (cases hs; exact h)
        · cases hs; exact h
      · cases hs; exact h
    · cases hs
  | settleRead t =>
    simp only [step] at hs
    split at hs
    · split at hs <;> (cases hs; exact h)
    · cases hs
  | settleFinish t ack =>
    simp only [step] at hs
    split at hs
    · cases hs
      refine hsame ?_
      split
      · exact congrFun (onChain_dispatcher _ _) d
      · rfl
    · cases hs
  | load e enabled =>
    simp only [step] at hs
    split at hs
    · next hnone hchain =>
      have hd : d ≠ e := by
        rintro rfl
        rcases h with h | ⟨status, reason, n, h⟩ <;> (rw [h] at hnone; cases hnone)
      split at hs <;> (cases hs; exact hsame (setPhase_dispatcher_ne s _ hd))
    · cases hs
  | finish e ack => exact hdispatch e (fun e' ack' he => by cases he; rfl) hs
  | _ => exact hdispatch _ (fun _ _ he => by cases he) hs

/-- **A dispatch that is over stays over**, whatever else happens. -/
theorem over_run {as : List Action} (h : Over s d)
    (hrun : (retries retryId).run s as = some s') : Over s' d :=
  (retries retryId).invariant_run (fun _ _ _ h hs => over_step h hs) h hrun

theorem over_insert {ack : Transition.Ack} (h : Over s d) :
    step retryId s (.insert d ack) = none := by
  rcases h with h | ⟨status, reason, n, h⟩
  · rw [step, h]
    rfl
  · rw [step, h]
    rfl

/-- A dispatch that sees a delivery of any of its messages is over. -/
theorem over_readReports {c : Chain} {enabled : Bool} {refs : List Nat} {ref : Nat}
    (hloaded : s.dispatcher d = some (.loaded c enabled refs)) (href : ref ∈ refs)
    (hdelivered : s.latestEvent ref = some DLR_EVENT_DELIVERED)
    (hs : step retryId s (.readReports d) = some s') : Over s' d := by
  have hstep : dispatchStep retryId s d (.loaded c enabled refs) (.readReports d) = some s' := by
    rw [← hs, step, hloaded, bind_some]
  unfold dispatchStep at hstep
  dsimp only at hstep
  split at hstep
  · rw [← some.inj hstep]
    exact .inr ⟨_, _, _, setPhase_dispatcher_self s _⟩
  · split at hstep
    · rw [← some.inj hstep]
      exact .inr ⟨_, _, _, setPhase_dispatcher_self s _⟩
    · next hnone =>
      have := find?_eq_none.mp hnone ref href
      exact absurd (decide_eq_true hdelivered) this

end Over

/-! ## Settling -/

/-- A settling of the chain, from the first statement to the last, closes it as delivered. -/
def Settles (retryId : String) (s : State) (t : Nat) : Prop :=
  ∃ s', (retries retryId).run s [.settleLoad t, .settleRead t, .settleFinish t .ok] = some s' ∧
    s'.chain.map Chain.status = some .delivered

section Settles

variable {retryId : String} {s : State} {t : Nat} {c : Chain}

theorem setSettle_settler (s : State) (t : Nat) (p : Settle) :
    (s.setSettle t p).settler t = some p := by
  simp [State.setSettle]

section

variable (hchain : s.chain = some c)
include hchain

theorem settleLoad_loaded (hresent : c.status = .resent)
    (hfree : s.settler t = none) {a : Attempt} {ref : Nat}
    (hfind : s.attempts.find? (fun a => a.attemptNo = c.attempts ∧ a.dlrEvent = none) = some a)
    (href : a.messageRef = some ref) :
    step retryId s (.settleLoad t) = some (s.setSettle t (.loaded c.attempts ref a.smscId)) := by
  simp only [step, hfree, hchain, hfind, href, hresent, if_true]

theorem settleLoad_ended (hfree : s.settler t = none)
    (hnone : ∀ a, s.attempts.find? (fun a => a.attemptNo = c.attempts ∧ a.dlrEvent = none) =
      some a → a.messageRef = none) :
    step retryId s (.settleLoad t) = some (s.setSettle t .ended) := by
  cases hfind : s.attempts.find? (fun a => a.attemptNo = c.attempts ∧ a.dlrEvent = none) with
  | none => simp only [step, hfree, hchain, hfind]
  | some a => simp only [step, hfree, hchain, hfind, hnone a hfind]

theorem settleFinish_seen {n : Nat} {smscId : Option String}
    (hseen : s.settler t = some (.seen n smscId)) :
    ∃ s', step retryId s (.settleFinish t .ok) = some s' ∧
      s'.chain.map Chain.status = some .delivered := by
  simp only [step, hseen, Transition.Ack.committed, if_true]
  refine ⟨_, rfl, ?_⟩
  simp [State.setSettle, State.onChain, State.setDlrEvent, hchain]

/-- It does exactly when the chain's latest attempt is not reported on yet and the engine now says
that it was delivered. -/
theorem settles_iff (hresent : c.status = .resent) (hfree : s.settler t = none) :
    Settles retryId s t ↔ ∃ a ref,
      s.attempts.find? (fun a => a.attemptNo = c.attempts ∧ a.dlrEvent = none) = some a ∧
        a.messageRef = some ref ∧ s.latestEvent ref = some DLR_EVENT_DELIVERED := by
  constructor
  · rintro ⟨s', hrun, -⟩
    obtain ⟨s₁, hload, hrun⟩ := (retries retryId).run_cons_eq_some.mp hrun
    obtain ⟨s₂, hread, hrun⟩ := (retries retryId).run_cons_eq_some.mp hrun
    obtain ⟨s₃, hfinish, -⟩ := (retries retryId).run_cons_eq_some.mp hrun
    change step retryId s (.settleLoad t) = some s₁ at hload
    change step retryId s₁ (.settleRead t) = some s₂ at hread
    change step retryId s₂ (.settleFinish t .ok) = some s₃ at hfinish
    by_cases hready : ∃ a ref,
        s.attempts.find? (fun a => a.attemptNo = c.attempts ∧ a.dlrEvent = none) = some a ∧
          a.messageRef = some ref
    · obtain ⟨a, ref, hfind, href⟩ := hready
      refine ⟨a, ref, hfind, href, ?_⟩
      by_contra hnot
      rw [settleLoad_loaded hchain hresent hfree hfind href] at hload
      cases hload
      have hlatest : (s.setSettle t (.loaded c.attempts ref a.smscId)).latestEvent ref ≠
          some DLR_EVENT_DELIVERED := hnot
      simp only [step, setSettle_settler, if_neg hlatest, some.injEq] at hread
      obtain rfl := hread
      simp only [step, setSettle_settler] at hfinish
      cases hfinish
    · have hnone : ∀ a, s.attempts.find?
          (fun a => a.attemptNo = c.attempts ∧ a.dlrEvent = none) = some a → a.messageRef = none := by
        intro a ha
        cases href : a.messageRef with
        | none => rfl
        | some ref => exact absurd ⟨a, ref, ha, href⟩ hready
      rw [settleLoad_ended hchain hfree hnone] at hload
      cases hload
      simp only [step, setSettle_settler] at hread
      cases hread
  · rintro ⟨a, ref, hfind, href, hdelivered⟩
    have hlatest : (s.setSettle t (.loaded c.attempts ref a.smscId)).latestEvent ref =
        some DLR_EVENT_DELIVERED := hdelivered
    have hload : step retryId s (.settleLoad t) =
        some (s.setSettle t (.loaded c.attempts ref a.smscId)) :=
      settleLoad_loaded hchain hresent hfree hfind href
    have hread : step retryId (s.setSettle t (.loaded c.attempts ref a.smscId)) (.settleRead t) =
        some ((s.setSettle t (.loaded c.attempts ref a.smscId)).setSettle t
          (.seen c.attempts a.smscId)) := by
      simp only [step, setSettle_settler, if_pos hlatest]
    obtain ⟨s', hfinish, hstatus⟩ : ∃ s', step retryId
        ((s.setSettle t (.loaded c.attempts ref a.smscId)).setSettle t (.seen c.attempts a.smscId))
        (.settleFinish t .ok) = some s' ∧ s'.chain.map Chain.status = some .delivered :=
      settleFinish_seen hchain (setSettle_settler _ t _)
    refine ⟨s', ?_, hstatus⟩
    rw [Transition.System.run_cons_eq_some]
    refine ⟨_, hload, ?_⟩
    rw [Transition.System.run_cons_eq_some]
    refine ⟨_, hread, ?_⟩
    rw [Transition.System.run_cons_eq_some]
    exact ⟨s', hfinish, Transition.System.run_nil _ s'⟩

end

end Settles

/-! ## Delivered is final -/

/-- What a message that was reported as delivered, and its chain, should come to: the log lists it as
delivered, no resend of what can be resent takes it, no dispatch that reads the engine now submits
another retry, and a chain that waits for a report is closed as delivered. -/
structure Final (env : TextEngine) (retryId : String) (sent : List SqlboxRow) (m : SqlboxRow)
    (ref : Nat) (s : State) : Prop where
  listed : (classify false sent m).deliveryStatus = .delivered
  kept : ∀ allowed request results, request.ids = [] →
    (request.filter.getD {}).status.getD "resendable" = "resendable" →
    resend env sent allowed request = .ok results →
    ∀ source, .submit source ∈ results → source.row ≠ m
  quiet : ∀ d c enabled refs s₁, s.dispatcher d = some (.loaded c enabled refs) → ref ∈ refs →
    step retryId s (.readReports d) = some s₁ →
    ∀ as s₂, (retries retryId).run s₁ as = some s₂ → ∀ ack, step retryId s₂ (.insert d ack) = none
  closed : ∀ c, s.chain = some c → c.status = .resent →
    ∀ t, s.settler t = none → Settles retryId s t

/-- A chain that waits for a report waits for one of a message whose newest receipt says that it was
delivered, and no event of it is recorded yet. -/
def AwaitsDelivered (sent : List SqlboxRow) (s : State) : Prop :=
  ∀ c, s.chain = some c → c.status = .resent → ∀ t, s.settler t = none → ∃ a ref,
    s.attempts.find? (fun a => a.attemptNo = c.attempts ∧ a.dlrEvent = none) = some a ∧
      a.messageRef = some ref ∧ NewestDelivered sent (toString ref)

variable {env : TextEngine} {retryId : String} {t : EngineTable} {m : SqlboxRow} {ref : Nat}
  {s : State}

theorem resolve_resendable (hlower : env.toLowerCase "resendable" = "resendable") :
    resolveDeliveryStatuses env (some (.text "resendable")) = .ok (some [.failed, .rejected]) := by
  have htokens : statusTokens env (.text "resendable") = ["resendable"] := by
    have hpieces : (Text.split ',' "resendable").map (fun entry => env.toLowerCase (Text.trim entry)) =
        [env.toLowerCase "resendable"] := by
      rw [show Text.split ',' "resendable" = ["resendable"] by decide +kernel, map_singleton,
        show Text.trim "resendable" = "resendable" by decide +kernel]
    rw [statusTokens, hpieces, hlower]
    rfl
  rw [resolveDeliveryStatuses, htokens]
  rfl

theorem resend_keeps (hlower : env.toLowerCase "resendable" = "resendable")
    (hlisted : (classify false t.rows m).deliveryStatus = .delivered) {allowed : List String}
    {request : ResendRequest} {results : List ResendResult} (hids : request.ids = [])
    (hstatus : (request.filter.getD {}).status.getD "resendable" = "resendable")
    (h : resend env t.rows allowed request = .ok results) {source : ClassifiedRow}
    (hsource : .submit source ∈ results) : source.row ≠ m := by
  rintro rfl
  obtain ⟨hmem, hclassified⟩ := submitted_status hids
    (by rw [hstatus]; exact resolve_resendable hlower) h hsource
  rw [hclassified, hlisted] at hmem
  exact absurd hmem (by decide)

/-- **When delivered is final**: as soon as one receipt of a message says that it was delivered, all
four readers take it as delivered exactly when the newest receipt says so and a chain that waits for
a report waits for one of a message of which that is so. -/
theorem delivered_is_final_iff (hlower : env.toLowerCase "resendable" = "resendable")
    (hmt : m.momt = some "MT") (hforeign : m.foreignId = some (toString ref))
    (hmirrors : Mirrors s t.rows) (href : ref ∈ s.correlations) :
    ((∃ r ∈ receiptsOf t.rows (toString ref), r.dlrMask = some 1) →
        Final env retryId t.rows m ref s) ↔
      ((∃ r ∈ receiptsOf t.rows (toString ref), r.dlrMask = some 1) →
        NewestDelivered t.rows (toString ref) ∧ AwaitsDelivered t.rows s) := by
  refine imp_congr_right fun _ => ?_
  have hclosed : (∀ c, s.chain = some c → c.status = .resent →
      ∀ t, s.settler t = none → Settles retryId s t) ↔ AwaitsDelivered t.rows s := by
    refine forall₅_congr fun c hchain hresent w hfree => ?_
    rw [settles_iff hchain hresent hfree]
    refine exists₂_congr fun a ref' => and_congr_right fun hfind => and_congr_right fun hattempt => ?_
    refine latestEvent_delivered hmirrors (mem_append_right _ (mem_filterMap.mpr ?_))
    exact ⟨a, mem_of_find?_eq_some hfind, hattempt⟩
  constructor
  · exact fun h => ⟨(classify_delivered_iff hmt hforeign).mp h.listed, hclosed.mp h.closed⟩
  · rintro ⟨hnewest, hawaits⟩
    have hlisted := (classify_delivered_iff hmt hforeign).mpr hnewest
    refine ⟨hlisted, fun allowed request results hids hstatus h source hsource => ?_,
      fun d c enabled refs s₁ hloaded hmem hread as s₂ hrun ack => ?_, hclosed.mpr hawaits⟩
    · exact resend_keeps hlower hlisted hids hstatus h hsource
    · have hdelivered := (latestEvent_delivered hmirrors href).mpr hnewest
      exact over_insert (over_run (over_readReports hloaded hmem hdelivered hread) hrun)

/-- A message out, logged under 7 and spooled as 3. -/
def loggedSms : SqlboxRow :=
  ⟨7, some "MT", some "ACME", some "256772123456", some "hi", some 100, some "smsc-a", some 31,
    some "3"⟩

/-- Its receipt of an event at an instant. -/
def receiptAt (sqlId : Nat) (time event : Int) : SqlboxRow :=
  { loggedSms with
    sqlId := sqlId
    momt := some "DLR"
    time := some time
    dlrMask := some event }

/-- A failure that is followed by the delivery. -/
def lateDelivery : EngineTable :=
  ⟨[loggedSms, receiptAt 8 150 2, receiptAt 9 160 1], by decide, by decide⟩

/-- A delivery that is followed by a failure. -/
def lateFailure : EngineTable :=
  ⟨[loggedSms, receiptAt 8 150 1, receiptAt 9 160 2], by decide, by decide⟩

/-- The chain of message 3, and a dispatch of it that has loaded it. -/
def afterReports (events : List Int) : State :=
  { init with
    chain := openChain 3 "smsc-a" 2 none
    reports := events.map fun event => (3, event)
    dispatcher := fun d => if d = 0 then
      (openChain 3 "smsc-a" 2 none).map fun c => .loaded c true [3] else none }

theorem delivered_is_final_iff_late : Final .ascii "r" lateDelivery.rows loggedSms 3
    (afterReports [2, 1]) := by
  refine (delivered_is_final_iff (by decide +kernel) (by decide) (by decide) (by decide +kernel)
    (by decide)).mpr (fun _ => ⟨?_, ?_⟩) ⟨receiptAt 9 160 1, by decide +kernel, by decide⟩
  · exact ⟨receiptAt 9 160 1, ⟨by decide +kernel, by decide +kernel⟩, by decide⟩
  · intro c hchain hresent
    obtain rfl := some.inj hchain
    cases hresent

/-- Reported as delivered and then as failed, a message is listed as failed, resent, and retried. -/
theorem failed_after_delivered :
    (∃ r ∈ receiptsOf lateFailure.rows "3", r.dlrMask = some 1) ∧
    (classify false lateFailure.rows loggedSms).deliveryStatus = .failed ∧
    (∃ results source, resend .ascii lateFailure.rows ["smsc-a"] {} = .ok results ∧
      .submit source ∈ results ∧ source.row = loggedSms) ∧
    (∃ s, (retries "r").run (afterReports [1, 2]) [.readReports 0, .claim 0 .ok,
      .chooseBind 0 (some "smsc-b") "", .insert 0 .ok] = some s ∧
      s.spool.map Submission.smscId = ["smsc-b"]) ∧
    ¬ Final .ascii "r" lateFailure.rows loggedSms 3 (afterReports [1, 2]) := by
  have hfailed : (classify false lateFailure.rows loggedSms).deliveryStatus = .failed := by
    decide +kernel
  refine ⟨⟨receiptAt 8 150 1, by decide +kernel, by decide⟩, hfailed,
    ⟨_, _, rfl, mem_singleton_self _, rfl⟩, ⟨_, rfl, by decide +kernel⟩, fun h => ?_⟩
  rw [h.listed] at hfailed
  cases hfailed

end Jkannel.Retry
