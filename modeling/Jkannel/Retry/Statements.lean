import Jkannel.Retry.Ingest

/-!
# What dispatches commit

The retry tables are written by dispatches too, by the sends they make, and by the pass that settles
the chains in `resent`.

* `Store.dispatch` is the statement of each, on the tables of the tenant.  When it runs, and on what
  reads it rests, is left open.
* `Store.Sound.dispatch` says that they keep the indexes.
-/

namespace Jkannel.Retry.Scan

open List

/-! ## The statements -/

/-- `UPDATE message_delivery_retries … WHERE id = … AND …`. -/
def Store.onChain (s : Store) (id : Nat) (statement : Chain → Option Chain) : Store :=
  match (s.chainOf id).bind fun c => statement c.chain with
  | some chain => s.setChain id chain
  | none => s

/-- Whether the attempt has a row. -/
def Store.recorded (s : Store) (id n : Nat) : Bool :=
  s.attempts.any fun a => a.retryId = id && a.attempt.attemptNo = n

/-- Whether a send of the tenant's has this key. -/
def Store.taken (s : Store) (messageRef : Nat) : Bool :=
  s.decisions.any fun d => d.messageRef = messageRef

/-- What a dispatch, or the pass over the chains in `resent`, commits. -/
inductive Dispatch where
  | claim (id : Nat)
  /-- The transaction of the send, with the decision on the message it makes: its last two
  statements, of which only the first looks at the status, and its `COMMIT` are one step. -/
  | submit (id n : Nat) (smscId : String) (messageRef : Nat) (reason : String)
  | recordAttempt (id n : Nat) (smscId : Option String) (outcome : AttemptOutcome) (reason : String)
  | finish (id : Nat) (status : ChainStatus) (reason : String)
  /-- The engine has reported the retry delivered. -/
  | settle (id n : Nat) (reason : String)

/-- What one statement of a dispatch does. -/
def Store.dispatch (s : Store) : Dispatch → Option Store
  | .claim id => some (s.onChain id claim)
  | .submit id n smscId messageRef reason =>
    match s.chainOf id with
    | some c =>
      if holdsFence n c.chain && !s.recorded id n && !s.taken messageRef then
        some { s.onChain id (markResent n smscId) with
          decisions := ⟨messageRef, c.customerId⟩ :: s.decisions
          attempts := s.attempts ++
            [⟨id, n, some smscId, .submitted, some messageRef, none, reason⟩] }
      else none
    | none => none
  | .recordAttempt id n smscId outcome reason =>
    if s.recorded id n then some s
    else some { s with
      attempts := s.attempts ++ [⟨id, n, smscId, outcome, none, none, reason⟩] }
  | .finish id status reason =>
    if status.terminal then some (s.onChain id fun c => some (terminate status reason c)) else none
  | .settle id n reason =>
    let report (a : AttemptRow) :=
      if a.retryId = id ∧ a.attempt.attemptNo = n then
        { a with attempt := { a.attempt with dlrEvent := some DLR_EVENT_DELIVERED } }
      else a
    some ({ s with attempts := s.attempts.map report }.onChain id fun c =>
      some (terminate .delivered reason c))

/-! ## The indexes -/

variable {s s' : Store}

@[simp] theorem onChain_attempts (s : Store) (id : Nat) (f : Chain → Option Chain) :
    (s.onChain id f).attempts = s.attempts := by
  unfold Store.onChain
  split <;> rfl

@[simp] theorem onChain_decisions (s : Store) (id : Nat) (f : Chain → Option Chain) :
    (s.onChain id f).decisions = s.decisions := by
  unfold Store.onChain
  split <;> rfl

@[simp] theorem onChain_watermark (s : Store) (id : Nat) (f : Chain → Option Chain) :
    (s.onChain id f).watermark = s.watermark := by
  unfold Store.onChain
  split <;> rfl

theorem Store.Sound.onChain (h : s.Sound) (id : Nat) {f : Chain → Option Chain}
    (hf : ∀ c c', f c = some c' → c'.originMessageRef = c.originMessageRef) :
    s.SameKeys (s.onChain id f) := by
  unfold Store.onChain
  split
  · rename_i chain hbind
    obtain ⟨c, hc, hstatement⟩ := Option.bind_eq_some_iff.mp hbind
    exact ⟨setChain_ids .., h.setChain_origins hc (hf _ _ hstatement), rfl, rfl⟩
  · exact .refl s

variable {c c' : Chain} {messageRef : Nat}

theorem claim_origin (h : claim c = some c') : c'.originMessageRef = c.originMessageRef := by
  unfold claim at h
  split at h
  · cases h
    rfl
  · cases h

theorem markResent_origin {n : Nat} {smscId : String} (h : markResent n smscId c = some c') :
    c'.originMessageRef = c.originMessageRef := by
  unfold markResent at h
  split at h
  · cases h
    rfl
  · cases h

theorem terminate_origin {status : ChainStatus} {reason : String}
    (h : some (terminate status reason c) = some c') :
    c'.originMessageRef = c.originMessageRef := by
  cases h
  rfl

theorem taken_eq_false :
    s.taken messageRef = false ↔ messageRef ∉ s.decisions.map Decision.messageRef := by
  simp [Store.taken]

/-- A decision on a message there is none on. -/
theorem Store.Sound.decide (h : s.Sound) {d : Decision} (hfree : s.taken d.messageRef = false) :
    Store.Sound { s with decisions := d :: s.decisions } where
  __ := h
  decided := by
    rw [map_cons, nodup_cons]
    exact ⟨taken_eq_false.mp hfree, h.decided⟩
  known a ha ref href := mem_cons_of_mem _ (h.known a ha ref href)

/-- An attempt that did not go out, or went out under a key of its own. -/
theorem Store.Sound.addAttempt (h : s.Sound) {a : AttemptRow}
    (hknown : ∀ ref, a.attempt.messageRef = some ref → ref ∈ s.decisions.map Decision.messageRef ∧
      ∀ b ∈ s.attempts, b.attempt.messageRef ≠ some ref) :
    Store.Sound { s with attempts := s.attempts ++ [a] } where
  __ := h
  refs := by
    rw [filterMap_append, nodup_append]
    refine ⟨h.refs, ?_, ?_⟩
    · cases href : a.attempt.messageRef <;> simp [href]
    · intro ref href ref' href' heq
      obtain ⟨b, hb, hbref⟩ := mem_filterMap.mp href
      obtain ⟨b', hb', hbref'⟩ := mem_filterMap.mp href'
      obtain rfl := mem_singleton.mp hb'
      exact (hknown ref' hbref').2 b hb (heq ▸ hbref)
  known := by
    intro b hb ref href
    rcases mem_append.mp hb with hb | hb
    · exact h.known b hb ref href
    · obtain rfl := mem_singleton.mp hb
      exact (hknown ref href).1

/-- The key of a send is not one a retry went out under. -/
theorem Store.Sound.not_sent (h : s.Sound) (hfree : s.taken messageRef = false) :
    ∀ b ∈ s.attempts, b.attempt.messageRef ≠ some messageRef := fun b hb hbref =>
  taken_eq_false.mp hfree (h.known b hb messageRef hbref)

/-- What the send of a dispatch commits. -/
theorem dispatch_submit {id n : Nat} {smscId reason : String}
    (hstep : s.dispatch (.submit id n smscId messageRef reason) = some s') :
    ∃ c, s.chainOf id = some c ∧ holdsFence n c.chain = true ∧ s.recorded id n = false ∧
      s.taken messageRef = false ∧
      s' = { s.onChain id (markResent n smscId) with
        decisions := ⟨messageRef, c.customerId⟩ :: s.decisions
        attempts := s.attempts ++
          [⟨id, n, some smscId, .submitted, some messageRef, none, reason⟩] } := by
  rw [Store.dispatch] at hstep
  split at hstep
  · rename_i c hc
    split at hstep
    · rename_i hguard
      simp only [Bool.and_eq_true, Bool.not_eq_eq_eq_not, Bool.not_true] at hguard
      exact ⟨c, hc, hguard.1.1, hguard.1.2, hguard.2, (Option.some.inj hstep).symm⟩
    · cases hstep
  · cases hstep

theorem settle_sameKeys (s : Store) (id n : Nat) :
    s.SameKeys { s with
      attempts := s.attempts.map fun a =>
        if a.retryId = id ∧ a.attempt.attemptNo = n then
          { a with attempt := { a.attempt with dlrEvent := some DLR_EVENT_DELIVERED } }
        else a } := by
  refine ⟨rfl, rfl, rfl, ?_⟩
  rw [map_map]
  refine map_congr_left fun a _ => ?_
  simp only [Function.comp]
  split <;> rfl

/-- **A dispatch keeps the indexes.** -/
theorem Store.Sound.dispatch (h : s.Sound) {statement : Dispatch}
    (hstep : s.dispatch statement = some s') : s'.Sound := by
  cases statement with
  | claim id =>
    cases hstep
    exact h.update (h.onChain id fun _ _ => claim_origin)
  | submit id n smscId messageRef reason =>
    obtain ⟨c, -, -, -, hfree, rfl⟩ := dispatch_submit hstep
    have hmarked : (s.onChain id (markResent n smscId)).Sound :=
      h.update (h.onChain id fun _ _ => markResent_origin)
    have hfree' : (s.onChain id (markResent n smscId)).taken messageRef = false := by
      rwa [Store.taken, onChain_decisions]
    have hall := (hmarked.decide (d := ⟨messageRef, c.customerId⟩) hfree').addAttempt
      (a := ⟨id, n, some smscId, .submitted, some messageRef, none, reason⟩) ?_
    · simpa only [onChain_attempts, onChain_decisions] using hall
    · intro ref href
      cases href
      exact ⟨mem_cons_self .., hmarked.not_sent hfree'⟩
  | recordAttempt id n smscId outcome reason =>
    rw [Store.dispatch] at hstep
    split at hstep
    · cases hstep
      exact h
    · cases hstep
      exact h.addAttempt fun ref href => by cases href
  | finish id status reason =>
    rw [Store.dispatch] at hstep
    split at hstep
    · cases hstep
      exact h.update (h.onChain id fun _ _ => terminate_origin)
    · cases hstep
  | settle id n reason =>
    cases hstep
    have hreported := h.update (settle_sameKeys s id n)
    exact hreported.update (hreported.onChain id fun _ _ => terminate_origin)

end Jkannel.Retry.Scan

