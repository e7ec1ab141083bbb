import Jkannel.Engine.Reports
import Jkannel.Retry.Policy

/-!
# What a scan does with a report

The retry tables of a tenant, and the transaction a scan runs for each report it reads.

* `ingestReport` looks first for an attempt that went out under the report's key, and continues
  its chain; any other message of the tenant's gets a chain of its own.
* `continueChain` is guarded by the chain's status alone: it looks neither at which attempt the
  report is of, nor at whether that attempt has been reported before.
* `Store.Sound` is what the tables keep by their unique indexes, and `ingestReport_sound` that a
  report does.
-/

namespace Jkannel.Retry.Scan

open List
open Engine (NegativeDeliveryReport)

/-- A row of `message_route_decisions`, which a send commits with the message. -/
structure Decision where
  /-- The engine's key of the message. -/
  messageRef : Nat
  customerId : Option String

/-- A row of `message_delivery_retries`, as far as a scan and a dispatch work on it. -/
structure ChainRow where
  id : Nat
  customerId : Option String
  chain : Chain

/-- A row of `message_delivery_retry_attempts`. -/
structure AttemptRow where
  retryId : Nat
  attempt : Attempt

/-- The tenant's tables. -/
structure Store where
  /-- The newest first. -/
  decisions : List Decision
  chains : List ChainRow
  attempts : List AttemptRow
  /-- `delivery_retry_state.watermark_sql_id`. -/
  watermark : Nat

/-- The chain's `origin_message_ref`. -/
def ChainRow.origin (c : ChainRow) : Nat := c.chain.originMessageRef

/-- What `ingestReport` did. -/
inductive Handled where
  | opened | continued | duplicate | skipped
  deriving DecidableEq

/-- Whether the row is of the message a report names. -/
def AttemptRow.isOf (a : AttemptRow) (foreignId : String) : Bool :=
  a.attempt.messageRef.any fun ref => toString ref = foreignId

def Store.attemptOf (s : Store) (foreignId : String) : Option AttemptRow :=
  s.attempts.find? fun a => a.isOf foreignId

/-- The newest decision on the message. -/
def Store.decisionOf (s : Store) (foreignId : String) : Option Decision :=
  s.decisions.find? fun d => toString d.messageRef = foreignId

def Store.chainOf (s : Store) (id : Nat) : Option ChainRow := s.chains.find? fun c => c.id = id

/-- `UPDATE message_delivery_retries … WHERE id = …`. -/
def Store.setChain (s : Store) (id : Nat) (chain : Chain) : Store :=
  { s with chains := s.chains.map fun c => if c.id = id then { c with chain := chain } else c }

/-- `UPDATE message_delivery_retry_attempts SET dlr_event = …` on the row of one message, which the
unique index on `message_ref` makes one. -/
def Store.setDlrEvent (s : Store) (messageRef : Option Nat) (event : Int) : Store :=
  { s with attempts := s.attempts.map fun b =>
      if b.attempt.messageRef = messageRef then
        { b with attempt := { b.attempt with dlrEvent := some event } }
      else b }

/-- A retry failed in turn. -/
def Store.continueChain (s : Store) (a : AttemptRow) (report : NegativeDeliveryReport) :
    Store × Handled :=
  let reported := s.setDlrEvent a.attempt.messageRef report.dlrEvent
  match (s.chainOf a.retryId).bind fun c =>
      Retry.continueChain report.smscId report.dlrEvent c.chain with
  | some chain => (reported.setChain a.retryId chain, .continued)
  | none => (reported, .skipped)

/-- `INSERT … ON CONFLICT (tenant_id, origin_message_ref) DO NOTHING`. -/
def Store.open (s : Store) (d : Decision) (report : NegativeDeliveryReport)
    (policy : DeliveryRetryPolicy) (refused : Option String) : Store × Handled :=
  if s.chains.any fun c => toString c.origin = report.foreignId then (s, .duplicate)
  else match openChain d.messageRef report.smscId policy.maxAttempts refused with
    | some chain => ({ s with chains := s.chains ++ [⟨s.chains.length, d.customerId, chain⟩] },
        .opened)
    | none => (s, .skipped)

/-- One delivery report. -/
def ingestReport (policies : List DeliveryRetryPolicyRow) (s : Store)
    (report : NegativeDeliveryReport) (nowMs : Int) : Store × Handled :=
  match s.attemptOf report.foreignId with
  | some a => s.continueChain a report
  | none =>
    match s.decisionOf report.foreignId with
    | none => (s, .skipped)
    | some d =>
      let policy := resolveRetryPolicy policies (some report.smscId) d.customerId
      match classifyReport policy report.dlrEvent report.dlrAt nowMs with
      | .retry => s.open d report policy none
      | .decline true reason => s.open d report policy (some reason)
      | .decline false _ => (s, .skipped)

/-! ## What it can do -/

variable {s s' : Store} {foreignId : String} {a : AttemptRow} {c : Chain}

theorem attemptOf_spec (h : s.attemptOf foreignId = some a) :
    a ∈ s.attempts ∧ ∃ ref, a.attempt.messageRef = some ref ∧ toString ref = foreignId := by
  refine ⟨mem_of_find?_eq_some h, ?_⟩
  have hof : a.isOf foreignId = true := by simpa using find?_some h
  obtain ⟨ref, href, heq⟩ := (Option.any_eq_true _ _).mp hof
  exact ⟨ref, href, of_decide_eq_true heq⟩

theorem decisionOf_spec {d : Decision} (h : s.decisionOf foreignId = some d) :
    d ∈ s.decisions ∧ toString d.messageRef = foreignId :=
  ⟨mem_of_find?_eq_some h, by simpa using find?_some h⟩

theorem openChain_origin {origin : Nat} {smscId : String} {maxAttempts : Nat}
    {refused : Option String} (h : openChain origin smscId maxAttempts refused = some c) :
    c.originMessageRef = origin := by
  unfold openChain at h
  split at h
  · cases h
    rfl
  · cases h

theorem continueChain_origin {smscId : String} {event : Int} {c' : Chain}
    (h : Retry.continueChain smscId event c = some c') :
    c'.originMessageRef = c.originMessageRef := by
  unfold Retry.continueChain at h
  split at h
  · split at h <;> (obtain rfl := Option.some.inj h; rfl)
  · cases h

/-- A chain in `resent` is continued, or exhausted, and no other is touched. -/
theorem continueChain_isSome (smscId : String) (event : Int) :
    (Retry.continueChain smscId event c).isSome ↔ c.status = .resent := by
  unfold Retry.continueChain
  split
  · rename_i hresent
    split <;> simp [hresent]
  · rename_i hnot
    simp [hnot]

/-- Opening a chain leaves everything else, and a chain for the message there. -/
theorem open_spec (s : Store) (d : Decision) (report : NegativeDeliveryReport)
    (policy : DeliveryRetryPolicy) (refused : Option String) :
    (∃ c ∈ s.chains, toString c.origin = report.foreignId) ∧
        s.open d report policy refused = (s, .duplicate) ∨
      (∀ c ∈ s.chains, toString c.origin ≠ report.foreignId) ∧
        ∃ c, c.id = s.chains.length ∧ c.origin = d.messageRef ∧
          s.open d report policy refused = ({ s with chains := s.chains ++ [c] }, .opened) := by
  by_cases hthere : (s.chains.any fun c => toString c.origin = report.foreignId) = true
  · refine .inl ⟨?_, by rw [Store.open, if_pos hthere]⟩
    simpa using hthere
  · refine .inr ⟨by simpa using hthere, ?_⟩
    rw [Store.open, if_neg hthere]
    -- the policy's CHECK is the chain's
    have hsome : ∃ chain, openChain d.messageRef report.smscId policy.maxAttempts refused =
        some chain := by
      unfold openChain
      rw [dif_pos policy.check]
      exact ⟨_, rfl⟩
    obtain ⟨chain, hchain⟩ := hsome
    rw [hchain]
    exact ⟨⟨s.chains.length, d.customerId, chain⟩, rfl, openChain_origin hchain, rfl⟩

/-- **A report of a message that is not a retry** touches no attempt, and leaves the message with a
chain if a policy acts on it. -/
theorem ingestReport_message {policies : List DeliveryRetryPolicyRow} {s : Store}
    {report : NegativeDeliveryReport} (hnone : s.attemptOf report.foreignId = none) (nowMs : Int) :
    (ingestReport policies s report nowMs).1.attempts = s.attempts ∧
      (ingestReport policies s report nowMs).1.decisions = s.decisions ∧
      (ingestReport policies s report nowMs).1.watermark = s.watermark ∧
      s.chains ⊆ (ingestReport policies s report nowMs).1.chains ∧
      (ingestReport policies s report nowMs).2 ≠ .continued ∧
      ∀ d, s.decisionOf report.foreignId = some d →
        Matches (resolveRetryPolicy policies (some report.smscId) d.customerId) report.dlrEvent →
          ∃ c ∈ (ingestReport policies s report nowMs).1.chains,
            toString c.origin = report.foreignId := by
  have hopen : ∀ d policy refused, toString d.messageRef = report.foreignId →
      (s.open d report policy refused).1.attempts = s.attempts ∧
      (s.open d report policy refused).1.decisions = s.decisions ∧
      (s.open d report policy refused).1.watermark = s.watermark ∧
      s.chains ⊆ (s.open d report policy refused).1.chains ∧
      (s.open d report policy refused).2 ≠ .continued ∧
      ∃ c ∈ (s.open d report policy refused).1.chains, toString c.origin = report.foreignId := by
    intro d policy refused hd
    rcases open_spec s d report policy refused with ⟨hthere, heq⟩ | ⟨-, c, -, horigin, heq⟩
    · rw [heq]
      exact ⟨rfl, rfl, rfl, fun _ h => h, nofun, hthere⟩
    · rw [heq]
      exact ⟨rfl, rfl, rfl, subset_append_left .., nofun, c,
        mem_append_right _ (mem_singleton_self c), by rw [horigin, hd]⟩
  unfold ingestReport
  simp only [hnone]
  split
  · rename_i hdecision
    refine ⟨rfl, rfl, rfl, fun _ h => h, nofun, fun d hd => ?_⟩
    rw [hdecision] at hd
    cases hd
  · rename_i d hdecision
    have hd := (decisionOf_spec hdecision).2
    split
    · obtain ⟨h₁, h₂, h₃, h₄, h₅, h₆⟩ := hopen d _ none hd
      exact ⟨h₁, h₂, h₃, h₄, h₅, fun _ _ _ => h₆⟩
    · rename_i reason _
      obtain ⟨h₁, h₂, h₃, h₄, h₅, h₆⟩ := hopen d _ (some reason) hd
      exact ⟨h₁, h₂, h₃, h₄, h₅, fun _ _ _ => h₆⟩
    · rename_i reason hverdict
      refine ⟨rfl, rfl, rfl, fun _ h => h, nofun, fun d' hd' hmatch => ?_⟩
      obtain rfl := Option.some.inj (hdecision.symm.trans hd')
      -- what a policy acts on is never dropped
      rcases classifyReport_of_matches hmatch report.dlrAt nowMs with hretry | ⟨_, hdecline⟩
      · rw [hverdict] at hretry
        cases hretry
      · rw [hverdict] at hdecline
        cases hdecline

/-! ## The indexes -/

/-- What the tables keep: keys that name one row, and a decision for every retry that went out. -/
structure Store.Sound (s : Store) : Prop where
  ids : s.chains.map ChainRow.id = List.range s.chains.length
  /-- `message_delivery_retries_origin_uidx`. -/
  origins : (s.chains.map ChainRow.origin).Nodup
  decided : (s.decisions.map Decision.messageRef).Nodup
  /-- `message_delivery_retry_attempts_ref_uidx`. -/
  refs : (s.attempts.filterMap fun a => a.attempt.messageRef).Nodup
  known : ∀ a ∈ s.attempts, ∀ ref, a.attempt.messageRef = some ref →
    ref ∈ s.decisions.map Decision.messageRef

theorem toString_inj {m n : Nat} (h : toString m = toString n) : m = n := Nat.repr_injective h

theorem isOf_iff :
    a.isOf foreignId = true ↔ ∃ ref, a.attempt.messageRef = some ref ∧ toString ref = foreignId := by
  rw [AttemptRow.isOf, Option.any_eq_true]
  refine exists_congr fun ref => and_congr Iff.rfl ?_
  exact decide_eq_true_iff

theorem chainOf_spec {id : Nat} {c : ChainRow} (h : s.chainOf id = some c) :
    c ∈ s.chains ∧ c.id = id :=
  ⟨mem_of_find?_eq_some h, by simpa using find?_some h⟩

/-- A key names one chain. -/
theorem Store.Sound.chain_unique (h : s.Sound) {c c' : ChainRow} (hc : c ∈ s.chains)
    (hc' : c' ∈ s.chains) (heq : c.id = c'.id) : c = c' := by
  have hnodup : (s.chains.map ChainRow.id).Nodup := h.ids ▸ nodup_range
  exact inj_on_of_nodup_map hnodup hc hc' heq

theorem setChain_ids (s : Store) (id : Nat) (chain : Chain) :
    (s.setChain id chain).chains.map ChainRow.id = s.chains.map ChainRow.id := by
  simp only [Store.setChain, map_map]
  refine map_congr_left fun c _ => ?_
  simp only [Function.comp]
  split <;> rfl

/-- An update that keeps the message keeps every message. -/
theorem Store.Sound.setChain_origins (h : s.Sound) {id : Nat} {c : ChainRow} {chain : Chain}
    (hc : s.chainOf id = some c) (horigin : chain.originMessageRef = c.chain.originMessageRef) :
    (s.setChain id chain).chains.map ChainRow.origin = s.chains.map ChainRow.origin := by
  obtain ⟨hmem, hid⟩ := chainOf_spec hc
  simp only [Store.setChain, map_map]
  refine map_congr_left fun c' hc' => ?_
  simp only [Function.comp]
  by_cases heq : c'.id = id
  · rw [if_pos heq, h.chain_unique hc' hmem (heq.trans hid.symm)]
    exact horigin
  · rw [if_neg heq]

/-- What an update of chains, or of the reports of attempts, leaves as it was. -/
structure Store.SameKeys (s s' : Store) : Prop where
  ids : s'.chains.map ChainRow.id = s.chains.map ChainRow.id
  origins : s'.chains.map ChainRow.origin = s.chains.map ChainRow.origin
  decisions : s'.decisions = s.decisions
  refs : s'.attempts.map (fun a => a.attempt.messageRef) =
    s.attempts.map fun a => a.attempt.messageRef

theorem Store.SameKeys.refl (s : Store) : s.SameKeys s := ⟨rfl, rfl, rfl, rfl⟩

theorem Store.SameKeys.trans {t u : Store} (h : s.SameKeys t) (h' : t.SameKeys u) : s.SameKeys u :=
  ⟨h'.ids.trans h.ids, h'.origins.trans h.origins, h'.decisions.trans h.decisions,
    h'.refs.trans h.refs⟩

/-- An attempt of one store is, up to its report, one of the other. -/
theorem Store.SameKeys.mem (h : s.SameKeys s') (ha : a ∈ s'.attempts) :
    ∃ b ∈ s.attempts, b.attempt.messageRef = a.attempt.messageRef := by
  have hmem : a.attempt.messageRef ∈ s.attempts.map fun b => b.attempt.messageRef := by
    rw [← h.refs]
    exact mem_map_of_mem ha
  exact mem_map.mp hmem

theorem Store.SameKeys.symm (h : s.SameKeys s') : s'.SameKeys s :=
  ⟨h.ids.symm, h.origins.symm, h.decisions.symm, h.refs.symm⟩

theorem Store.Sound.update (h : s.Sound) (hsame : s.SameKeys s') : s'.Sound where
  ids := by
    have hlength : s'.chains.length = s.chains.length := by
      simpa using congrArg List.length hsame.ids
    rw [hsame.ids, hlength]
    exact h.ids
  origins := hsame.origins ▸ h.origins
  decided := hsame.decisions ▸ h.decided
  refs := by
    have hrefs := congrArg (List.filterMap id) hsame.refs
    simp only [filterMap_map, Function.id_comp] at hrefs
    exact hrefs ▸ h.refs
  known := by
    intro a ha ref href
    obtain ⟨b, hb, hbref⟩ := hsame.mem ha
    rw [hsame.decisions]
    exact h.known b hb ref (hbref.trans href)

theorem setDlrEvent_sameKeys (s : Store) (messageRef : Option Nat) (event : Int) :
    s.SameKeys (s.setDlrEvent messageRef event) := by
  refine ⟨rfl, rfl, rfl, ?_⟩
  simp only [Store.setDlrEvent, map_map]
  refine map_congr_left fun a _ => ?_
  simp only [Function.comp]
  split <;> rfl

/-- A report of an attempt marks its row, and continues its chain exactly when that is in
`resent`. -/
theorem continueChain_spec (h : s.Sound) (a : AttemptRow) (report : NegativeDeliveryReport) :
    s.SameKeys (s.continueChain a report).1 ∧
      (s.continueChain a report).1.attempts =
        (s.setDlrEvent a.attempt.messageRef report.dlrEvent).attempts ∧
      (s.continueChain a report).1.watermark = s.watermark ∧
      ((∃ c, s.chainOf a.retryId = some c ∧ c.chain.status = .resent) →
        (s.continueChain a report).2 = .continued) ∧
      ((∀ c, s.chainOf a.retryId = some c → c.chain.status ≠ .resent) →
        (s.continueChain a report).2 = .skipped) := by
  have hreported := setDlrEvent_sameKeys s a.attempt.messageRef report.dlrEvent
  cases hbind : (s.chainOf a.retryId).bind fun c =>
      Retry.continueChain report.smscId report.dlrEvent c.chain with
  | some chain =>
    have heq : s.continueChain a report =
        ((s.setDlrEvent a.attempt.messageRef report.dlrEvent).setChain a.retryId chain,
          .continued) := by
      simp only [Store.continueChain, hbind]
    obtain ⟨c, hc, hcontinue⟩ := Option.bind_eq_some_iff.mp hbind
    rw [heq]
    refine ⟨hreported.trans ⟨setChain_ids .., ?_, rfl, rfl⟩, rfl, rfl, fun _ => rfl, fun hnot => ?_⟩
    · exact (h.update hreported).setChain_origins hc (continueChain_origin hcontinue)
    · exact absurd ((continueChain_isSome _ _).mp (Option.isSome_iff_exists.mpr ⟨_, hcontinue⟩))
        (hnot c hc)
  | none =>
    have heq : s.continueChain a report =
        (s.setDlrEvent a.attempt.messageRef report.dlrEvent, .skipped) := by
      simp only [Store.continueChain, hbind]
    rw [heq]
    refine ⟨hreported, rfl, rfl, ?_, fun _ => rfl⟩
    rintro ⟨c, hc, hresent⟩
    obtain ⟨chain, hchain⟩ := Option.isSome_iff_exists.mp
      ((continueChain_isSome report.smscId report.dlrEvent).mpr hresent)
    rw [hc, Option.bind_some, hchain] at hbind
    cases hbind

theorem open_sound (h : s.Sound) (d : Decision) (report : NegativeDeliveryReport)
    (policy : DeliveryRetryPolicy) (refused : Option String)
    (hd : toString d.messageRef = report.foreignId) : (s.open d report policy refused).1.Sound := by
  rcases open_spec s d report policy refused with ⟨-, heq⟩ | ⟨hnone, c, hid, horigin, heq⟩
  · rw [heq]
    exact h
  · rw [heq]
    refine ⟨?_, ?_, h.decided, h.refs, h.known⟩
    · simp [h.ids, hid, range_succ]
    · rw [map_append, nodup_append]
      refine ⟨h.origins, nodup_singleton _, ?_⟩
      intro ref href ref' href' heq
      obtain ⟨c', hc', rfl⟩ := mem_map.mp href
      rw [map_singleton, mem_singleton, horigin] at href'
      rw [href'] at heq
      exact hnone c' hc' (heq ▸ hd)

/-- **A report keeps the indexes**, whatever it does. -/
theorem ingestReport_sound (h : s.Sound) (policies : List DeliveryRetryPolicyRow)
    (report : NegativeDeliveryReport) (nowMs : Int) :
    (ingestReport policies s report nowMs).1.Sound := by
  unfold ingestReport
  split
  · exact h.update (continueChain_spec h _ report).1
  · split
    · exact h
    · rename_i d hdecision
      have hd := (decisionOf_spec hdecision).2
      simp only
      split
      · exact open_sound h d report _ none hd
      · exact open_sound h d report _ _ hd
      · exact h

end Jkannel.Retry.Scan
