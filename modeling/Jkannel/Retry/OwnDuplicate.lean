import Jkannel.Messaging.Send

/-!
# Whether a retry is its own duplicate

A retry goes through the send path like any message, and there it is the same content to the same
recipient again.  Its key is the key of the message that failed, unless that one carried a reference
of its caller or was rewritten on its way, and it is the key of every earlier attempt.  What keeps
it from being refused is that the earlier claim has lapsed by then.

* `Retried` is a message that failed, with the settings that matter: the duplicate window, and of
  the policy the delay and the number of attempts.
* The machine plays the chain of such a message among any other sends.  An attempt is due the delay
  after the scan that read the report of the submission before it.
* `Untorn` leaves out a second worker that sends an attempt when one of the same schedule has been
  sent already.

No attempt is ever refused as a duplicate of its own chain exactly when the window is not longer
than the delay, or the message has a key of its own and one attempt (`never_own_duplicate_iff`).
-/

namespace Jkannel.Retry.OwnDuplicate

open List
open Jkannel.Routing
open Jkannel.Messaging
open Jkannel.Messaging.Send (Actor SendRequest OnSubmitted dedupeSubject)

/-! ## The request of a retry -/

/-- What a retry reads of its chain. -/
structure RetryChainRow where
  id : String
  sender : Option String
  destination : String
  body : String
  customerId : Option String

/-- The chain `ingestReport` opens for a message to `digits`, from the engine's row and the
decision. -/
def openedFor (id : String) (original : SendRequest) (digits wireSender wireText : String) :
    RetryChainRow where
  id := id
  sender := (Text.truthy (some wireSender)).or (Text.truthy (some (original.sender.getD "")))
  destination := digits
  body := wireText
  customerId := original.customerId

/-- The request a dispatch submits. -/
def retryRequest (chain : RetryChainRow) (attemptNo : Nat) (smscId : String)
    (chargeCreditOnRetry : Bool) (onSubmitted : OnSubmitted) : SendRequest where
  sender := some (chain.sender.getD "")
  receiver := chain.destination
  text := some chain.body
  smscId := some smscId
  dlrMask := none
  dlrUrl := none
  foreignId := none
  customerId := chain.customerId
  channel := .system
  reference := some ("delivery-retry:" ++ chain.id ++ ":" ++ toString attemptNo)
  operator := none
  rerouteIfUnavailable := false
  cost := if chargeCreditOnRetry then none else some 0
  priority := none
  schedule := none
  onSubmitted := some onSubmitted

/-- A message that failed, and the settings its retries run under. -/
structure Retried where
  sha256 : String → String
  countryCode : Option String
  actor : Actor
  chainId : String
  original : SendRequest
  /-- The canonical digits of its destination. -/
  digits : String
  accepted : (normalizeMsisdn countryCode original.receiver).digits = some digits
  /-- The sender and the body the engine carried. -/
  wireSender : String
  wireText : String
  /-- `mt_dedupe_window_seconds`. -/
  windowSeconds : Int
  minDelaySeconds : Nat
  maxAttempts : Nat
  /-- The table's CHECK. -/
  check : 1 ≤ maxAttempts ∧ maxAttempts ≤ 5

namespace Retried

variable (m : Retried)

def chain : RetryChainRow := openedFor m.chainId m.original m.digits m.wireSender m.wireText

/-- What the original is a duplicate of. -/
def originalSubject : DedupeSubject := dedupeSubject m.actor m.original m.digits

/-- What an attempt is a duplicate of, whatever its number and bind. -/
def retrySubject : DedupeSubject :=
  dedupeSubject m.actor (retryRequest m.chain 0 "" true ⟨false, fun _ _ db => .ok db⟩)
    (canonicalReceiver m.countryCode m.chain.destination)

/-- The window, in seconds. -/
def window : Int := normalizeWindowSeconds m.windowSeconds

/-- The window is over when an attempt is due. -/
def WindowOver : Prop := m.window ≤ m.minDelaySeconds

/-- The original has the key of its retries. -/
def SharesKey : Prop := dedupeKey m.sha256 m.originalSubject = dedupeKey m.sha256 m.retrySubject

end Retried

/-- The subject of an attempt is the message itself, without a reference. -/
theorem retrySubject_eq (m : Retried) :
    m.retrySubject = ⟨m.actor.tenantId, m.chain.sender.getD "", m.digits, m.wireText, none⟩ := by
  have hdigits : canonicalReceiver m.countryCode m.chain.destination = m.digits :=
    canonicalReceiver_canonical _ (normalizeMsisdn_canonical m.accepted).1
  rw [Retried.retrySubject, hdigits]
  rfl

/-- A message without a reference that the engine carried as it was has the key of its retries. -/
theorem sharesKey_of_plain {m : Retried} (hreference : m.originalSubject.reference = "")
    (hsender : m.wireSender = m.original.sender.getD "")
    (htext : m.wireText = m.original.text.getD "") : m.SharesKey := by
  have hchain : m.chain.sender.getD "" = m.original.sender.getD "" := by
    rw [Retried.chain, openedFor, hsender, Option.or_self, Text.truthy]
    split
    · next hempty => rw [hempty]; rfl
    · rfl
  have hnone : (DedupeSubject.mk m.actor.tenantId (m.original.sender.getD "") m.digits
      (m.original.text.getD "") none).reference = "" := rfl
  rw [Retried.SharesKey, retrySubject_eq, hchain, htext, dedupeKey, dedupeKey,
    if_neg (not_not.mpr hreference), if_neg (not_not.mpr hnone)]
  rfl

/-! ## The chain among other sends -/

/-- The keys and one message's chain. -/
structure State where
  /-- The clock, in milliseconds. -/
  now : Int
  keys : List DedupeKeyRow
  /-- The engine's ids that are taken. -/
  used : List String
  /-- The message and its attempts, as far as they were submitted. -/
  own : List String
  attempts : Nat
  /-- When the latest dispatch is due. -/
  runAt : Option Int
  /-- That dispatch has not submitted anything yet. -/
  pending : Bool
  /-- An attempt was refused as a duplicate of its own chain. -/
  ownDuplicate : Bool

def init : State := ⟨0, [], [], [], 0, none, false, false⟩

/-- A send, or time passing. -/
inductive Action where
  /-- The message is submitted. -/
  | original (now : Int) (sqlId : String)
  /-- Some other message is. -/
  | other (now : Int) (sqlId : String) (subject : DedupeSubject)
  /-- A scan reads the report of the latest submission, and the next attempt is scheduled. -/
  | scan (now : Int)
  /-- An attempt is made. -/
  | dispatch (now : Int) (sqlId : String)
  /-- An attempt is claimed and comes to nothing. -/
  | lost (now : Int)

/-- The keys after a submission that goes through, claimed and stamped. -/
def submitKeys (m : Retried) (s : State) (subject : DedupeSubject) (now : Int) (sqlId : String) :
    Except SendError (List DedupeKeyRow) :=
  (claimInClient m.sha256 s.keys subject m.window now).map fun keys =>
    if m.window = 0 then keys else stampInClient m.sha256 keys subject sqlId

/-- The submission a refused send is a duplicate of. -/
def duplicateOf (m : Retried) (s : State) (subject : DedupeSubject) (now : Int) : Option String :=
  (claimOn (dropLapsed s.keys (dedupeKey m.sha256 subject) now)
    (dedupeKey m.sha256 subject)).bind DedupeKeyRow.firstSqlId

/-- A send that has gone through. -/
def State.submitted (s : State) (now : Int) (keys : List DedupeKeyRow) (sqlId : String) : State :=
  { s with now := now, keys := keys, used := sqlId :: s.used }

/-- A send, or time passing. -/
@[grind =] def step (m : Retried) (s : State) : Action → Option State
  | .original now sqlId =>
    if s.own ≠ [] ∨ now < s.now ∨ sqlId ∈ s.used then none
    else match submitKeys m s m.originalSubject now sqlId with
      | .ok keys => some { s.submitted now keys sqlId with own := [sqlId] }
      | .error _ => none
  | .other now sqlId subject =>
    if now < s.now ∨ sqlId ∈ s.used then none
    else match submitKeys m s subject now sqlId with
      | .ok keys => some (s.submitted now keys sqlId)
      | .error _ => some { s with now := now }
  | .scan now =>
    if s.own = [] ∨ now < s.now ∨ s.pending ∨ m.maxAttempts ≤ s.attempts then none
    else some { s with
      now := now
      runAt := some (now + m.minDelaySeconds * 1000)
      pending := true }
  | .dispatch now sqlId =>
    if now < s.now ∨ sqlId ∈ s.used ∨ m.maxAttempts ≤ s.attempts then none
    else if !s.runAt.any (· ≤ now) then none
    else match submitKeys m s m.retrySubject now sqlId with
      | .ok keys =>
        some { s.submitted now keys sqlId with
          own := sqlId :: s.own
          attempts := s.attempts + 1
          pending := false }
      | .error _ =>
        some { s with
          now := now
          attempts := s.attempts + 1
          ownDuplicate := s.ownDuplicate ||
            (duplicateOf m s m.retrySubject now).any (s.own.contains ·) }
  | .lost now => if now < s.now then none else some { s with now := now, attempts := s.attempts + 1 }

/-- The message and its retries. -/
def chains (m : Retried) : Transition.System State Action := ⟨step m⟩

/-- An attempt is only made while none of its schedule has been submitted. -/
def Untorn (s : State) : Action → Prop
  | .dispatch _ _ => s.pending = true
  | _ => True

/-- No attempt of the message is refused as a duplicate of the message or of an earlier attempt. -/
def NeverOwnDuplicate (m : Retried) : Prop :=
  ∀ as s, (chains m).run init as = some s → (chains m).Along Untorn init as →
    s.ownDuplicate = false

/-! ## What a submission leaves of the keys -/

section

variable {m : Retried} {s s' : State}

/-- What is always known of the keys: they are stamped with ids that are taken. -/
structure Keyed (s : State) : Prop where
  stamped : ∀ row ∈ s.keys, ∃ id ∈ s.used, row.firstSqlId = some id
  own : ∀ id ∈ s.own, id ∈ s.used

theorem window_idem (m : Retried) : normalizeWindowSeconds m.window = m.window := by
  rw [Retried.window, normalizeWindowSeconds, normalizeWindowSeconds, MAX_DEDUPE_WINDOW_SECONDS]
  omega

variable {keys : List DedupeKeyRow} {now : Int} {subject : DedupeSubject} {sqlId : String}
  {P : DedupeKeyRow → Prop} {id : String} {row : DedupeKeyRow}

theorem dropLapsed_mem {key : String} (h : row ∈ dropLapsed keys key now) :
    row ∈ keys ∧ ¬ (row.dedupeKey = key ∧ row.expiresAt ≤ now) := by
  obtain ⟨hmem, hkept⟩ := mem_filter.mp h
  rw [Bool.not_eq_true', decide_eq_false_iff_not] at hkept
  exact ⟨hmem, hkept⟩

/-- After a submission a row is one from before, or its own. -/
theorem submitKeys_mem (hkeyed : Keyed s) (h : submitKeys m s subject now sqlId = .ok keys)
    (hrow : row ∈ keys) :
    row ∈ s.keys ∨ (row.firstSqlId = some sqlId ∧ row.dedupeKey = dedupeKey m.sha256 subject ∧
      row.expiresAt = now + m.window * 1000) := by
  rw [submitKeys, claimInClient, window_idem] at h
  by_cases hzero : m.window = 0
  · rw [if_pos hzero, Except.map, if_pos hzero] at h
    exact .inl (Except.ok.inj h ▸ hrow)
  · rw [if_neg hzero] at h
    cases hclaim : claimOn (dropLapsed s.keys (dedupeKey m.sha256 subject) now)
        (dedupeKey m.sha256 subject) with
    | some held => rw [hclaim] at h; cases h
    | none =>
      rw [hclaim] at h
      simp only [Except.map, if_neg hzero] at h
      cases h
      obtain ⟨old, hold, rfl⟩ := mem_map.mp hrow
      rcases mem_append.mp hold with hold | hold
      · obtain ⟨id, -, hid⟩ := hkeyed.stamped old (dropLapsed_mem hold).1
        rw [if_neg fun hnone => by rw [hid] at hnone; cases hnone.2]
        exact .inl (dropLapsed_mem hold).1
      · obtain rfl := mem_singleton.mp hold
        rw [if_pos ⟨rfl, rfl⟩]
        exact .inr ⟨rfl, rfl, rfl⟩

/-- What a refused send is a duplicate of has the key and has not lapsed. -/
theorem duplicateOf_some (h : duplicateOf m s subject now = some id) :
    ∃ row ∈ s.keys, row.firstSqlId = some id ∧ row.dedupeKey = dedupeKey m.sha256 subject ∧
      now < row.expiresAt := by
  obtain ⟨row, hfound, hid⟩ := Option.bind_eq_some_iff.mp h
  obtain ⟨hmem, hlive⟩ := dropLapsed_mem (mem_of_find?_eq_some hfound)
  have hkey : row.dedupeKey = dedupeKey m.sha256 subject := by simpa using find?_some hfound
  exact ⟨row, hmem, hid, hkey, not_le.mp fun hlapsed => hlive ⟨hkey, hlapsed⟩⟩

theorem keyed_submitted (hkeyed : Keyed s) (h : submitKeys m s subject now sqlId = .ok keys)
    (hkeys : s'.keys = keys) (hused : s'.used = sqlId :: s.used)
    (hown : ∀ id ∈ s'.own, id = sqlId ∨ id ∈ s.own) : Keyed s' where
  stamped row hrow := by
    rw [hkeys] at hrow
    rw [hused]
    rcases submitKeys_mem hkeyed h hrow with hold | ⟨hid, -, -⟩
    · obtain ⟨id, hmem, hid⟩ := hkeyed.stamped row hold
      exact ⟨id, mem_cons_of_mem _ hmem, hid⟩
    · exact ⟨sqlId, mem_cons_self, hid⟩
  own id hid := by
    rw [hused]
    rcases hown id hid with rfl | hid
    · exact mem_cons_self
    · exact mem_cons_of_mem _ (hkeyed.own id hid)

/-- Every key that the message or one of its attempts has claimed is as `P` says. -/
def OwnRows (P : DedupeKeyRow → Prop) (s : State) : Prop :=
  ∀ row ∈ s.keys, ∀ id ∈ s.own, row.firstSqlId = some id → P row

/-- Another message's claim is none of the chain's. -/
theorem ownRows_other (hkeyed : Keyed s) (hown : OwnRows P s)
    (h : submitKeys m s subject now sqlId = .ok keys) (hfresh : sqlId ∉ s.used) :
    OwnRows P (s.submitted now keys sqlId) := by
  intro row hrow id hid hfirst
  rcases submitKeys_mem hkeyed h hrow with hold | ⟨hnew, -, -⟩
  · exact hown row hold id hid hfirst
  · obtain rfl := Option.some.inj (hnew.symm.trans hfirst)
    exact absurd (hkeyed.own _ hid) hfresh

/-- The chain's own claim is as `P` says if the new row is. -/
theorem ownRows_own {own : List String} (hkeyed : Keyed s) (hrows : OwnRows P s)
    (h : submitKeys m s subject now sqlId = .ok keys) (hfresh : sqlId ∉ s.used)
    (hown : ∀ id ∈ own, id = sqlId ∨ id ∈ s.own)
    (hnew : ∀ row : DedupeKeyRow, row.dedupeKey = dedupeKey m.sha256 subject →
      row.expiresAt = now + m.window * 1000 → P row) :
    OwnRows P { s.submitted now keys sqlId with own := own } := by
  intro row hrow id hid hfirst
  rcases submitKeys_mem hkeyed h hrow with hold | ⟨-, hkey, hexpires⟩
  · rcases hown id hid with rfl | hid
    · obtain ⟨other, hused, hother⟩ := hkeyed.stamped row hold
      obtain rfl := Option.some.inj (hfirst.symm.trans hother)
      exact absurd hused hfresh
    · exact hrows row hold id hid hfirst
  · exact hnew row hkey hexpires

/-- An attempt is no duplicate of its own chain when the chain's claims are of another kind than
the key asks for. -/
theorem duplicateOf_other (hrows : OwnRows P s)
    (hlive : ∀ row, P row → row.dedupeKey = dedupeKey m.sha256 m.retrySubject →
      ¬ now < row.expiresAt) :
    (duplicateOf m s m.retrySubject now).any (s.own.contains ·) = false := by
  rw [Bool.eq_false_iff]
  intro hany
  obtain ⟨id, hdup, hown⟩ := Option.any_eq_true _ _ |>.mp hany
  obtain ⟨row, hmem, hid, hkey, hexpires⟩ := duplicateOf_some hdup
  exact hlive row (hrows row hmem id (contains_iff_mem.mp hown) hid) hkey hexpires

/-! ## A window that is over in time -/

/-- The chain's claims lapse a window after the clock at the latest, and before the next attempt. -/
structure Lapsing (m : Retried) (s : State) : Prop where
  keyed : Keyed s
  recent : OwnRows (fun row => row.expiresAt ≤ s.now + m.window * 1000) s
  due : s.pending = true → s.own ≠ [] ∧ ∃ runAt, s.runAt = some runAt ∧
    OwnRows (fun row => row.expiresAt ≤ runAt) s
  never : s.ownDuplicate = false

theorem init_lapsing : Lapsing m init where
  keyed := ⟨nofun, nofun⟩
  recent := nofun
  due := nofun
  never := rfl

theorem OwnRows.imp {Q : DedupeKeyRow → Prop} (h : OwnRows P s) (himp : ∀ row, P row → Q row) :
    OwnRows Q s := fun row hrow id hid hfirst => himp row (h row hrow id hid hfirst)

/-- The clock moves on. -/
theorem Lapsing.later {attempts : Nat} (h : Lapsing m s) (hnow : s.now ≤ now) :
    Lapsing m { s with now := now, attempts := attempts } where
  keyed := ⟨h.keyed.stamped, h.keyed.own⟩
  recent := h.recent.imp fun row hrow => by
    show row.expiresAt ≤ now + m.window * 1000
    omega
  __ := h

/-- The chain submits something, and schedules nothing by it. -/
theorem Lapsing.own (h : Lapsing m s) (hnow : s.now ≤ now) (hfresh : sqlId ∉ s.used)
    (hkeys : submitKeys m s subject now sqlId = .ok keys) (attempts : Nat) (own : List String)
    (hown : ∀ id ∈ own, id = sqlId ∨ id ∈ s.own) :
    Lapsing m { s.submitted now keys sqlId with
      own := own, attempts := attempts, pending := false } where
  keyed := keyed_submitted h.keyed hkeys rfl rfl hown
  recent := by
    have hold : OwnRows (fun row => row.expiresAt ≤ now + m.window * 1000) s :=
      h.recent.imp fun row hrow => by omega
    exact ownRows_own h.keyed hold hkeys hfresh hown fun row _ hexpires => hexpires.le
  due := nofun
  never := h.never

theorem step_lapsing (hover : m.WindowOver) (s : State) (a : Action) (s' : State)
    (h : Lapsing m s) (huntorn : Untorn s a) (hstep : step m s a = some s') : Lapsing m s' := by
  rw [Retried.WindowOver] at hover
  cases a with
  | original now sqlId =>
    rw [step] at hstep
    split at hstep
    · cases hstep
    · next hguard =>
      obtain ⟨hown, hnow, hfresh⟩ := by simpa only [not_or] using hguard
      have hpending : s.pending = false := by
        by_contra hpending
        exact hown (h.due (by simpa using hpending)).1
      split at hstep
      · next keys hkeys =>
        cases hstep
        have hafter := h.own (not_lt.mp hnow) hfresh hkeys s.attempts [sqlId] fun id hid =>
          .inl (mem_singleton.mp hid)
        rw [← hpending] at hafter
        exact hafter
      · cases hstep
  | other now sqlId subject =>
    rw [step] at hstep
    split at hstep
    · cases hstep
    · next hguard =>
      obtain ⟨hnow, hfresh⟩ := not_or.mp hguard
      split at hstep
      · next keys hkeys =>
        cases hstep
        have hlater : Lapsing m { s with now := now } := h.later (not_lt.mp hnow)
        exact {
          keyed := keyed_submitted h.keyed hkeys rfl rfl fun _ => .inr
          recent := ownRows_other h.keyed hlater.recent hkeys hfresh
          due := fun hpending =>
            have ⟨hown, runAt, hrunAt, hrows⟩ := h.due hpending
            ⟨hown, runAt, hrunAt, ownRows_other h.keyed hrows hkeys hfresh⟩
          never := h.never }
      · cases hstep
        exact h.later (not_lt.mp hnow)
  | scan now =>
    rw [step] at hstep
    split at hstep
    · cases hstep
    · next hguard =>
      obtain ⟨hown, hnow, -⟩ := by simpa only [not_or] using hguard
      cases hstep
      have hlater : Lapsing m { s with now := now } := h.later (not_lt.mp hnow)
      refine ⟨⟨h.keyed.stamped, h.keyed.own⟩, hlater.recent, fun _ => ⟨hown, _, rfl, ?_⟩, h.never⟩
      -- the delay is at least the window
      exact hlater.recent.imp fun row hrow => by dsimp only at hrow; omega
  | dispatch now sqlId =>
    rw [step] at hstep
    split at hstep
    · cases hstep
    · next hguard =>
      obtain ⟨hnow, hfresh, -⟩ := by simpa only [not_or] using hguard
      split at hstep
      · cases hstep
      · next hdue =>
        split at hstep
        · next keys hkeys =>
          cases hstep
          exact h.own (not_lt.mp hnow) hfresh hkeys (s.attempts + 1) _ fun id hid =>
            mem_cons.mp hid
        · cases hstep
          obtain ⟨-, runAt, hrunAt, hrows⟩ := h.due huntorn
          have hrunAt' : runAt ≤ now := by simpa [hrunAt] using hdue
          have hnone : (duplicateOf m s m.retrySubject now).any (s.own.contains ·) = false :=
            duplicateOf_other hrows fun row hrow _ => by omega
          have hlater : Lapsing m { s with now := now, attempts := s.attempts + 1 } :=
            h.later (not_lt.mp hnow)
          exact ⟨⟨h.keyed.stamped, h.keyed.own⟩, hlater.recent, hlater.due, by rw [h.never, hnone]; rfl⟩
  | lost now =>
    rw [step] at hstep
    split at hstep
    · cases hstep
    · next hnow =>
      cases hstep
      exact h.later (not_lt.mp hnow)

/-! ## A single attempt under a key of its own -/

/-- Before the one attempt, the only claim of the chain is the original's. -/
structure Single (m : Retried) (s : State) : Prop where
  keyed : Keyed s
  first : s.attempts = 0 →
    OwnRows (fun row => row.dedupeKey = dedupeKey m.sha256 m.originalSubject) s
  never : s.ownDuplicate = false

theorem init_single : Single m init := ⟨⟨nofun, nofun⟩, nofun, rfl⟩

theorem step_single (hkey : ¬ m.SharesKey) (hone : m.maxAttempts ≤ 1) (s : State) (a : Action)
    (s' : State) (h : Single m s) (hstep : step m s a = some s') : Single m s' := by
  cases a with
  | original now sqlId =>
    rw [step] at hstep
    split at hstep
    · cases hstep
    · next hguard =>
      obtain ⟨hown, -, hfresh⟩ := by simpa only [not_or, not_not] using hguard
      split at hstep
      · next keys hkeys =>
        cases hstep
        have hmem : ∀ id ∈ [sqlId], id = sqlId ∨ id ∈ s.own := fun id hid =>
          .inl (mem_singleton.mp hid)
        exact ⟨keyed_submitted h.keyed hkeys rfl rfl hmem,
          fun hzero => ownRows_own h.keyed (h.first hzero) hkeys hfresh hmem fun row hrow _ => hrow,
          h.never⟩
      · cases hstep
  | other now sqlId subject =>
    rw [step] at hstep
    split at hstep
    · cases hstep
    · next hguard =>
      obtain ⟨-, hfresh⟩ := not_or.mp hguard
      split at hstep
      · next keys hkeys =>
        cases hstep
        exact ⟨keyed_submitted h.keyed hkeys rfl rfl fun _ => .inr,
          fun hzero => ownRows_other h.keyed (h.first hzero) hkeys hfresh, h.never⟩
      · cases hstep
        exact ⟨⟨h.keyed.stamped, h.keyed.own⟩, h.first, h.never⟩
  | scan now =>
    rw [step] at hstep
    split at hstep
    · cases hstep
    · cases hstep
      exact ⟨⟨h.keyed.stamped, h.keyed.own⟩, h.first, h.never⟩
  | dispatch now sqlId =>
    rw [step] at hstep
    split at hstep
    · cases hstep
    · next hguard =>
      obtain ⟨-, -, hbudget⟩ := by simpa only [not_or] using hguard
      have hzero : s.attempts = 0 := by omega
      split at hstep
      · cases hstep
      · split at hstep
        · next keys hkeys =>
          cases hstep
          exact ⟨keyed_submitted h.keyed hkeys rfl rfl fun _ => mem_cons.mp,
            fun hsucc => absurd hsucc (Nat.succ_ne_zero _), h.never⟩
        · cases hstep
          have hnone : (duplicateOf m s m.retrySubject now).any (s.own.contains ·) = false :=
            duplicateOf_other (h.first hzero) fun row horiginal hretry =>
              absurd (horiginal.symm.trans hretry) hkey
          exact ⟨⟨h.keyed.stamped, h.keyed.own⟩,
            fun hsucc => absurd hsucc (Nat.succ_ne_zero _), by rw [h.never, hnone]; rfl⟩
  | lost now =>
    rw [step] at hstep
    split at hstep
    · cases hstep
    · cases hstep
      exact ⟨⟨h.keyed.stamped, h.keyed.own⟩,
        fun hsucc => absurd hsucc (Nat.succ_ne_zero _), h.never⟩

/-! ## A window that is too long -/

/-- The row of a submission. -/
def rowOf (m : Retried) (subject : DedupeSubject) (now : Int) (sqlId : String) : DedupeKeyRow :=
  ⟨dedupeKey m.sha256 subject, some sqlId, now + m.window * 1000, 0⟩

/-- A key that nobody holds is claimed. -/
theorem submitKeys_free (hwindow : m.window ≠ 0) (hstamped : ∀ row ∈ s.keys, row.firstSqlId ≠ none)
    (hfree : ∀ row ∈ s.keys, row.dedupeKey ≠ dedupeKey m.sha256 subject) :
    submitKeys m s subject now sqlId = .ok (s.keys ++ [rowOf m subject now sqlId]) := by
  have hdrop : dropLapsed s.keys (dedupeKey m.sha256 subject) now = s.keys := by
    refine filter_eq_self.mpr fun row hrow => ?_
    rw [Bool.not_eq_true', decide_eq_false_iff_not]
    exact fun h => hfree row hrow h.1
  have hnone : claimOn s.keys (dedupeKey m.sha256 subject) = none :=
    find?_eq_none.mpr fun row hrow => by simpa using hfree row hrow
  have hstamp : s.keys.map (fun row =>
      if row.dedupeKey = dedupeKey m.sha256 subject ∧ row.firstSqlId = none then
        { row with firstSqlId := some sqlId } else row) = s.keys := by
    refine (map_congr_left fun row hrow => ?_).trans (map_id s.keys)
    exact if_neg fun h => hstamped row hrow h.2
  simp only [submitKeys, claimInClient, window_idem, if_neg hwindow, hdrop, hnone, Except.map,
    stampInClient, map_append, hstamp, rowOf]
  simp

/-- A key that is held is refused, as a duplicate of the submission that holds it. -/
theorem submitKeys_held (hwindow : m.window ≠ 0) (sqlId : String)
    (h : duplicateOf m s subject now = some id) :
    ∃ e, submitKeys m s subject now sqlId = .error e := by
  obtain ⟨row, hrow, -⟩ := Option.bind_eq_some_iff.mp h
  rw [submitKeys, claimInClient, window_idem, if_neg hwindow, hrow]
  exact ⟨_, rfl⟩

/-- The state after the original, sent at zero. -/
def afterOriginal (m : Retried) : State :=
  { init with keys := [rowOf m m.originalSubject 0 "1"], used := ["1"], own := ["1"] }

theorem step_original (hwindow : m.window ≠ 0) :
    step m init (.original 0 "1") = some (afterOriginal m) := by
  have hkeys : submitKeys m init m.originalSubject 0 "1" =
      .ok [rowOf m m.originalSubject 0 "1"] := submitKeys_free hwindow nofun nofun
  rw [step, if_neg (by simp [init]), hkeys]
  rfl

/-- The next attempt is scheduled at once. -/
def State.due (m : Retried) (s : State) : State :=
  { s with runAt := some (s.now + m.minDelaySeconds * 1000), pending := true }

theorem step_scan (hown : s.own ≠ []) (hpending : s.pending = false)
    (hbudget : s.attempts < m.maxAttempts) : step m s (.scan s.now) = some (s.due m) := by
  rw [step, if_neg]
  · rfl
  · simpa [hown, hpending] using hbudget

/-- An attempt whose key is the chain's own and has not lapsed is refused as its duplicate. -/
theorem step_dispatch_own (hwindow : m.window ≠ 0) (sqlId : String)
    (hfresh : sqlId ∉ s.used) (hbudget : s.attempts < m.maxAttempts)
    (hdup : duplicateOf m s m.retrySubject (s.now + m.minDelaySeconds * 1000) = some id)
    (hown : id ∈ s.own) :
    ∃ s', step m (s.due m) (.dispatch (s.now + m.minDelaySeconds * 1000) sqlId) = some s' ∧
      s'.ownDuplicate = true := by
  obtain ⟨e, he⟩ := submitKeys_held (s := s) hwindow sqlId hdup
  have he : submitKeys m (s.due m) m.retrySubject (s.now + m.minDelaySeconds * 1000) sqlId =
      .error e := he
  have hdue : (s.due m).runAt.any (· ≤ s.now + m.minDelaySeconds * 1000) = true := by
    simp [State.due]
  rw [step, if_neg (by simp [State.due, hfresh]; omega), hdue, he]
  refine ⟨_, rfl, ?_⟩
  have hdup : duplicateOf m (s.due m) m.retrySubject (s.now + m.minDelaySeconds * 1000) =
      some id := hdup
  have hcontains : (s.due m).own.contains id = true := contains_iff_mem.mpr hown
  rw [hdup, Option.any_some, hcontains, Bool.or_true]

/-- The state after an attempt at `now`. -/
def State.attempted (m : Retried) (s : State) (now : Int) (sqlId : String) : State :=
  { s.submitted now (s.keys ++ [rowOf m m.retrySubject now sqlId]) sqlId with
    own := sqlId :: s.own, attempts := s.attempts + 1, pending := false }

/-- An attempt whose key nobody holds is submitted. -/
theorem step_dispatch_free (hwindow : m.window ≠ 0) (sqlId : String) (hfresh : sqlId ∉ s.used)
    (hbudget : s.attempts < m.maxAttempts) (hstamped : ∀ row ∈ s.keys, row.firstSqlId ≠ none)
    (hfree : ∀ row ∈ s.keys, row.dedupeKey ≠ dedupeKey m.sha256 m.retrySubject) :
    step m (s.due m) (.dispatch (s.now + m.minDelaySeconds * 1000) sqlId) =
      some ((s.due m).attempted m (s.now + m.minDelaySeconds * 1000) sqlId) := by
  have hkeys : submitKeys m (s.due m) m.retrySubject (s.now + m.minDelaySeconds * 1000) sqlId =
      .ok (s.keys ++ [rowOf m m.retrySubject (s.now + m.minDelaySeconds * 1000) sqlId]) :=
    submitKeys_free hwindow hstamped hfree
  rw [step, if_neg (by simp [State.due, hfresh]; omega), hkeys]
  simp [State.due, State.attempted]

/-- The last claim of a chain is what its next attempt finds, within the window. -/
theorem duplicateOf_last (keys : List DedupeKeyRow) {claimedAt : Int}
    (hs : s.keys = keys ++ [rowOf m subject claimedAt id])
    (hkey : dedupeKey m.sha256 subject = dedupeKey m.sha256 m.retrySubject)
    (hother : ∀ row ∈ keys, row.dedupeKey ≠ dedupeKey m.sha256 m.retrySubject)
    (hlive : now < claimedAt + m.window * 1000) : duplicateOf m s m.retrySubject now = some id := by
  have hrest : (dropLapsed keys (dedupeKey m.sha256 m.retrySubject) now).find?
      (fun row => decide (row.dedupeKey = dedupeKey m.sha256 m.retrySubject)) = none :=
    find?_eq_none.mpr fun row hrow => by simpa using hother row (dropLapsed_mem hrow).1
  rw [dropLapsed] at hrest
  rw [duplicateOf, claimOn, hs, dropLapsed, filter_append, find?_append, hrest]
  simp [rowOf, hkey, hlive]

/-- A message that has the key of its retries: its first attempt is refused. -/
theorem shared_key_breaks (hkey : m.SharesKey) (hlong : m.minDelaySeconds < m.window) :
    ¬ NeverOwnDuplicate m := by
  intro hnever
  have hwindow : m.window ≠ 0 := by omega
  have hbudget : (afterOriginal m).attempts < m.maxAttempts := m.check.1
  have hscan := step_scan (m := m) (s := afterOriginal m) (by simp [afterOriginal]) rfl hbudget
  have hdup : duplicateOf m (afterOriginal m) m.retrySubject (0 + m.minDelaySeconds * 1000) =
      some "1" := duplicateOf_last [] rfl hkey nofun (by omega)
  obtain ⟨s, hdispatch, hbad⟩ := step_dispatch_own (s := afterOriginal m) hwindow "2"
    (by simp [afterOriginal]) hbudget hdup (by simp [afterOriginal])
  have hgood := hnever [.original 0 "1", .scan 0, .dispatch (0 + m.minDelaySeconds * 1000) "2"] s
    ((chains m).run_cons_eq_some.mpr ⟨_, step_original hwindow,
      (chains m).run_cons_eq_some.mpr ⟨_, hscan,
        (chains m).run_cons_eq_some.mpr ⟨_, hdispatch, rfl⟩⟩⟩)
    ((chains m).along_cons (step_original hwindow) trivial <|
      (chains m).along_cons hscan trivial <| (chains m).along_cons hdispatch rfl trivial)
  rw [hbad] at hgood
  cases hgood

/-- A message with a key of its own: its second attempt is refused. -/
theorem second_attempt_breaks (hkey : ¬ m.SharesKey) (hmax : 1 < m.maxAttempts)
    (hlong : m.minDelaySeconds < m.window) : ¬ NeverOwnDuplicate m := by
  intro hnever
  have hwindow : m.window ≠ 0 := by omega
  have hscan := step_scan (m := m) (s := afterOriginal m) (by simp [afterOriginal]) rfl m.check.1
  have hfirst := step_dispatch_free (m := m) (s := afterOriginal m) hwindow "2"
    (by simp [afterOriginal]) m.check.1 (by simp [afterOriginal, rowOf])
    (by simpa [afterOriginal, rowOf, Retried.SharesKey] using hkey)
  let s₁ := ((afterOriginal m).due m).attempted m (0 + m.minDelaySeconds * 1000) "2"
  have hscan₁ := step_scan (m := m) (s := s₁) (by simp [s₁, State.attempted]) rfl hmax
  have hdup : duplicateOf m s₁ m.retrySubject (s₁.now + m.minDelaySeconds * 1000) = some "2" :=
    duplicateOf_last [rowOf m m.originalSubject 0 "1"] rfl rfl
      (by simpa [rowOf, Retried.SharesKey] using hkey)
      (by simp only [s₁, State.attempted, State.submitted]; omega)
  obtain ⟨s, hdispatch, hbad⟩ := step_dispatch_own (s := s₁) hwindow "3"
    (by simp [s₁, State.attempted, State.submitted, State.due, afterOriginal]) hmax hdup
    mem_cons_self
  have hgood := hnever [.original 0 "1", .scan 0, .dispatch (0 + m.minDelaySeconds * 1000) "2",
      .scan s₁.now, .dispatch (s₁.now + m.minDelaySeconds * 1000) "3"] s
    ((chains m).run_cons_eq_some.mpr ⟨_, step_original hwindow,
      (chains m).run_cons_eq_some.mpr ⟨_, hscan, (chains m).run_cons_eq_some.mpr ⟨_, hfirst,
          (chains m).run_cons_eq_some.mpr ⟨_, hscan₁,
            (chains m).run_cons_eq_some.mpr ⟨_, hdispatch, rfl⟩⟩⟩⟩⟩)
    ((chains m).along_cons (step_original hwindow) trivial <|
      (chains m).along_cons hscan trivial <| (chains m).along_cons hfirst rfl <|
        (chains m).along_cons hscan₁ trivial <| (chains m).along_cons hdispatch rfl trivial)
  rw [hbad] at hgood
  cases hgood

/-- **When a retry is never its own duplicate**: exactly when the window is not longer than the
delay of the policy, or the message has a key of its own (its caller's reference, or a rewrite on
its way) and a single attempt. -/
theorem never_own_duplicate_iff (m : Retried) :
    NeverOwnDuplicate m ↔ m.WindowOver ∨ (¬ m.SharesKey ∧ m.maxAttempts ≤ 1) := by
  constructor
  · intro hnever
    by_contra hneither
    obtain ⟨hlong, hkeys⟩ := not_or.mp hneither
    have hlong : m.minDelaySeconds < m.window := not_le.mp hlong
    by_cases hkey : m.SharesKey
    · exact shared_key_breaks hkey hlong hnever
    · exact second_attempt_breaks hkey (not_le.mp fun hmax => hkeys ⟨hkey, hmax⟩) hlong hnever
  · rintro (hover | ⟨hkey, hone⟩) as s hrun halong
    · exact ((chains m).invariant_along (step_lapsing hover) init_lapsing halong hrun).never
    · exact ((chains m).invariant_run (step_single hkey hone) init_single hrun).never

end

theorem once_check : 1 ≤ 1 ∧ 1 ≤ 5 := by decide

/-- A console message without a reference, in a tenant with an hour's window, that failed; its
policy retries once, a minute after the report. -/
def plainMessage : Retried where
  sha256 := id
  countryCode := none
  actor := ⟨"1", "operator"⟩
  chainId := "chain-1"
  original := .console "+256772000001" "hello" none
  digits := "256772000001"
  accepted := by decide +kernel
  wireSender := "INFO"
  wireText := "hello"
  windowSeconds := 3600
  minDelaySeconds := 60
  maxAttempts := 1
  check := once_check

/-- Its retry is refused as a duplicate of the message it retries. -/
theorem retry_is_its_own_duplicate : ¬ ∀ m : Retried, NeverOwnDuplicate m := by
  intro hall
  have hkey : plainMessage.SharesKey := sharesKey_of_plain rfl rfl rfl
  exact shared_key_breaks hkey (by decide) (hall plainMessage)

end Jkannel.Retry.OwnDuplicate

