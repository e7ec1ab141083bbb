import Jkannel.Lib.Transition
import Jkannel.Messaging.Dedupe

/-!
# Duplicate control under concurrency

Any number of sends claim one key at once, each in a transaction of its own under READ COMMITTED.
An action is a statement, or the end of a transaction.

* The DELETE of a lapsed claim finds its row in a snapshot (`deleteBegin`), waits for whoever has the
  row locked, and then looks at the row again (`deleteEnd`).
* The INSERT waits for a transaction that is inserting the key, and for the lock on a row that is
  there.  A row that is still there afterwards is a conflict: its counter is incremented, under the
  row's lock, and the send is refused.
* `now()` is the instant a transaction began, so the claims of two sends need not be in the order
  of their instants.

What a transaction has not committed is its own: it is kept in the send's `SendPhase`, and a
rollback is forgetting it.

`held` is therefore only ever written by a commit.  From that: of the sends that commit at most one
falls inside any window, and a send is only refused because of one that was committed.  The
increment of the counter is rolled back with the refusal it counts, so the counter stays at zero.
-/

namespace Jkannel.Messaging.DedupeRace

open List Option
open Function (update update_self update_of_ne)
open Transition (Ack)

/-- The row of the key, with the send that claimed it. -/
structure Held where
  row : DedupeKeyRow
  owner : Nat

/-- Where a send is. -/
inductive SendPhase where
  /-- Its transaction has begun at an instant. -/
  | begun (now : Int)
  /-- The DELETE has found the lapsed claim of a send, or none. -/
  | deleting (now : Int) (target : Option Nat)
  /-- The DELETE is done; whether it deleted the row, which is then locked. -/
  | cleared (now : Int) (removed : Bool)
  /-- The claim is inserted. -/
  | claimed (now : Int) (removed : Bool) (row : DedupeKeyRow)
  /-- The claim carries the id of the message. -/
  | stamped (now : Int) (removed : Bool) (row : DedupeKeyRow)
  /-- The key is another send's; its counter is incremented, and the refusal is to be thrown. -/
  | suppressed (now : Int) (owner : Nat)
  /-- The send failed after its claim, which is to be released. -/
  | failed
  | ended

/-- The key's row and the sends racing for it. -/
structure State where
  /-- No transaction begins before this. -/
  clock : Int
  /-- The committed row of the key. -/
  held : Option Held
  /-- The send that has the committed row locked. -/
  lock : Option Nat
  /-- The send whose insert of the key is not committed. -/
  inserting : Option Nat
  phase : Nat → Option SendPhase
  /-- The sends that committed, each with its instant. -/
  sent : List (Nat × Int)
  /-- The sends that were refused as duplicates, each with the send that held the key. -/
  refused : List (Nat × Nat)

def init : State := ⟨0, none, none, none, fun _ => none, [], []⟩

/-- One statement of one send. -/
inductive Action where
  | begin (i : Nat) (now : Int)
  | deleteBegin (i : Nat)
  | deleteEnd (i : Nat)
  | insert (i : Nat)
  | stamp (i : Nat) (sqlId : String)
  | commit (i : Nat) (ack : Ack)
  /-- The refusal of a duplicate is thrown, and the transaction rolled back. -/
  | refuse (i : Nat)
  /-- Anything else throws, and the transaction is rolled back. -/
  | fail (i : Nat)
  /-- The DELETE of the cleanup, in a transaction of its own. -/
  | release (i : Nat)
  /-- The worker dies, or the cleanup fails. -/
  | crash (i : Nat)

def State.setPhase (s : State) (i : Nat) (p : SendPhase) : State :=
  { s with phase := update s.phase i (some p) }

theorem setPhase_self (s : State) (i : Nat) (p : SendPhase) : (s.setPhase i p).phase i = some p := by
  show update s.phase i (some p) i = some p
  rw [update_self]

theorem setPhase_ne {i j : Nat} (h : j ≠ i) (s : State) (p : SendPhase) :
    (s.setPhase i p).phase j = s.phase j := by
  show update s.phase i (some p) j = s.phase j
  rw [update_of_ne h]

/-- The end of a transaction: its locks are given up. -/
def State.unlock (s : State) (i : Nat) : State :=
  { s with
    lock := if s.lock = some i then none else s.lock
    inserting := if s.inserting = some i then none else s.inserting }

/-- The send whose claim has lapsed at `now`. -/
def lapsedOwner (held : Option Held) (now : Int) : Option Nat :=
  (held.filter fun h => decide (h.row.expiresAt ≤ now)).map Held.owner

/-- The row a claim inserts. -/
def claimRow (key : String) (window now : Int) : DedupeKeyRow :=
  ⟨key, none, now + normalizeWindowSeconds window * 1000, 0⟩

/-- The send's insert goes in. -/
def State.insertClaim (s : State) (i : Nat) (now : Int) (removed : Bool) (row : DedupeKeyRow) :
    State :=
  { s with inserting := some i }.setPhase i (.claimed now removed row)

/-- What a commit leaves. -/
def State.commitClaim (s : State) (i : Nat) (now : Int) (row : DedupeKeyRow) : State :=
  { s.unlock i with
    held := some ⟨row, i⟩
    sent := s.sent ++ [(i, now)] }

/-- The statements of a send on `key`. -/
def sendStep (key : String) (window : Int) (s : State) (i : Nat) : SendPhase → Action → Option State
  | .begun now, .deleteBegin _ =>
    some (s.setPhase i (.deleting now (lapsedOwner s.held now)))
  | .deleting now target, .deleteEnd _ =>
    if target.isSome ∧ s.held.map Held.owner = target then
      -- the row is still there: wait for its lock
      if s.lock.isSome then none
      else some ({ s with lock := some i }.setPhase i (.cleared now true))
    else some (s.setPhase i (.cleared now false))
  | .cleared now removed, .insert _ =>
    if s.inserting.isSome then none
    else match s.held with
      | none => some (s.insertClaim i now removed (claimRow key window now))
      | some held =>
        if removed then some (s.insertClaim i now removed (claimRow key window now))
        else if s.lock.isSome then none
        else some ({ s with lock := some i }.setPhase i (.suppressed now held.owner))
  | .claimed now removed row, .stamp _ sqlId =>
    some (s.setPhase i (.stamped now removed { row with firstSqlId := some sqlId }))
  | .stamped now _ row, .commit _ ack =>
    match ack with
    | .ok => some ((s.commitClaim i now row).setPhase i .ended)
    | .lost _ => some ((s.commitClaim i now row).setPhase i .failed)
    | .refused _ => some ((s.unlock i).setPhase i .failed)
  | .suppressed _ owner, .refuse _ =>
    some ({ s.unlock i with refused := s.refused ++ [(i, owner)] }.setPhase i .ended)
  | .begun _, .fail _ | .deleting _ _, .fail _ | .cleared _ _, .fail _ =>
    some ((s.unlock i).setPhase i .ended)
  | .claimed _ _ _, .fail _ | .stamped _ _ _, .fail _ => some ((s.unlock i).setPhase i .failed)
  | .failed, .release _ =>
    if s.held.any fun h => h.row.firstSqlId.isNone then
      if s.lock.isSome then none
      else some ({ s with held := none }.setPhase i .ended)
    else some (s.setPhase i .ended)
  | .ended, .crash _ => none
  | _, .crash _ => some ((s.unlock i).setPhase i .ended)
  | _, _ => none

/-- One statement of one send. -/
@[grind =] def step (key : String) (window : Int) (s : State) (a : Action) : Option State :=
  match a with
  | .begin i now =>
    match s.phase i with
    | none => if s.clock ≤ now then some ({ s with clock := now }.setPhase i (.begun now)) else none
    | some _ => none
  | .deleteBegin i | .deleteEnd i | .insert i | .stamp i _ | .commit i _ | .refuse i | .fail i
  | .release i | .crash i => (s.phase i).bind fun p => sendStep key window s i p a

/-- The sends on one key. -/
def sends (key : String) (window : Int) : Transition.System State Action := ⟨step key window⟩

/-! ## What holds -/

/-- Of the sends that committed, at most one falls inside any window. -/
def OnePerWindow (window : Int) (s : State) : Prop :=
  ∀ start, (s.sent.filter fun p => decide (start ≤ p.2 ∧
    p.2 < start + normalizeWindowSeconds window * 1000)).length ≤ 1

/-- Whoever was refused as a duplicate was so because of a send that committed. -/
def RefusedBySent (s : State) : Prop := ∀ p ∈ s.refused, p.2 ∈ s.sent.map Prod.fst

/-- The refusals of duplicates of a send. -/
def State.refusalsOf (s : State) (owner : Nat) : Nat :=
  (s.refused.filter fun p => p.2 = owner).length

/-- The counter of the key is the number of duplicates that were refused. -/
def CountExact (s : State) : Prop :=
  ∀ h, s.held = some h → h.row.suppressedCount = s.refusalsOf h.owner

/-! ## The invariant -/

section

variable {key : String} {window : Int}

/-- The sends that committed. -/
def State.senders (s : State) : List Nat := s.sent.map Prod.fst

/-- The send has deleted the committed row, whose claim had lapsed when it began. -/
def Removed (s : State) (i : Nat) (now : Int) : Prop :=
  s.lock = some i ∧ ∃ h, s.held = some h ∧ h.row.expiresAt ≤ now

/-- The send has the key for itself, and may commit its claim. -/
def Claims (s : State) (i : Nat) (now : Int) : Prop :=
  s.inserting = some i ∧ (s.held = none ∨ Removed s i now)

/-- What is known of a send by how far it has got. -/
def PhaseInv (key : String) (window : Int) (s : State) (i : Nat) : SendPhase → Prop
  | .deleting now target => ∀ owner, target = some owner →
      owner ∈ s.senders ∧ ∀ h, s.held = some h → h.owner = owner → h.row.expiresAt ≤ now
  | .cleared now removed => removed = true → Removed s i now
  | .claimed now _ row => Claims s i now ∧ row = claimRow key window now
  | .stamped now _ row => Claims s i now ∧ ∃ sqlId,
      row = { claimRow key window now with firstSqlId := some sqlId }
  | .suppressed _ owner => s.lock = some i ∧ owner ∈ s.senders
  | .begun _ | .failed | .ended => True

/-- The committed row is the claim of a send that committed, later than all others. -/
structure HeldInv (key : String) (window : Int) (s : State) (h : Held) : Prop where
  stamped : h.row.firstSqlId.isSome = true
  counter : h.row.suppressedCount = 0
  key_eq : h.row.dedupeKey = key
  latest : ∃ now, (h.owner, now) ∈ s.sent ∧
    h.row.expiresAt = now + normalizeWindowSeconds window * 1000 ∧ ∀ p ∈ s.sent, p.2 ≤ now

/-- The instants of two sends are a window apart. -/
def Apart (window : Int) (p q : Nat × Int) : Prop :=
  p.2 + normalizeWindowSeconds window * 1000 ≤ q.2

/-- What a step of the race keeps. -/
structure Inv (key : String) (window : Int) (s : State) : Prop where
  phases : ∀ i p, s.phase i = some p → PhaseInv key window s i p
  held : ∀ h, s.held = some h → HeldInv key window s h
  /-- The row of a key that has been sent is never without a claim. -/
  unclaimed : s.held = none → s.sent = []
  apart : s.sent.Pairwise (Apart window)
  done : ∀ i ∈ s.senders, s.phase i = some .failed ∨ s.phase i = some .ended
  refused : ∀ p ∈ s.refused, p.2 ∈ s.senders

theorem init_inv : Inv key window init where
  phases _ _ h := nomatch h
  held _ h := nomatch h
  unclaimed _ := rfl
  apart := .nil
  done _ h := nomatch h
  refused _ h := nomatch h

/-! ## Steps that commit nothing -/

/-- What a send relies on is as it was. -/
structure Keeps (s s' : State) (j : Nat) : Prop where
  held : s'.held = s.held
  sent : s'.sent = s.sent
  lock : s.lock = some j → s'.lock = some j
  inserting : s.inserting = some j → s'.inserting = some j

variable {s s' : State} {i j : Nat}

variable {now : Int} {p : SendPhase} {row : DedupeKeyRow}

theorem Removed.keeps (hkeeps : Keeps s s' j) (h : Removed s j now) : Removed s' j now := by
  rw [Removed, hkeeps.held]
  exact ⟨hkeeps.lock h.1, h.2⟩

theorem Claims.keeps (hkeeps : Keeps s s' j) (h : Claims s j now) : Claims s' j now := by
  rw [Claims, hkeeps.held]
  exact ⟨hkeeps.inserting h.1, h.2.imp_right (Removed.keeps hkeeps)⟩

theorem phaseInv_keeps (hkeeps : Keeps s s' j) (h : PhaseInv key window s j p) :
    PhaseInv key window s' j p := by
  have hsenders : s'.senders = s.senders := by rw [State.senders, hkeeps.sent, State.senders]
  cases p with
  | begun now => trivial
  | deleting now target =>
    rw [PhaseInv, hsenders, hkeeps.held]
    exact h
  | cleared now removed => exact fun hremoved => (h hremoved).keeps hkeeps
  | claimed _ _ _ | stamped _ _ _ => exact ⟨h.1.keeps hkeeps, h.2⟩
  | suppressed now owner =>
    rw [PhaseInv, hsenders]
    exact ⟨hkeeps.lock h.1, h.2⟩
  | failed | ended => trivial

/-- A step of send `i` to phase `p` that commits nothing. -/
theorem inv_of_keeps (hinv : Inv key window s) (hkeeps : ∀ j, j ≠ i → Keeps s s' j)
    (hheld : s'.held = s.held) (hsent : s'.sent = s.sent)
    (hphase : s'.phase = update s.phase i (some p)) (hp : PhaseInv key window s' i p)
    (hover : i ∈ s.senders → p = .failed ∨ p = .ended)
    (hrefused : ∀ q ∈ s'.refused, q.2 ∈ s.senders) : Inv key window s' where
  phases j q hq := by
    rw [hphase] at hq
    by_cases hj : j = i
    · subst hj
      rw [update_self] at hq
      exact some.inj hq ▸ hp
    · rw [update_of_ne hj] at hq
      exact phaseInv_keeps (hkeeps j hj) (hinv.phases j q hq)
  held h hh := by
    rw [hheld] at hh
    have hinv := hinv.held h hh
    exact ⟨hinv.stamped, hinv.counter, hinv.key_eq, hsent ▸ hinv.latest⟩
  unclaimed hnone := by
    rw [hheld] at hnone
    rw [hsent, hinv.unclaimed hnone]
  apart := hsent ▸ hinv.apart
  done j hj := by
    rw [State.senders, hsent] at hj
    rw [hphase]
    by_cases hji : j = i
    · subst hji
      rw [update_self]
      exact (hover hj).imp (congrArg some) (congrArg some)
    · rw [update_of_ne hji]
      exact hinv.done j hj
  refused q hq := by
    rw [State.senders, hsent]
    exact hrefused q hq

theorem keeps_unlock (hne : j ≠ i) : Keeps s (s.unlock i) j where
  held := rfl
  sent := rfl
  lock h := by
    rw [State.unlock, h, if_neg fun heq => hne (some.inj heq)]
  inserting h := by
    rw [State.unlock, h, if_neg fun heq => hne (some.inj heq)]

/-- A send that is under way has not committed. -/
theorem not_sender (hinv : Inv key window s) (hp : s.phase i = some p)
    (hunder : p ≠ .failed ∧ p ≠ .ended) : i ∉ s.senders := by
  intro hi
  rcases hinv.done i hi with h | h
  · exact hunder.1 (some.inj (hp.symm.trans h))
  · exact hunder.2 (some.inj (hp.symm.trans h))

/-! ## A commit -/

theorem normalizeWindowSeconds_nonneg (window : Int) : 0 ≤ normalizeWindowSeconds window := by
  rw [normalizeWindowSeconds, MAX_DEDUPE_WINDOW_SECONDS]
  omega

/-- A send that may commit is a window after every send that has. -/
theorem Claims.apart (hinv : Inv key window s) (h : Claims s i now) :
    ∀ q ∈ s.sent, Apart window q (i, now) := by
  intro q hq
  rcases h.2 with hnone | ⟨-, held, hheld, hlapsed⟩
  · rw [hinv.unclaimed hnone] at hq
    cases hq
  · obtain ⟨latest, -, hexpires, hmax⟩ := (hinv.held held hheld).latest
    have := hmax q hq
    rw [Apart]
    omega

/-- The claim of one send can only be committed when no other relies on the row. -/
theorem phaseInv_commit {q : SendPhase} (hclaims : Claims s i now)
    (hi : i ∉ s.senders) (hne : j ≠ i) (h : PhaseInv key window s j q) :
    PhaseInv key window (s.commitClaim i now row) j q := by
  have hinserting : s.inserting ≠ some j := by
    rw [hclaims.1]
    exact fun heq => hne (some.inj heq).symm
  have hsenders : ∀ owner ∈ s.senders, owner ∈ (s.commitClaim i now row).senders := by
    intro owner howner
    rw [State.senders, State.commitClaim, map_append]
    exact mem_append_left _ howner
  cases q with
  | begun now => trivial
  | deleting instant target =>
    intro owner htarget
    refine ⟨hsenders owner (h owner htarget).1, fun held hheld howner => ?_⟩
    cases hheld
    obtain rfl : i = owner := howner
    exact absurd (h i htarget).1 hi
  | cleared instant removed =>
    intro hremoved
    obtain ⟨hlock, held, hheld, -⟩ := h hremoved
    rcases hclaims.2 with hnone | ⟨hlock', -⟩
    · rw [hnone] at hheld
      cases hheld
    · rw [hlock] at hlock'
      exact absurd (some.inj hlock') hne
  | claimed _ _ _ | stamped _ _ _ => exact absurd h.1.1 hinserting
  | suppressed instant owner => exact ⟨(keeps_unlock hne).lock h.1, hsenders owner h.2⟩
  | failed | ended => trivial

theorem inv_commit {removed : Bool} (hinv : Inv key window s)
    (hphase : s.phase i = some (.stamped now removed row)) (hp : p = .failed ∨ p = .ended) :
    Inv key window ((s.commitClaim i now row).setPhase i p) := by
  obtain ⟨hclaims, sqlId, rfl⟩ := hinv.phases i _ hphase
  have hi : i ∉ s.senders := not_sender hinv hphase (by simp)
  have hapart := hclaims.apart hinv
  have hwindow := normalizeWindowSeconds_nonneg window
  constructor
  · intro j q hq
    by_cases hji : j = i
    · subst hji
      rw [setPhase_self] at hq
      cases hq
      rcases hp with rfl | rfl <;> trivial
    · rw [setPhase_ne hji] at hq
      exact phaseInv_commit hclaims hi hji (hinv.phases j q hq)
  · intro h hh
    cases hh
    refine ⟨rfl, rfl, rfl, now, mem_append_right _ mem_cons_self, rfl, ?_⟩
    intro q hq
    rcases mem_append.mp hq with hq | hq
    · have := hapart q hq
      rw [Apart] at this
      omega
    · obtain rfl := mem_singleton.mp hq
      exact Int.le_refl now
  · exact fun hnone => nomatch hnone
  · exact pairwise_append.mpr ⟨hinv.apart, pairwise_singleton _ _,
      fun a ha b hb => mem_singleton.mp hb ▸ hapart a ha⟩
  · intro j hj
    by_cases hji : j = i
    · subst hji
      rw [setPhase_self]
      exact hp.imp (congrArg some) (congrArg some)
    · have hj' : j ∈ s.senders := by
        rw [State.senders, State.setPhase, State.commitClaim, map_append] at hj
        rcases mem_append.mp hj with hj | hj
        · exact hj
        · exact absurd (mem_singleton.mp hj) hji
      rw [setPhase_ne hji]
      exact hinv.done j hj'
  · intro q hq
    rw [State.senders, State.setPhase, State.commitClaim, map_append]
    exact mem_append_left _ (hinv.refused q hq)

/-! ## Every step -/

section

variable (hinv : Inv key window s)
include hinv

/-- The claim of the key goes in when nobody else's is, and the row is gone or to be gone. -/
theorem inv_insert {removed : Bool} (hphase : s.phase i = some (.cleared now removed))
    (hfree : s.inserting = none) (hgone : s.held = none ∨ removed = true) :
    Inv key window (s.insertClaim i now removed (claimRow key window now)) := by
  have hi : i ∉ s.senders := not_sender hinv hphase (by simp)
  refine inv_of_keeps (i := i) hinv (fun j _ => ⟨rfl, rfl, id, fun hj => ?_⟩) rfl rfl rfl
    ⟨⟨rfl, ?_⟩, rfl⟩ (fun h => absurd h hi) hinv.refused
  · rw [hfree] at hj
    cases hj
  · rcases hgone with hnone | hremoved
    · exact .inl hnone
    · exact .inr (hinv.phases i _ hphase hremoved)

/-- A step that does nothing but get on. -/
theorem inv_of_phase {q : SendPhase} (hp : s.phase i = some p)
    (hunder : p ≠ .failed ∧ p ≠ .ended) (hq : PhaseInv key window (s.setPhase i q) i q) :
    Inv key window (s.setPhase i q) :=
  inv_of_keeps hinv (fun _ _ => ⟨rfl, rfl, id, id⟩) rfl rfl rfl hq
    (fun hi => absurd hi (not_sender hinv hp hunder)) hinv.refused

/-- A transaction that is over, with or without the cleanup to come. -/
theorem inv_unlock (hp : p = .failed ∨ p = .ended) :
    Inv key window ((s.unlock i).setPhase i p) := by
  refine inv_of_keeps hinv (fun j hj => ?_) rfl rfl rfl ?_ (fun _ => hp) hinv.refused
  · exact ⟨rfl, rfl, (keeps_unlock hj).lock, (keeps_unlock hj).inserting⟩
  · rcases hp with rfl | rfl <;> trivial

theorem inv_done (hp : p = .failed ∨ p = .ended) :
    Inv key window (s.setPhase i p) := by
  refine inv_of_keeps hinv (fun j hj => ⟨rfl, rfl, id, id⟩) rfl rfl rfl ?_ (fun _ => hp)
    hinv.refused
  rcases hp with rfl | rfl <;> trivial

/-- The row is locked and gone, if it is still the one that had lapsed. -/
theorem inv_deleteEnd {k : Nat} {target : Option Nat}
    (hphase : s.phase i = some (.deleting now target))
    (h : sendStep key window s i (.deleting now target) (.deleteEnd k) = some s') :
    Inv key window s' := by
  have hp := hinv.phases i _ hphase
  rw [sendStep] at h
  split at h
  · next hfound =>
    split at h
    · cases h
    · next hfree =>
      cases h
      have hi := not_sender hinv hphase (by simp)
      have hlock : s.lock = none := by simpa using hfree
      refine inv_of_keeps (i := i) hinv (fun j _ => ⟨rfl, rfl, fun hj => ?_, id⟩) rfl rfl rfl
        (fun _ => ⟨rfl, ?_⟩) (fun h => absurd h hi) hinv.refused
      · rw [hlock] at hj
        cases hj
      · obtain ⟨owner, hsome⟩ := isSome_iff_exists.mp hfound.1
        obtain ⟨held, hheld, howner⟩ := map_eq_some_iff.mp (hfound.2.trans hsome)
        exact ⟨held, hheld, (hp owner hsome).2 held hheld howner⟩
  · cases h
    exact inv_of_phase hinv hphase (by simp) fun h => nomatch h

/-- The claim goes in, or finds the committed row in its way and locks it. -/
theorem inv_insertStep {k : Nat} {removed : Bool} (hphase : s.phase i = some (.cleared now removed))
    (h : sendStep key window s i (.cleared now removed) (.insert k) = some s') :
    Inv key window s' := by
  rw [sendStep] at h
  split at h
  · cases h
  · next hfree =>
    have hfree : s.inserting = none := by simpa using hfree
    split at h
    · next hnone =>
      cases h
      exact inv_insert hinv hphase hfree (.inl hnone)
    · next held hheld =>
      split at h
      · next hremoved =>
        cases h
        exact inv_insert hinv hphase hfree (.inr hremoved)
      · split at h
        · cases h
        · next hlock =>
          cases h
          have hi := not_sender hinv hphase (by simp)
          have hlock : s.lock = none := by simpa using hlock
          obtain ⟨latest, hlatest, -⟩ := (hinv.held held hheld).latest
          refine inv_of_keeps (i := i) hinv (fun j _ => ⟨rfl, rfl, fun hj => ?_, id⟩) rfl rfl rfl
            ⟨rfl, mem_map_of_mem hlatest⟩ (fun h => absurd h hi) hinv.refused
          rw [hlock] at hj
          cases hj

theorem sendStep_inv {a : Action} (hphase : s.phase i = some p)
    (h : sendStep key window s i p a = some s') : Inv key window s' := by
  have hp := hinv.phases i p hphase
  cases a with
  | begin k now => cases p <;> cases h
  | deleteBegin k =>
    cases p with
    | begun now =>
      cases h
      refine inv_of_phase hinv hphase (by simp) fun owner htarget => ?_
      obtain ⟨held, hheld, rfl⟩ := map_eq_some_iff.mp htarget
      obtain ⟨hheld, hlapsed⟩ := filter_eq_some_iff.mp hheld
      obtain ⟨latest, hlatest, -⟩ := (hinv.held held hheld).latest
      refine ⟨mem_map_of_mem hlatest, fun other hother _ => ?_⟩
      obtain rfl := some.inj (hheld.symm.trans hother)
      exact of_decide_eq_true hlapsed
    | _ => cases h
  | deleteEnd k =>
    cases p with
    | deleting now target =>
      exact inv_deleteEnd hinv hphase h
    | _ => cases h
  | insert k =>
    cases p with
    | cleared now removed =>
      exact inv_insertStep hinv hphase h
    | _ => cases h
  | stamp k sqlId =>
    cases p with
    | claimed now removed row =>
      cases h
      obtain ⟨hclaims, rfl⟩ := hp
      exact inv_of_phase hinv hphase (by simp) ⟨hclaims, sqlId, rfl⟩
    | _ => cases h
  | commit k ack =>
    cases p with
    | stamped now removed row =>
      cases ack with
      | ok =>
        cases h
        exact inv_commit hinv hphase (.inr rfl)
      | lost error =>
        cases h
        exact inv_commit hinv hphase (.inl rfl)
      | refused error =>
        cases h
        exact inv_unlock hinv (.inl rfl)
    | _ => cases h
  | refuse k =>
    cases p with
    | suppressed now owner =>
      cases h
      refine inv_of_keeps (i := i) hinv (fun j hj => ?_) rfl rfl rfl trivial (fun _ => .inr rfl)
        fun q hq => ?_
      · exact ⟨rfl, rfl, (keeps_unlock hj).lock, (keeps_unlock hj).inserting⟩
      rcases mem_append.mp hq with hq | hq
      · exact hinv.refused q hq
      · rw [mem_singleton.mp hq]
        exact hp.2
    | _ => cases h
  | fail k =>
    cases p with
    | begun | deleting | cleared =>
      cases h
      exact inv_unlock hinv (.inr rfl)
    | claimed | stamped =>
      cases h
      exact inv_unlock hinv (.inl rfl)
    | _ => cases h
  | release k =>
    cases p with
    | failed =>
      -- the row that is there has been stamped, and stays
      rw [sendStep, if_neg] at h
      · cases h
        exact inv_done hinv (.inr rfl)
      · cases hheld : s.held with
        | none => simp
        | some held =>
          have hstamped := (hinv.held held hheld).stamped
          rw [any_some, isNone_eq_false_iff.mpr hstamped]
          exact Bool.false_ne_true
    | _ => cases h
  | crash k =>
    cases p with
    | ended => cases h
    | _ =>
      cases h
      exact inv_unlock hinv (.inr rfl)

end

theorem step_inv (s : State) (a : Action) (s' : State) (hinv : Inv key window s)
    (h : step key window s a = some s') : Inv key window s' := by
  cases a with
  | begin i now =>
    rw [step] at h
    split at h
    · next hnone =>
      split at h
      · cases h
        refine inv_of_keeps (i := i) hinv (fun j _ => ⟨rfl, rfl, id, id⟩) rfl rfl rfl trivial
          (fun hi => ?_) hinv.refused
        rcases hinv.done i hi with h | h <;> rw [hnone] at h <;> cases h
      · cases h
    · cases h
  | _ =>
    obtain ⟨p, hphase, h⟩ := bind_eq_some_iff.mp h
    exact sendStep_inv hinv hphase h

theorem inv_run {as : List Action} (hrun : (sends key window).run init as = some s) :
    Inv key window s :=
  (sends key window).invariant_run step_inv init_inv hrun

/-! ## What follows -/

/-- Of instants that are a window apart, at most one falls inside any window. -/
theorem onePerWindow_of_apart (h : s.sent.Pairwise (Apart window)) : OnePerWindow window s := by
  intro start
  have hfiltered := h.filter fun p => decide (start ≤ p.2 ∧
    p.2 < start + normalizeWindowSeconds window * 1000)
  match hlist : s.sent.filter fun p => decide (start ≤ p.2 ∧
      p.2 < start + normalizeWindowSeconds window * 1000) with
  | [] => rw [hlist]; exact Nat.zero_le 1
  | [p] => rw [hlist]; exact Nat.le_refl 1
  | p :: q :: rest =>
    have hmem : ∀ x ∈ p :: q :: rest,
        start ≤ x.2 ∧ x.2 < start + normalizeWindowSeconds window * 1000 := by
      intro x hx
      rw [← hlist] at hx
      exact of_decide_eq_true (mem_filter.mp hx).2
    rw [hlist] at hfiltered
    have hapart : Apart window p q := rel_of_pairwise_cons hfiltered mem_cons_self
    have hp := (hmem p mem_cons_self).1
    have hq := (hmem q (mem_cons_of_mem _ mem_cons_self)).2
    rw [Apart] at hapart
    omega

/-- The counter is right as long as there is nothing to count. -/
theorem countExact_iff (hinv : Inv key window s) :
    CountExact s ↔ ∀ h, s.held = some h → s.refusalsOf h.owner = 0 := by
  constructor
  · intro hexact h hheld
    rw [← hexact h hheld, (hinv.held h hheld).counter]
  · intro hnone h hheld
    rw [hnone h hheld, (hinv.held h hheld).counter]

/-- **Duplicate control under concurrency.**  In every run, at most one of the sends that commit
falls inside any window, and a send is only refused because of one that committed; but the counter
of the key is the number of its refusals exactly as long as there are none. -/
theorem duplicate_control {as : List Action} (hrun : (sends key window).run init as = some s) :
    OnePerWindow window s ∧ RefusedBySent s ∧
      (CountExact s ↔ ∀ h, s.held = some h → s.refusalsOf h.owner = 0) :=
  have hinv := inv_run hrun
  ⟨onePerWindow_of_apart hinv.apart, hinv.refused, countExact_iff hinv⟩

end

/-- Send 0 claims the key and commits; send 1 of the same message begins a second later and is
refused. -/
def refusedRun : List Action :=
  [.begin 0 0, .deleteBegin 0, .deleteEnd 0, .insert 0, .stamp 0 "1", .commit 0 .ok,
    .begin 1 1000, .deleteBegin 1, .deleteEnd 1, .insert 1, .refuse 1]

/-- Two sends race for the key: the second waits, the first fails and releases, the second goes. -/
def racingRun : List Action :=
  [.begin 0 0, .begin 1 0, .deleteBegin 0, .deleteBegin 1, .deleteEnd 0, .insert 0, .deleteEnd 1,
    .fail 0, .insert 1, .release 0, .stamp 1 "1", .commit 1 .ok]

/-- What `duplicate_control` says of the race. -/
theorem duplicate_control_racingRun : ∃ s, (sends "k" 60).run init racingRun = some s ∧
    OnePerWindow 60 s ∧ RefusedBySent s ∧
      (CountExact s ↔ ∀ h, s.held = some h → s.refusalsOf h.owner = 0) :=
  ⟨_, rfl, duplicate_control (show (sends "k" 60).run init racingRun = _ from rfl)⟩

/-- After one refusal of a duplicate the counter of the key is still zero. -/
theorem refusal_is_not_counted :
    ¬ ∀ (key : String) (window : Int) (s : State) (as : List Action),
      0 < normalizeWindowSeconds window → (sends key window).run init as = some s →
      CountExact s := by
  intro hall
  have hcount := hall "k" 60 _ refusedRun (by decide) rfl ⟨⟨"k", some "1", 60000, 0⟩, 0⟩ rfl
  revert hcount
  decide

end Jkannel.Messaging.DedupeRace
