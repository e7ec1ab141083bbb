import Jkannel.Lib.Transition
import Mathlib.Data.List.Sort

/-!
# Recent passwords

A password that a user resets to may not be the one in force nor one of the latest before it.

* `enforcePasswordHistory` looks at the hash in force and at the latest of `password_history`, and
  archives the one in force, before it is replaced.
* `Orderly` are the steps after which the table holds what was in force (`Archived`), and
  `recent_never_returns` is the promise, for runs of these.
* `old_password_returns` is the rest: what an administrator replaces is archived by no one.
-/

namespace Jkannel.Security.PasswordHistory

open Transition

variable {P H S : Type}

/-- The password service: what was hashed is recognised. -/
structure Passwords (P H S : Type) where
  hash : P → S → H
  verify : P → H → Bool
  verify_hash : ∀ password salt, verify password (hash password salt) = true

/-- A row of `password_history`. -/
structure HistoryRow (H : Type) where
  passwordHash : H
  createdAt : Int

/-- What is kept of a user, with what is not. -/
structure Account (P H : Type) where
  /-- Of the row of `users`, from the time there is one. -/
  passwordHash : Option H
  /-- The latest first. -/
  history : List (HistoryRow H)
  /-- The passwords that were in force, the latest first. -/
  inForce : List P
  /-- The passwords that a reset accepted, each with those that it must not have been. -/
  accepted : List (P × List P)

/-- How far a call gets before it fails. -/
inductive Reached where
  | nothing | archived | applied
  deriving DecidableEq

/-- The ways a password changes. -/
inductive Action (P S : Type) where
  | acceptInvitation (password : P) (salt : S) (reached : Reached)
  | updateUser (password : P) (salt : S) (reached : Reached)
  | confirmPasswordReset (newPassword : P) (salt : S) (passwordHistoryDepth : Nat) (now : Int)
      (reached : Reached)

/-- `ORDER BY created_at DESC LIMIT $3`. -/
def recentPasswordHashes (history : List (HistoryRow H)) (limit : Nat) : List H :=
  ((history.insertionSort fun a b => b.createdAt ≤ a.createdAt).map HistoryRow.passwordHash).take
    limit

variable (passwords : Passwords P H S)

/-- The rows with the outgoing hash, unless the new password is one of the latest. -/
def enforcePasswordHistory (current : H) (rows : List (HistoryRow H)) (newPassword : P)
    (depth : Nat) (now : Int) : Option (List (HistoryRow H)) :=
  let history := if 0 < depth then recentPasswordHashes rows depth else []
  if (current :: history).any (passwords.verify newPassword) then none
  else some (⟨current, now⟩ :: rows)

def applyNewPassword (s : Account P H) (password : P) (salt : S) : Account P H :=
  { s with
    passwordHash := some (passwords.hash password salt)
    inForce := password :: s.inForce }

/-- One change of the password. -/
def step (s : Account P H) : Action P S → Account P H
  | .acceptInvitation password salt reached =>
    -- a username that is taken is a conflict
    if s.passwordHash.isNone ∧ reached = .applied then applyNewPassword passwords s password salt
    else s
  | .updateUser password salt reached =>
    if s.passwordHash.isSome ∧ reached = .applied then applyNewPassword passwords s password salt
    else s
  | .confirmPasswordReset newPassword salt depth now reached =>
    match s.passwordHash with
    | none => s
    | some current =>
      match enforcePasswordHistory passwords current s.history newPassword depth now with
      | none => s
      | some history =>
        match reached with
        | .nothing => s
        | .archived => { s with history := history }
        | .applied =>
          { applyNewPassword passwords s newPassword salt with
            history := history
            accepted := (newPassword, s.inForce.take (depth + 1)) :: s.accepted }

def system : System (Account P H) (Action P S) := ⟨fun s a => some (step passwords s a)⟩

/-- Before there is a user. -/
def unknown : Account P H := ⟨none, [], [], []⟩

/-! ## What is archived -/

/-- A step that replaces no password without archiving it, and archives none that it does not
replace, at a time after all that is archived. -/
def Orderly (s : Account P H) : Action P S → Prop
  | .acceptInvitation .. => True
  | .updateUser _ _ reached => reached ≠ .applied
  | .confirmPasswordReset _ _ _ now reached =>
    reached ≠ .archived ∧ ∀ row ∈ s.history, row.createdAt < now

/-- The hashes are those of the passwords that were in force, in their order, and nothing that was
accepted is among what it must not be. -/
structure Archived (s : Account P H) : Prop where
  hashes : List.Forall₂ (fun h p => passwords.verify p h = true)
    (s.passwordHash.toList ++ s.history.map HistoryRow.passwordHash) s.inForce
  user : s.passwordHash = none → s.history = []
  sorted : s.history.Pairwise fun a b => b.createdAt ≤ a.createdAt
  fresh : ∀ a ∈ s.accepted, a.1 ∉ a.2

variable {passwords} {s : Account P H}

theorem exists_of_mem {R : H → P → Prop} {hs : List H} {ps : List P} (h : List.Forall₂ R hs ps)
    {p : P} (hp : p ∈ ps) : ∃ x ∈ hs, R x p := by
  induction h with
  | nil => cases hp
  | cons hR _ ih =>
    rcases List.mem_cons.mp hp with rfl | hp
    · exact ⟨_, List.mem_cons_self, hR⟩
    · obtain ⟨x, hx, hR⟩ := ih hp
      exact ⟨x, List.mem_cons_of_mem _ hx, hR⟩

theorem enforcePasswordHistory_eq_some_iff {current : H} {rows : List (HistoryRow H)}
    (hsorted : rows.Pairwise fun a b => b.createdAt ≤ a.createdAt) {newPassword : P} {depth : Nat}
    {now : Int} {history : List (HistoryRow H)} :
    enforcePasswordHistory passwords current rows newPassword depth now = some history ↔
      (∀ h ∈ (current :: rows.map HistoryRow.passwordHash).take (depth + 1),
        passwords.verify newPassword h = false) ∧ history = ⟨current, now⟩ :: rows := by
  have htake : (if 0 < depth then recentPasswordHashes rows depth else []) =
      (rows.map HistoryRow.passwordHash).take depth := by
    split
    · rw [recentPasswordHashes, hsorted.insertionSort_eq]
    · next hdepth => rw [Nat.eq_zero_of_not_pos hdepth, List.take_zero]
  rw [enforcePasswordHistory, htake, ← List.take_succ_cons]
  split
  · next hany =>
    obtain ⟨h, hmem, hverify⟩ := List.any_eq_true.mp hany
    refine iff_of_false (fun hnone => by cases hnone) fun hall => ?_
    exact Bool.false_ne_true ((hall.1 h hmem).symm.trans hverify)
  · next hany =>
    have hnone := List.any_eq_false.mp (Bool.eq_false_of_not_eq_true hany)
    exact ⟨fun heq => ⟨fun h hmem => Bool.eq_false_of_not_eq_true (hnone h hmem),
      (Option.some.inj heq).symm⟩, fun heq => congrArg some heq.2.symm⟩

theorem archived_step {s' : Account P H} {a : Action P S} (h : Archived passwords s)
    (horderly : Orderly s a) (hstep : (system passwords).step s a = some s') :
    Archived passwords s' := by
  cases hstep
  cases a with
  | acceptInvitation password salt reached =>
    simp only [step]
    split
    · next hnew =>
      have hnone := Option.isNone_iff_eq_none.mp hnew.1
      have hinForce := h.hashes
      rw [hnone, h.user hnone] at hinForce
      refine ⟨?_, (fun hsome => by cases hsome), h.sorted, h.fresh⟩
      rw [applyNewPassword, h.user hnone, List.forall₂_nil_left_iff.mp hinForce]
      exact .cons (passwords.verify_hash _ _) .nil
    · exact h
  | updateUser password salt reached =>
    rw [step, if_neg fun happlied => horderly happlied.2]
    exact h
  | confirmPasswordReset newPassword salt depth now reached =>
    simp only [step]
    split
    · exact h
    · next current hcurrent =>
      split
      · exact h
      · next history henforce =>
        obtain ⟨hverify, rfl⟩ := (enforcePasswordHistory_eq_some_iff h.sorted).mp henforce
        have hashes := h.hashes
        rw [hcurrent] at hashes
        cases reached with
        | nothing => exact h
        | archived => exact absurd rfl horderly.1
        | applied =>
          refine ⟨.cons (passwords.verify_hash _ _) hashes, (fun hsome => by cases hsome),
            List.pairwise_cons.mpr ⟨fun row hrow => (horderly.2 row hrow).le, h.sorted⟩,
            List.forall_mem_cons.mpr ⟨fun hmem => ?_, h.fresh⟩⟩
          obtain ⟨x, hx, hknown⟩ := exists_of_mem (List.forall₂_take _ hashes) hmem
          exact Bool.false_ne_true ((hverify x hx).symm.trans hknown)

/-- **No recent password comes back**: in a run in which no password is replaced without being
archived, and none archived without being replaced, every password that a reset accepts differs from
the one in force and from as many of the latest before it as the policy says. -/
theorem recent_never_returns {w : List (Action P S)} {s : Account P H}
    (h : (system passwords).Along Orderly unknown w)
    (hrun : (system passwords).run unknown w = some s) : ∀ a ∈ s.accepted, a.1 ∉ a.2 :=
  ((system passwords).invariant_along (fun _ _ _ hi hP hs => archived_step hi hP hs)
    ⟨.nil, fun _ => rfl, .nil, fun a ha => by cases ha⟩ h hrun).fresh

/-! ## Runs of one user -/

def plain : Passwords Nat Nat Unit where
  hash := fun password _ => password
  verify := fun password h => password = h
  verify_hash := fun _ _ => decide_eq_true rfl

/-- Accepted with `1`, and reset to `2` and to `3`, with `1` refused in between. -/
def resets : List (Action Nat Unit) :=
  [.acceptInvitation 1 () .applied, .confirmPasswordReset 2 () 5 10 .applied,
    .confirmPasswordReset 1 () 5 20 .applied, .confirmPasswordReset 3 () 5 30 .applied]

theorem resets_orderly : (system plain).Along Orderly unknown resets :=
  System.along_cons _ rfl trivial
    (System.along_cons _ rfl ⟨by decide, fun _ hrow => by cases hrow⟩
      (System.along_cons _ rfl ⟨by decide, by decide⟩
        (System.along_cons _ rfl ⟨by decide, by decide⟩ trivial)))

theorem resets_accepted : ∃ s, (system plain).run unknown resets = some s ∧
    s.accepted = [(3, [2, 1]), (2, [1])] ∧ ∀ a ∈ s.accepted, a.1 ∉ a.2 :=
  ⟨_, rfl, rfl, recent_never_returns resets_orderly rfl⟩

/-- What an administrator replaces comes back, and so does what a reset that failed has pushed
out of the rows that are read. -/
theorem old_password_returns :
    (∃ s, (system plain).run unknown [.acceptInvitation 1 () .applied, .updateUser 2 () .applied,
        .confirmPasswordReset 1 () 5 10 .applied] = some s ∧ ∃ a ∈ s.accepted, a.1 ∈ a.2) ∧
      ∃ s, (system plain).run unknown [.acceptInvitation 1 () .applied,
        .confirmPasswordReset 2 () 1 10 .applied, .confirmPasswordReset 3 () 1 20 .archived,
        .confirmPasswordReset 1 () 1 30 .applied] = some s ∧ ∃ a ∈ s.accepted, a.1 ∈ a.2 :=
  ⟨⟨_, rfl, by decide⟩, ⟨_, rfl, by decide⟩⟩

end Jkannel.Security.PasswordHistory
