import Jkannel.Messaging.HoldRelease

/-!
# A held message is spooled at most once

Two releases may have claimed a hold, each under its own fence, and the fence is only looked at after
the engine has been written to, which no rollback takes back.  So a release is safe exactly as far
as it *has* the hold from that write on, which is the condition `Current`.

* `Inv` is what a run keeps whose steps meet it: a hold that is waiting has no row, and one that is
  being released has none unless the release that has it is between its write and its COMMIT.
* `Inv.setPhase`, `Inv.update` and the lemmas behind them are what the writes of a step do to it.
* `release_along` is the result, and `superseded_release_spools_twice` the run without it.
-/

namespace Jkannel.Messaging.HoldRelease

open Option
open Transition (Ack)
open Transition.System (along_cons)

/-! ## The invariant -/

/-- What a step of one hold keeps. -/
structure Inv (s : State) : Prop where
  once : s.spool.length ≤ 1
  /-- A hold that waits has not been sent. -/
  pending : s.hold.status = .pending → s.spool = []
  /-- A hold that is being released has not been sent, unless whoever has it is sending it. -/
  releasing : s.hold.status = .releasing → s.spool = [] ∨ s.Spooling
  /-- Fences come from the counter. -/
  fence_le : ∀ w worker f, s.workers w = some worker → worker.phase.fence = some f →
    f ≤ s.hold.releaseAttempts
  /-- No two releases have claimed the hold under one fence. -/
  distinct : ∀ w worker w' worker' f, s.workers w = some worker → s.workers w' = some worker' →
    worker.phase.fence = some f → worker'.phase.fence = some f → w = w'
  /-- A release that has written the hold has locked it. -/
  marked : ∀ w worker row updated, s.workers w = some worker →
    worker.phase = .marked row updated → s.lock = some w ∧ updated.status = .released ∧
      updated.releaseAttempts = s.hold.releaseAttempts

variable {s : State} {p : Phase} {ack : Ack} {sqlId decisionId : Nat}

theorem Inv.atMostOnce (h : Inv s) : AtMostOnce s where
  once := h.once
  unsent hrel hidle := by
    rcases h.releasing hrel with hnil | ⟨w, worker, hw, hsp⟩
    · exact hnil
    · have := hidle w worker hw
      cases hp : worker.phase with
      | inserted _ _ _ | marked _ _ => rw [hp] at this; cases this
      | _ => rw [hp] at hsp; cases hsp

theorem inv_init (id jobId : Nat) (scheduledAt : Int) (validity : Option Int) (clock : Int) :
    Inv (init id jobId scheduledAt validity clock) where
  once := Nat.zero_le 1
  pending _ := rfl
  releasing _ := .inl rfl
  fence_le w worker f hw := by cases hw
  distinct w worker w' worker' f hw := by cases hw
  marked w worker row updated hw := by cases hw

/-! ### Phases -/

theorem Phase.spooled_fence {f : Nat} (h : p.spooled = some f) : p.fence = some f := by
  cases p <;> first | exact h | cases h

/-- The releases of a state in which `w` has moved on: `w` itself, and the others as they were. -/
theorem setPhase_workers {w v : Nat} {worker other : Worker}
    (h : (s.setPhase w worker p).workers v = some other) :
    (v = w ∧ other = { worker with phase := p }) ∨ (v ≠ w ∧ s.workers v = some other) := by
  by_cases hv : v = w
  · subst hv
    exact .inl ⟨rfl, by simpa [State.setPhase, eq_comm] using h⟩
  · exact .inr ⟨hv, by simpa [State.setPhase, Function.update_of_ne hv] using h⟩

theorem setPhase_self (s : State) (w : Nat) (worker : Worker) (p : Phase) :
    (s.setPhase w worker p).workers w = some { worker with phase := p } := by
  simp [State.setPhase]

theorem setPhase_other {w v : Nat} {worker : Worker} (h : v ≠ w) :
    (s.setPhase w worker p).workers v = s.workers v := by
  simp [State.setPhase, Function.update_of_ne h]

section Writes

variable {w : Nat} {worker : Worker}

/-- A release that has the hold, and has not written to the engine, finds nothing there. -/
theorem Inv.spool_nil (h : Inv s) (hw : s.workers w = some worker) {f : Nat}
    (hf : worker.phase.fence = some f) (hsp : worker.phase.spooled = none)
    (hheld : s.hold.heldBy f) : s.spool = [] := by
  rcases h.releasing hheld.1 with hnil | ⟨v, other, hv, hother⟩
  · exact hnil
  · rw [hheld.2] at hother
    obtain rfl : v = w := h.distinct v other w worker f hv hw (Phase.spooled_fence hother) hf
    obtain rfl : other = worker := some.inj (hv.symm.trans hw)
    rw [hsp] at hother
    cases hother

variable {row updated : ScheduledMessageRow}
  {f : ScheduledMessageRow → Option ScheduledMessageRow} {row' : ScheduledMessageRow}

/-- A release that is not marking moves on, gives up nothing it had written to the engine for while
it has the hold, and takes no new fence. -/
theorem Inv.setPhase (h : Inv s) (hw : s.workers w = some worker)
    (hfence : ∀ f, p.fence = some f → worker.phase.fence = some f)
    (hsp : ∀ f, worker.phase.spooled = some f → s.hold.heldBy f → p.spooled = some f)
    (hmark : ∀ row updated, p ≠ .marked row updated) : Inv (s.setPhase w worker p) where
  __ := h
  releasing hrel := by
    rcases h.releasing hrel with hnil | ⟨v, other, hv, hother⟩
    · exact .inl hnil
    · refine .inr ?_
      by_cases hvw : v = w
      · subst hvw
        obtain rfl : other = worker := some.inj (hv.symm.trans hw)
        exact ⟨v, _, setPhase_self s v other p, hsp _ hother ⟨hrel, rfl⟩⟩
      · exact ⟨v, other, by rw [setPhase_other hvw]; exact hv, hother⟩
  fence_le v other f hv hf := by
    rcases setPhase_workers hv with ⟨rfl, rfl⟩ | ⟨-, hv'⟩
    · exact h.fence_le v worker f hw (hfence f hf)
    · exact h.fence_le v other f hv' hf
  distinct v other v' other' f hv hv' hf hf' := by
    rcases setPhase_workers hv with ⟨rfl, rfl⟩ | ⟨-, hv₀⟩ <;>
      rcases setPhase_workers hv' with ⟨rfl, rfl⟩ | ⟨-, hv₁⟩
    · rfl
    · exact h.distinct v worker v' other' f hw hv₁ (hfence f hf) hf'
    · exact h.distinct v other v' worker f hv₀ hw hf (hfence f hf')
    · exact h.distinct v other v' other' f hv₀ hv₁ hf hf'
  marked v other row updated hv hp := by
    rcases setPhase_workers hv with ⟨rfl, rfl⟩ | ⟨-, hv'⟩
    · exact absurd hp (hmark row updated)
    · exact h.marked v other row updated hv' hp

/-- With the row unlocked nobody has a write of it pending. -/
theorem Inv.not_marked (h : Inv s) (hlock : s.lock = none) {v : Nat} {other : Worker}
    (hv : s.workers v = some other) : other.phase ≠ .marked row updated := by
  intro hp
  have := (h.marked v other row updated hv hp).1
  rw [hlock] at this
  cases this

theorem update_cases (s : State) (f : ScheduledMessageRow → Option ScheduledMessageRow) :
    s.update f = s ∨ ∃ row', f s.hold = some row' ∧ s.update f = { s with hold := row' } := by
  rw [State.update]
  cases hf : f s.hold with
  | none => exact .inl rfl
  | some row' => exact .inr ⟨row', rfl, rfl⟩

theorem update_workers (s : State) (f : ScheduledMessageRow → Option ScheduledMessageRow) :
    (s.update f).workers = s.workers := by
  rcases update_cases s f with h | ⟨row', -, h⟩ <;> rw [h]

theorem transact_workers (s : State) (ack : Ack)
    (f : ScheduledMessageRow → Option ScheduledMessageRow) :
    (s.transact ack f).workers = s.workers := by
  rw [State.transact]
  split
  · exact update_workers s f
  · rfl

/-- A write that counts no attempt and does not leave the hold mid-release. -/
theorem Inv.update (h : Inv s) (hlock : s.lock = none)
    (hf : ∀ row', f s.hold = some row' → row'.releaseAttempts = s.hold.releaseAttempts ∧
      row'.status ≠ .releasing ∧ (row'.status = .pending → s.spool = [])) :
    Inv (s.update f) := by
  rcases update_cases s f with heq | ⟨row', hrow, heq⟩
  · rwa [heq]
  · obtain ⟨hattempts, hstatus, hpending⟩ := hf row' hrow
    rw [heq]
    exact
      { once := h.once
        pending := hpending
        releasing := fun hrel => absurd hrel hstatus
        fence_le := by
          show ∀ w worker f, s.workers w = some worker → _ → f ≤ row'.releaseAttempts
          rw [hattempts]
          exact h.fence_le
        distinct := h.distinct
        marked := fun v other row updated hv hp => absurd hp (h.not_marked hlock hv) }

theorem Inv.transact (h : Inv s) (hlock : s.lock = none)
    (hf : ∀ row', f s.hold = some row' → row'.releaseAttempts = s.hold.releaseAttempts ∧
      row'.status ≠ .releasing ∧ (row'.status = .pending → s.spool = [])) :
    Inv (s.transact ack f) := by
  rw [State.transact]
  split
  · exact h.update hlock hf
  · exact h

/-- A write that ends the hold. -/
theorem ends_of_status {spool : List Spooled}
    (hattempts : row'.releaseAttempts = row.releaseAttempts) (hended : row'.status.open_ = false) :
    row'.releaseAttempts = row.releaseAttempts ∧ row'.status ≠ .releasing ∧
      (row'.status = .pending → spool = []) :=
  ⟨hattempts, fun h => (by rw [h] at hended; cases hended),
    fun h => (by rw [h] at hended; cases hended)⟩

section

variable (h : Inv s)
include h

section

variable (hw : s.workers w = some worker)
include hw

/-- A claim, which takes the next fence.  Whoever knows of it holds it, and nobody else does. -/
theorem Inv.claim (hlock : s.lock = none) (hsafe : s.hold.status = .releasing → ¬ s.Spooling)
    {now : Int} {workerId : String} (hclaim : claimHold now workerId s.hold = some row')
    (hp : p = .claimed row' ∨ p = .ended) : Inv ({ s with hold := row' }.setPhase w worker p) := by
  obtain ⟨hwrite, hstatus, hattempts, -⟩ := claimHold_spec hclaim
  have hspool : s.spool = [] := by
    cases hs : s.hold.status with
    | pending => exact h.pending hs
    | releasing => exact (h.releasing hs).resolve_right (hsafe hs)
    | _ => have := hwrite.live; rw [hs] at this; cases this
  have hnew : ∀ f, p.fence = some f → f = s.hold.releaseAttempts + 1 := by
    intro f hf
    rcases hp with rfl | rfl
    · rw [← hattempts]
      exact (some.inj hf).symm
    · cases hf
  have hmark : ∀ row updated, p ≠ .marked row updated := by
    rcases hp with rfl | rfl <;> exact fun _ _ => nofun
  refine ⟨h.once, fun hpend => ?_, fun _ => .inl hspool, ?_, ?_, ?_⟩
  · exact absurd (hstatus.symm.trans hpend) nofun
  · intro v other f hv hf
    show f ≤ row'.releaseAttempts
    rcases setPhase_workers hv with ⟨rfl, rfl⟩ | ⟨-, hv'⟩
    · have := hnew f hf
      omega
    · have := h.fence_le v other f hv' hf
      omega
  · intro v other v' other' f hv hv' hf hf'
    rcases setPhase_workers hv with ⟨rfl, rfl⟩ | ⟨-, hv₀⟩ <;>
      rcases setPhase_workers hv' with ⟨rfl, rfl⟩ | ⟨-, hv₁⟩
    · rfl
    · have := hnew f hf
      have := h.fence_le v' other' f hv₁ hf'
      omega
    · have := hnew f hf'
      have := h.fence_le v other f hv₀ hf
      omega
    · exact h.distinct v other v' other' f hv₀ hv₁ hf hf'
  · intro v other row updated hv hpv
    rcases setPhase_workers hv with ⟨rfl, rfl⟩ | ⟨-, hv'⟩
    · exact absurd hpv (hmark row updated)
    · exact absurd hpv (h.not_marked hlock hv')

/-- A row in the spool that nobody had put there.  Whoever has the hold is the one that wrote it. -/
theorem Inv.insert (hphase : worker.phase = .sending row) {sqlId : Nat}
    (hfence : p.fence = some row.releaseAttempts) (hmark : ∀ row updated, p ≠ .marked row updated)
    (hsafe : (s.hold.heldBy row.releaseAttempts ∧ p.spooled = some row.releaseAttempts) ∨
      (s.hold.status.open_ = false ∧ s.spool = [])) :
    Inv ({ s with spool := s.spool ++ [Spooled.mk sqlId row.releaseAttempts] }.setPhase w worker p) := by
  have hfence' : worker.phase.fence = some row.releaseAttempts := by rw [hphase]; rfl
  have hnone : worker.phase.spooled = none := by rw [hphase]; rfl
  have hnil : s.spool = [] := by
    rcases hsafe with ⟨hheld, -⟩ | ⟨-, hnil⟩
    · exact h.spool_nil hw hfence' hnone hheld
    · exact hnil
  have hmoved : Inv (s.setPhase w worker p) := by
    refine h.setPhase hw (fun f hf => ?_) (fun f hf => ?_) hmark
    · rw [hfence', ← hfence, hf]
    · rw [hnone] at hf
      cases hf
  refine ⟨?_, fun hpend => ?_, fun hrel => ?_, hmoved.fence_le, hmoved.distinct, hmoved.marked⟩
  · show (s.spool ++ [_]).length ≤ 1
    rw [hnil]
    exact Nat.le_refl 1
  · rcases hsafe with ⟨hheld, -⟩ | ⟨hended, -⟩
    · exact absurd (hheld.1.symm.trans hpend) nofun
    · change s.hold.status = .pending at hpend
      rw [hpend] at hended
      cases hended
  · rcases hsafe with ⟨hheld, hsp⟩ | ⟨hended, -⟩
    · exact .inr ⟨w, _, setPhase_self _ w worker p, by rw [← hheld.2] at hsp; exact hsp⟩
    · change s.hold.status = .releasing at hrel
      rw [hrel] at hended
      cases hended

/-- The fenced write locks the hold. -/
theorem Inv.mark (hlock : s.lock = none) (hphase : worker.phase = .inserted row sqlId decisionId)
    (hwrite : FencedWrite row.releaseAttempts s.hold updated)
    (hstatus : updated.status = .released) :
    Inv { s.setPhase w worker (.marked row updated) with lock := some w } := by
  have hfence : worker.phase.fence = some row.releaseAttempts := by rw [hphase]; rfl
  have hkeep : ∀ f, (Phase.marked row updated).fence = some f → worker.phase.fence = some f := by
    intro f hf
    rw [hfence]
    exact hf
  refine ⟨h.once, h.pending, fun hrel => .inr ⟨w, _, setPhase_self s w worker _, ?_⟩, ?_, ?_, ?_⟩
  · show some row.releaseAttempts = some s.hold.releaseAttempts
    rw [hwrite.held.2]
  · intro v other f hv hf
    rcases setPhase_workers hv with ⟨rfl, rfl⟩ | ⟨-, hv'⟩
    · exact h.fence_le v worker f hw (hkeep f hf)
    · exact h.fence_le v other f hv' hf
  · intro v other v' other' f hv hv' hf hf'
    rcases setPhase_workers hv with ⟨rfl, rfl⟩ | ⟨-, hv₀⟩ <;>
      rcases setPhase_workers hv' with ⟨rfl, rfl⟩ | ⟨-, hv₁⟩
    · rfl
    · exact h.distinct v worker v' other' f hw hv₁ (hkeep f hf) hf'
    · exact h.distinct v other v' worker f hv₀ hw hf (hkeep f hf')
    · exact h.distinct v other v' other' f hv₀ hv₁ hf hf'
  · intro v other row' updated' hv hp
    rcases setPhase_workers hv with ⟨rfl, rfl⟩ | ⟨-, hv'⟩
    · obtain ⟨rfl, rfl⟩ := Phase.marked.inj hp
      exact ⟨rfl, hstatus, hwrite.fence⟩
    · exact absurd hp (h.not_marked hlock hv')

/-- The COMMIT of the release that has the row locked. -/
theorem Inv.commit (hphase : worker.phase = .marked row updated) :
    Inv { s.setPhase w worker .ended with hold := updated, lock := none } := by
  obtain ⟨hlock, hstatus, hattempts⟩ := h.marked w worker row updated hw hphase
  refine ⟨h.once, ?_, ?_, ?_, ?_, ?_⟩
  · exact fun hpend => absurd (hstatus.symm.trans hpend) nofun
  · exact fun hrel => absurd (hstatus.symm.trans hrel) nofun
  · intro v other f hv hf
    show f ≤ updated.releaseAttempts
    rw [hattempts]
    rcases setPhase_workers hv with ⟨rfl, rfl⟩ | ⟨-, hv'⟩
    · cases hf
    · exact h.fence_le v other f hv' hf
  · intro v other v' other' f hv hv' hf hf'
    rcases setPhase_workers hv with ⟨rfl, rfl⟩ | ⟨-, hv₀⟩
    · cases hf
    · rcases setPhase_workers hv' with ⟨rfl, rfl⟩ | ⟨-, hv₁⟩
      · cases hf'
      · exact h.distinct v other v' other' f hv₀ hv₁ hf hf'
  · intro v other row' updated' hv hp
    rcases setPhase_workers hv with ⟨rfl, rfl⟩ | ⟨hne, hv'⟩
    · cases hp
    · have := (h.marked v other row' updated' hv' hp).1
      rw [hlock] at this
      exact absurd (some.inj this).symm hne

end

/-- A release that dies takes its lock with it. -/
theorem Inv.unlock (hnot : ∀ row updated, worker.phase ≠ .marked row updated)
    (hw : s.workers w = some worker) :
    Inv { s with lock := if s.lock = some w then none else s.lock } := by
  refine ⟨h.once, h.pending, h.releasing, h.fence_le, h.distinct, ?_⟩
  intro v other row updated hv hp
  obtain ⟨hlock, hrest⟩ := h.marked v other row updated hv hp
  refine ⟨?_, hrest⟩
  by_cases hvw : v = w
  · subst hvw
    obtain rfl : other = worker := some.inj (hv.symm.trans hw)
    exact absurd hp (hnot row updated)
  · show (if s.lock = some w then none else s.lock) = some v
    rw [if_neg (by rw [hlock]; exact fun heq => hvw (some.inj heq)), hlock]

/-- A release that has only been called. -/
theorem Inv.start (hw : s.workers w = none) {context : ReleaseContext} :
    Inv { s with workers := Function.update s.workers w (some ⟨context, s.clock, .started⟩) } := by
  have hcases : ∀ v other, Function.update s.workers w (some ⟨context, s.clock, .started⟩) v =
      some other → other.phase = .started ∨ s.workers v = some other := by
    intro v other hv
    by_cases hvw : v = w
    · rw [hvw, Function.update_self] at hv
      rw [← some.inj hv]
      exact .inl rfl
    · rw [Function.update_of_ne hvw] at hv
      exact .inr hv
  refine ⟨h.once, h.pending, fun hrel => ?_, ?_, ?_, ?_⟩
  · refine (h.releasing hrel).imp_right fun ⟨v, other, hv, hsp⟩ => ⟨v, other, ?_, hsp⟩
    have hvw : v ≠ w := fun heq => by rw [heq, hw] at hv; cases hv
    show Function.update s.workers w _ v = some other
    rw [Function.update_of_ne hvw]
    exact hv
  · intro v other f hv hf
    rcases hcases v other hv with hp | hv'
    · rw [hp] at hf
      cases hf
    · exact h.fence_le v other f hv' hf
  · intro v other v' other' f hv hv' hf hf'
    rcases hcases v other hv with hp | hv₀
    · rw [hp] at hf
      cases hf
    · rcases hcases v' other' hv' with hp | hv₁
      · rw [hp] at hf'
        cases hf'
      · exact h.distinct v other v' other' f hv₀ hv₁ hf hf'
  · intro v other row updated hv hp
    rcases hcases v other hv with hp' | hv'
    · rw [hp'] at hp
      cases hp
    · exact h.marked v other row updated hv' hp

/-- A release that is over. -/
theorem Inv.ended (hw : s.workers w = some worker)
    (hsp : ∀ f, worker.phase.spooled = some f → ¬ s.hold.heldBy f) :
    Inv (s.setPhase w worker .ended) :=
  h.setPhase hw nofun (fun f hf hheld => absurd hheld (hsp f hf)) (fun _ _ => nofun)

/-- A release whose send has thrown. -/
theorem Inv.failing (hw : s.workers w = some worker) {error : ReleaseError}
    (hfence : worker.phase.fence = some row.releaseAttempts)
    (hsp : ∀ f, worker.phase.spooled = some f → ¬ s.hold.heldBy f) :
    Inv (s.setPhase w worker (.failing row error)) :=
  h.setPhase hw (fun f hf => by rw [hfence]; exact hf)
    (fun f hf hheld => absurd hheld (hsp f hf)) (fun _ _ => nofun)

end

end Writes

/-! ## Steps and runs -/

section Steps

variable {tuning : ReleaseTuning} {s' : State} {w : Nat} {worker : Worker}

section

variable (h : Inv s)
include h

theorem Inv.claimStep (hw : s.workers w = some worker) (hsafe : Current s (.claim w ack))
    (hs : workerStep tuning s w worker (.claim w ack) = some s') : Inv s' := by
  rw [workerStep] at hs
  split at hs
  next hphase hlock =>
    have hnone : ∀ f, worker.phase.spooled = some f → ¬ s.hold.heldBy f := by
      rw [hphase]
      exact fun f hf => by cases hf
    cases hs
    cases hclaim : claimHold s.clock worker.context.workerId s.hold with
    | none =>
      have hsame : s.transact ack (claimHold s.clock worker.context.workerId) = s := by
        simp [State.transact, State.update, hclaim]
      rw [hsame]
      cases ack <;> exact h.ended hw hnone
    | some row' =>
      have hsame : s.transact ack (claimHold s.clock worker.context.workerId) =
          if ack.committed then { s with hold := row' } else s := by
        simp [State.transact, State.update, hclaim]
      rw [hsame]
      cases ack with
      | ok => exact h.claim hw hlock hsafe hclaim (.inl rfl)
      | lost error => exact h.claim hw hlock hsafe hclaim (.inr rfl)
      | refused error => exact h.ended hw hnone
  · cases hs

theorem Inv.insertStep (hw : s.workers w = some worker)
    (hsafe : Current s (.insert w sqlId decisionId ack))
    (hs : workerStep tuning s w worker (.insert w sqlId decisionId ack) = some s') : Inv s' := by
  rw [workerStep] at hs
  split at hs
  next row hphase =>
    have hrow := hsafe worker row hw hphase
    cases hs
    cases ack with
    | ok => exact h.insert hw hphase rfl (fun _ _ => nofun) (hrow.imp_left fun hh => ⟨hh, rfl⟩)
    | lost error => exact h.insert hw hphase rfl (fun _ _ => nofun) (.inr hrow)
    | refused error =>
      refine h.failing hw (by rw [hphase]; rfl) ?_
      rw [hphase]
      exact fun f hf => by cases hf
  · cases hs

theorem Inv.markStep (hw : s.workers w = some worker)
    (hs : workerStep tuning s w worker (.mark w) = some s') : Inv s' := by
  rw [workerStep] at hs
  split at hs
  next row sqlId decisionId hphase hlock =>
    simp only at hs
    split at hs
    next updated hmark =>
      obtain ⟨hwrite, hstatus⟩ := markReleased_spec hmark
      cases hs
      exact h.mark hw hlock hphase hwrite hstatus
    next hmark =>
      cases hs
      refine h.failing hw (by rw [hphase]; rfl) ?_
      rw [hphase]
      intro f hf hheld
      obtain rfl : row.releaseAttempts = f := some.inj hf
      rw [markReleased, if_pos hheld] at hmark
      cases hmark
  · cases hs

theorem Inv.recordStep (hw : s.workers w = some worker)
    (hs : workerStep tuning s w worker (.record w ack) = some s') : Inv s' := by
  rw [workerStep] at hs
  split at hs
  next row error hphase hlock =>
    have hfence : worker.phase.fence = some row.releaseAttempts := by rw [hphase]; rfl
    have hnone : worker.phase.spooled = none := by rw [hphase]; rfl
    cases hs
    refine Inv.ended (h.transact hlock fun row' hrow => ?_) (by rw [transact_workers]; exact hw) ?_
    · obtain ⟨hwrite, hstatus⟩ := recordReleaseFailure_spec hrow
      refine ⟨hwrite.fence, ?_, fun _ => h.spool_nil hw hfence hnone hwrite.held⟩
      rw [hstatus]
      split <;> nofun
    · rw [hnone]
      exact fun f hf => by cases hf
  · cases hs

theorem Inv.workerStep (hw : s.workers w = some worker) {a : Action} (ha : a.worker = some w)
    (hsafe : Current s a) (hs : HoldRelease.workerStep tuning s w worker a = some s') : Inv s' := by
  cases a with
  | tick | start | sweep | cancel | reschedule => cases ha
  | claim v ack =>
    obtain rfl : v = w := some.inj ha
    exact h.claimStep hw hsafe hs
  | insert v sqlId decisionId ack =>
    obtain rfl : v = w := some.inj ha
    exact h.insertStep hw hsafe hs
  | mark v =>
    obtain rfl : v = w := some.inj ha
    exact h.markStep hw hs
  | record v ack =>
    obtain rfl : v = w := some.inj ha
    exact h.recordStep hw hs
  | expire v reason ack =>
    rw [HoldRelease.workerStep] at hs
    split at hs
    next row hphase hlock =>
      simp only at hs
      split at hs
      · cases hs
        refine Inv.ended (h.transact hlock fun row' hrow => ?_)
          (by rw [transact_workers]; exact hw) ?_
        · obtain ⟨hwrite, hstatus⟩ := expireHold_spec hrow
          exact ends_of_status hwrite.fence (by rw [hstatus]; rfl)
        · rw [hphase]
          exact fun f hf => by cases hf
      · cases hs
    · cases hs
  | begin_ v =>
    rw [HoldRelease.workerStep] at hs
    split at hs
    next row hphase =>
      split at hs
      · cases hs
      · cases hs
        refine h.setPhase hw (fun f hf => by rw [hphase]; exact hf) ?_ (fun _ _ => nofun)
        rw [hphase]
        exact fun f hf => by cases hf
    · cases hs
  | throwBefore v error =>
    rw [HoldRelease.workerStep] at hs
    split at hs
    next row hphase =>
      cases hs
      refine h.failing hw (by rw [hphase]; rfl) ?_
      rw [hphase]
      exact fun f hf => by cases hf
    · cases hs
  | throwAfter v error =>
    obtain rfl : v = w := some.inj ha
    rw [HoldRelease.workerStep] at hs
    split at hs
    next row sqlId decisionId hphase =>
      cases hs
      exact h.failing hw (by rw [hphase]; rfl) fun f hf => hsafe worker f hw hf
    · cases hs
  | commit v =>
    rw [HoldRelease.workerStep] at hs
    split at hs
    next row updated hphase =>
      cases hs
      exact h.commit hw hphase
    · cases hs
  | crash v =>
    obtain rfl : v = w := some.inj ha
    cases hs
    have hended := h.ended hw fun f hf => hsafe worker f hw hf
    exact hended.unlock (fun _ _ hp => by cases hp) (setPhase_self s v worker .ended)

theorem Inv.step {a : Action} (hsafe : Current s a)
    (hs : HoldRelease.step tuning s a = some s') : Inv s' := by
  cases a with
  | tick ms =>
    cases hs
    exact ⟨h.once, h.pending, h.releasing, h.fence_le, h.distinct, h.marked⟩
  | start w context =>
    rw [HoldRelease.step] at hs
    split at hs
    next hw =>
      cases hs
      exact h.start hw
    · cases hs
  | sweep =>
    rw [HoldRelease.step] at hs
    split at hs
    next hlock =>
      cases hs
      refine h.update hlock fun row' hrow => ?_
      obtain ⟨-, -, hstatus, hattempts⟩ := sweepStalled_spec hrow
      exact ends_of_status hattempts (by rw [hstatus]; rfl)
    · cases hs
  | cancel reason =>
    rw [HoldRelease.step] at hs
    split at hs
    next hlock =>
      cases hs
      refine h.update hlock fun row' hrow => ?_
      obtain ⟨-, -, hstatus, hattempts⟩ := cancelHold_spec hrow
      exact ends_of_status hattempts (by rw [hstatus]; rfl)
    · cases hs
  | reschedule epochSeconds queued =>
    rw [HoldRelease.step] at hs
    split at hs
    next schedule hlock hparse =>
      split at hs
      next when_ hwhen =>
        split at hs
        · cases hs
          refine h.update hlock fun row' hrow => ?_
          obtain ⟨-, hpending, hstatus, hattempts⟩ := rescheduleHold_spec hrow
          exact ⟨hattempts, by rw [hstatus]; nofun, fun _ => h.pending hpending⟩
        · cases hs
      · cases hs
    · cases hs
  | _ =>
    obtain ⟨worker, hw, hstep⟩ := bind_eq_some_iff.mp hs
    exact h.workerStep hw rfl hsafe hstep

end

/-- **A held message is spooled at most once**, in every run whose steps are `Current`. -/
theorem release_along {id jobId : Nat} {scheduledAt clock : Int} {validityMinutes : Option Int}
    {as : List Action}
    (hP : (release tuning).Along Current (init id jobId scheduledAt validityMinutes clock) as)
    (hrun : (release tuning).run (init id jobId scheduledAt validityMinutes clock) as = some s) :
    AtMostOnce s :=
  Inv.atMostOnce ((release tuning).invariant_along (I := Inv)
    (fun _ _ _ hi hc hs => hi.step hc hs) (inv_init _ _ _ _ _) hP hrun)

end Steps

/-! ## Two runs -/

/-- Ten minutes for a claim, two hours of lateness. -/
def defaultTuning : ReleaseTuning := ⟨600000, 7200000⟩

/-- A message due now. -/
def dueNow : State := init 1 1 0 none 0

/-- The job's context of an attempt. -/
def attemptContext (attempt : Nat) : ReleaseContext := ⟨"job:1", attempt, 4⟩

/-- A worker dies before its send, and the next one sends. -/
def crashThenSend : List Action :=
  [.start 0 (attemptContext 1), .claim 0 .ok, .begin_ 0, .crash 0,
    .start 1 (attemptContext 2), .claim 1 .ok, .begin_ 1, .insert 1 10 7 .ok, .mark 1, .commit 1]

theorem crashThenSend_current : (release defaultTuning).Along Current dueNow crashThenSend := by
  refine along_cons _ rfl trivial ?_
  refine along_cons _ rfl (fun h => by cases h) ?_
  refine along_cons _ rfl trivial ?_
  refine along_cons _ rfl (fun worker f hw hsp => by cases hw; cases hsp) ?_
  refine along_cons _ rfl trivial ?_
  refine along_cons _ rfl ?_ ?_
  · -- the dead worker spools nothing any more
    rintro - ⟨w, worker, hw, hsp⟩
    match w, hw with
    | 0, hw => cases hw; cases hsp
    | 1, hw => cases hw; cases hsp
  refine along_cons _ rfl trivial ?_
  refine along_cons _ rfl
    (fun worker row hw hp => by cases hw; cases hp; exact .inl ⟨rfl, rfl⟩) ?_
  refine along_cons _ rfl trivial ?_
  exact along_cons _ rfl trivial trivial

theorem release_along_crashThenSend :
    ∃ s, (release defaultTuning).run dueNow crashThenSend = some s ∧ AtMostOnce s :=
  ⟨_, rfl, release_along crashThenSend_current rfl⟩

/-- Two workers claim the hold, and the one that claimed it first goes on to send. -/
def supersededSend : List Action :=
  [.start 0 (attemptContext 1), .claim 0 .ok, .start 1 (attemptContext 2), .claim 1 .ok,
    .begin_ 0, .insert 0 10 7 .ok, .mark 0, .record 0 .ok]

/-- The other one sends as well. -/
def thenTheOther : List Action := [.begin_ 1, .insert 1 11 8 .ok, .mark 1, .commit 1]

/-- **The fence is looked at too late.**  The first send finds its fence gone and rolls back, but its
row stays in the spool of a hold that is still to be released; the second send adds another. -/
theorem superseded_release_spools_twice :
    (∃ s, (release defaultTuning).run dueNow supersededSend = some s ∧
      s.hold.status = .releasing ∧
      (∀ w worker, s.workers w = some worker → worker.phase.inTransaction = false) ∧
      s.spool.length = 1) ∧
    ∃ s, (release defaultTuning).run dueNow (supersededSend ++ thenTheOther) = some s ∧
      s.hold.status = .released ∧ s.spool.length = 2 := by
  refine ⟨⟨_, rfl, rfl, ?_, rfl⟩, _, rfl, rfl, rfl⟩
  intro w worker hw
  match w, hw with
  | 0, hw => cases hw; rfl
  | 1, hw => cases hw; rfl

end Jkannel.Messaging.HoldRelease

