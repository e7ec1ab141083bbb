import Jkannel.Lib.Updates
import Jkannel.Platform.Jobs

/-!
# Workers and their jobs

What a worker that has claimed a job may rely on, whatever the job does: the job is out of the queue
until the worker lets go of it, and nobody else is on it.  It holds as long as a job is only taken
from a worker that is gone.

* `Grip` says how a worker is on a job, and `Holds` is what it may rely on.
* `Holds.claim`, `Holds.move`, `Holds.drop` and `Holds.frame` are the ways a step can keep it: a
  worker claims a job, does something with its own, lets go of it, or something happens to a job
  nobody is on.
* `onOf` reads the jobs the workers are on off their executions, and `Holds.hand` and
  `Holds.updateJob` are those ways for executions.
* `updateJob` is a statement aimed at one row of the table, and `StaysLive` what it must not undo.
-/

namespace Jkannel.Platform

open Function (update update_self update_of_ne)

/-- How a worker is on a job. -/
inductive Grip where
  /-- It runs the job, and nothing has been written back. -/
  | running
  /-- The run is over in failure; the job may have been completed all the same. -/
  | late
  deriving DecidableEq

/-- A job that can still run. -/
def JobRow.live (row : JobRow) : Bool := row.status = .queued || row.status = .running

/-- A new job is queued, and has all its attempts. -/
theorem insert_spec (id : Nat) {maxAttempts : Nat} (type : String) (runAt : Option Int) (now : Int)
    (h : AttemptsCheck 0 maxAttempts) : ∃ row, insert id type maxAttempts runAt now = some row ∧
      row.status = .queued ∧ row.attempts = 0 ∧ row.maxAttempts = maxAttempts := by
  rw [insert, dif_pos h]
  exact ⟨_, rfl, rfl, rfl, rfl⟩

/-- `UPDATE api_jobs … WHERE id = …`. -/
def updateJob (job : Nat → Option JobRow) (n : Nat) (statement : JobRow → Option JobRow) :
    Nat → Option JobRow :=
  match (job n).bind statement with
  | some row => update job n (some row)
  | none => job

variable {n m : Nat} {row : JobRow} {row' : JobRow} {f : JobRow → Option JobRow}
  {job : Nat → Option JobRow} {staleAfterMs now : Int}

theorem updateJob_of_ne (job : Nat → Option JobRow) (f : JobRow → Option JobRow) (hm : m ≠ n) :
    updateJob job n f m = job m := by
  rw [updateJob]
  cases (job n).bind f with
  | some row => exact update_of_ne hm ..
  | none => rfl

theorem updateJob_self (f : JobRow → Option JobRow)
    (hrow : job n = some row) : updateJob job n f n = some ((f row).getD row) := by
  rw [updateJob, hrow, Option.bind_some]
  cases hf : f row with
  | some row' => rw [Option.getD_some]; exact update_self ..
  | none => exact hrow

/-- No row comes into being, and none is deleted. -/
theorem updateJob_eq_none (job : Nat → Option JobRow) (n : Nat) (f : JobRow → Option JobRow)
    (m : Nat) : updateJob job n f m = none ↔ job m = none := by
  by_cases hm : m = n
  · subst hm
    cases hrow : job m with
    | some row => rw [updateJob_self f hrow]; simp
    | none => simp [updateJob, hrow]
  · rw [updateJob_of_ne job f hm]

/-- What the workers may rely on: `job` is the table, and `on w` the job worker `w` is on. -/
structure Holds (job : Nat → Option JobRow) (on : Nat → Option (Nat × Grip)) : Prop where
  /-- The job is out of the queue, and running until something has been written back. -/
  held : ∀ w n g, on w = some (n, g) → ∃ row, job n = some row ∧ row.status ≠ .queued ∧
    (g = .running → row.status = .running)
  /-- Nobody else is on it. -/
  alone : ∀ w v n g g', on w = some (n, g) → on v = some (n, g') → w = v

section Holds

variable {job' : Nat → Option JobRow} {on on' : Nat → Option (Nat × Grip)}

theorem Holds.empty : Holds (fun _ => none) (fun _ => none) where
  held := fun _ _ _ h => by cases h
  alone := fun _ _ _ _ _ h => by cases h

section

variable (h : Holds job on)
include h

/-- Nobody is on a job in the queue. -/
theorem Holds.nobody {row : JobRow} (hrow : job n = some row)
    (hqueued : row.status = .queued) (w : Nat) (g : Grip) : on w ≠ some (n, g) := by
  intro hw
  obtain ⟨row', hrow', hq, -⟩ := h.held w n g hw
  obtain rfl := Option.some.inj (hrow'.symm.trans hrow)
  exact hq hqueued

/-- Nor on a job that is not there. -/
theorem Holds.nobody_of_none (hrow : job n = none) (w : Nat) (g : Grip) : on w ≠ some (n, g) := by
  intro hw
  obtain ⟨row', hrow', -⟩ := h.held w n g hw
  rw [hrow] at hrow'
  cases hrow'

/-- Something happens to jobs nobody is on. -/
theorem Holds.frame (hjob : ∀ w n g, on w = some (n, g) → job' n = job n) :
    Holds job' on where
  held := fun w n g hw => by
    rw [hjob w n g hw]
    exact h.held w n g hw
  alone := h.alone

/-- Workers let go of their jobs. -/
theorem Holds.drop (hon : ∀ w n g, on' w = some (n, g) → on w = some (n, g)) :
    Holds job on' where
  held := fun w n g hw => h.held w n g (hon w n g hw)
  alone := fun w v n g g' hw hv => h.alone w v n g g' (hon w n g hw) (hon v n g' hv)

/-- The status of a job stays as it is. -/
theorem Holds.status (hjob : ∀ n row, job n = some row → ∃ row', job' n =
    some row' ∧ row'.status = row.status) : Holds job' on where
  held := by
    intro w n g hw
    obtain ⟨row, hrow, hq, hrun⟩ := h.held w n g hw
    obtain ⟨row', hrow', hstatus⟩ := hjob n row hrow
    exact ⟨row', hrow', by rw [hstatus]; exact hq, fun hg => hstatus.trans (hrun hg)⟩
  alone := h.alone

/-- **A worker does something** to a job no other worker is on, and is on no other job
afterwards. -/
theorem Holds.move {w n : Nat} (hothers : ∀ v, v ≠ w → on' v = on v)
    (hfree : ∀ v g, v ≠ w → on v ≠ some (n, g)) (hjob : ∀ m, m ≠ n → job' m = job m)
    (hself : ∀ m g, on' w = some (m, g) → m = n ∧ ∃ row, job' n = some row ∧
      row.status ≠ .queued ∧ (g = .running → row.status = .running)) : Holds job' on' where
  held := by
    intro v m g hv
    by_cases hvw : v = w
    · subst hvw
      obtain ⟨rfl, hrow⟩ := hself m g hv
      exact hrow
    · rw [hothers v hvw] at hv
      have hm : m ≠ n := by
        rintro rfl
        exact hfree v g hvw hv
      rw [hjob m hm]
      exact h.held v m g hv
  alone := by
    intro v u m g g' hv hu
    by_cases hvw : v = w <;> by_cases huw : u = w
    · rw [hvw, huw]
    · subst hvw
      rw [hothers u huw] at hu
      obtain ⟨rfl, -⟩ := hself m g hv
      exact absurd hu (hfree u g' huw)
    · subst huw
      rw [hothers v hvw] at hv
      obtain ⟨rfl, -⟩ := hself m g' hu
      exact absurd hv (hfree v g hvw)
    · rw [hothers v hvw] at hv
      rw [hothers u huw] at hu
      exact h.alone v u m g g' hv hu

/-- A worker claims a job from the queue. -/
theorem Holds.claim {w n : Nat} (hrow : job n = some row)
    (hqueued : row.status = .queued) (hrunning : row'.status = .running) :
    Holds (update job n (some row'))
      (update on w (some (n, .running))) := by
  refine h.move (fun v hv => update_of_ne hv ..)
    (fun v g _ => h.nobody hrow hqueued v g) (fun m hm => update_of_ne hm ..) ?_
  intro m g hm
  rw [update_self] at hm
  obtain ⟨rfl, rfl⟩ := Prod.mk.inj (Option.some.inj hm)
  exact ⟨rfl, row', update_self .., by rw [hrunning]; simp, fun _ => hrunning⟩

/-- A statement keeps the status of the job it is aimed at, or finds nobody on it. -/
theorem Holds.updateJob
    (hf : ∀ row row', job n = some row → f row = some row' →
      row'.status = row.status ∨ ∀ w g, on w ≠ some (n, g)) :
    Holds (Platform.updateJob job n f) on := by
  by_cases hfree : ∀ w g, on w ≠ some (n, g)
  · refine h.frame fun w m g hw => updateJob_of_ne job f ?_
    rintro rfl
    exact hfree w g hw
  · refine h.status fun m row hrow => ?_
    by_cases hm : m = n
    · subst hm
      refine ⟨_, updateJob_self f hrow, ?_⟩
      cases hrow' : f row with
      | some row' =>
        rcases hf row row' hrow hrow' with hstatus | hnobody
        · exact hstatus
        · exact absurd hnobody hfree
      | none => rfl
    · exact ⟨row, by rw [updateJob_of_ne job f hm]; exact hrow, rfl⟩

end

end Holds

/-! ## Executions -/

/-- The job each worker is on, by what it does with its execution. -/
def onOf {X : Type} (grip : X → Option (Nat × Grip)) (execution : Nat → Option X) (w : Nat) :
    Option (Nat × Grip) :=
  (execution w).bind grip

section Executions

variable {X : Type} {grip : X → Option (Nat × Grip)} {execution : Nat → Option X}
  {job' : Nat → Option JobRow}

variable {w : Nat}

theorem onOf_eq {g : Grip} :
    onOf grip execution w = some (n, g) ↔ ∃ x, execution w = some x ∧ grip x = some (n, g) := by
  rw [onOf, Option.bind_eq_some_iff]

section

variable (h : Holds job (onOf grip execution))
include h

/-- An execution that is on a job changes, and with it perhaps the job. -/
theorem Holds.hand {g : Grip} {x x' : X}
    (hx : execution w = some x) (hgrip : grip x = some (n, g)) (hjob : ∀ m, m ≠ n → job' m = job m)
    (hself : ∀ m g', grip x' = some (m, g') → m = n ∧ ∃ row, job' n = some row ∧
      row.status ≠ .queued ∧ (g' = .running → row.status = .running)) :
    Holds job' (onOf grip (update execution w (some x'))) := by
  have hw : onOf grip execution w = some (n, g) := onOf_eq.mpr ⟨x, hx, hgrip⟩
  refine h.move (w := w) (n := n) (fun v hv => ?_) (fun v g' hv hon => ?_) hjob fun m g' hm => ?_
  · rw [onOf, update_of_ne hv]
    rfl
  · exact hv (h.alone v w _ _ _ hon hw)
  · obtain ⟨y, hy, hg'⟩ := onOf_eq.mp hm
    rw [update_self] at hy
    cases hy
    exact hself m g' hg'

/-- An execution lets go of its job. -/
theorem Holds.letGo (x' : X) (hgrip : grip x' = none) :
    Holds job (onOf grip (update execution w (some x'))) := by
  refine h.drop fun v n g hv => ?_
  obtain ⟨y, hy, hg⟩ := onOf_eq.mp hv
  rcases Updates.update_eq_some hy with ⟨rfl, rfl⟩ | ⟨hvw, hy⟩
  · rw [hgrip] at hg
    cases hg
  · exact onOf_eq.mpr ⟨y, hy, hg⟩

/-- An execution begins with the claim of its job. -/
theorem Holds.begin (x' : X) (hrow : job n = some row) (hqueued : row.status = .queued)
    (hrunning : row'.status = .running) (hgrip : grip x' = some (n, .running)) :
    Holds (update job n (some row')) (onOf grip (update execution w (some x'))) := by
  have hon : onOf grip (update execution w (some x')) =
      update (onOf grip execution) w (some (n, .running)) := by
    funext v
    by_cases hv : v = w
    · subst hv
      rw [onOf, update_self, update_self]
      exact hgrip
    · rw [onOf, update_of_ne hv, update_of_ne hv]
      rfl
  rw [hon]
  exact h.claim hrow hqueued hrunning

end

end Executions

/-! ## Live rows -/

/-- A live row of job `n` is live afterwards. -/
def StaysLive (job job' : Nat → Option JobRow) (n : Nat) : Prop :=
  ∀ row, job n = some row → row.live = true → ∃ row', job' n = some row' ∧ row'.live = true

theorem staysLive_refl (job : Nat → Option JobRow) (n : Nat) : StaysLive job job n :=
  fun row hrow hlive => ⟨row, hrow, hlive⟩

/-- A statement that leaves live rows live. -/
theorem staysLive_updateJob
    (hf : ∀ row row', job m = some row → f row = some row' → row'.live = true) (n : Nat) :
    StaysLive job (updateJob job m f) n := by
  intro row hrow hlive
  by_cases hn : n = m
  · subst hn
    refine ⟨_, updateJob_self f hrow, ?_⟩
    cases hf' : f row with
    | some row' => exact hf row row' hrow hf'
    | none => exact hlive
  · exact ⟨row, by rw [updateJob_of_ne job f hn]; exact hrow, hlive⟩

theorem staysLive_of_ne (job : Nat → Option JobRow) (f : JobRow → Option JobRow) (hn : n ≠ m) :
    StaysLive job (updateJob job m f) n :=
  fun row hrow hlive => ⟨row, by rw [updateJob_of_ne job f hn]; exact hrow, hlive⟩

theorem live_of_queued (h : row.status = .queued) : row.live = true := by
  simp [JobRow.live, h]

theorem live_of_running (h : row.status = .running) : row.live = true := by
  simp [JobRow.live, h]

/-- Only a job whose heartbeat is stale is taken back. -/
theorem stale_of_reapStuck
    (h : reapStuck staleAfterMs now row = some row') : stale staleAfterMs now row = true := by
  by_contra hnot
  rw [reapStuck, if_neg hnot] at h
  cases h

/-- With attempts left, it goes back to the queue. -/
theorem reapStuck_live
    (hmore : ¬ row.maxAttempts ≤ row.attempts) (h : reapStuck staleAfterMs now row = some row') :
    row'.live = true := by
  rw [reapStuck, if_pos (stale_of_reapStuck h), if_neg hmore] at h
  cases h
  rfl

theorem failAttempt_live {tuning : RetryTuning} {job row' : JobRow} {message : String} {now : Int}
    {permanent : Bool} (hmore : exhausted job permanent ≠ true)
    (h : failAttempt tuning now job message permanent row = some row') : row'.live = true := by
  rw [failAttempt, if_pos (failAttempt_spec h).2.2.1, if_neg hmore] at h
  cases h
  rfl

/-- What a statement finds is live. -/
theorem Statement.was_live (h : Statement row row') : row.live = true := by
  rcases h.live with hq | hr
  · exact live_of_queued hq
  · exact live_of_running hr

end Jkannel.Platform
