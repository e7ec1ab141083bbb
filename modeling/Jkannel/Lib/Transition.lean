import Mathlib.Data.List.Basic

/-!
# Runs of a labelled transition system

A protocol between workers and a database is described here by what one action does to one state:
`System.step s a` is the state the action leaves, or `none` when the action cannot happen in `s`.
A run is a list of actions, and everything this file proves is about runs of any length.

* `System.run` plays a list of actions.  It is a function, so a particular schedule can be
  evaluated, and a schedule that goes wrong is exhibited by its list of actions.
* `System.Along P s as` says that every step of that run meets `P`, a condition on the state an
  action is taken in.  A protocol that is only safe under a condition is stated with it.
  `System.check` plays a run and looks.
* `System.invariant_along` is the induction: an invariant kept by every step that meets `P` holds
  at the end of every run all of whose steps do.  `System.invariant_run` is the case of no
  condition at all, and `System.monotone_along` the version for a relation between the two ends.

* `System.exists_run_of_rank` is the induction for progress: a run to a goal, where every state
  short of it has a step that lowers a rank.
* `System.run_filter` leaves the actions out of a run that do not change what one looks at.

Because a prefix of a run that meets `P` is again one (`along_of_append`), what holds at the end of
every such run holds in every state any of them passes through.
-/

namespace Transition

universe u v

/-- How a transaction ends for the client that runs it. -/
inductive Ack where
  /-- Committed, and the client learns it. -/
  | ok
  /-- Committed, and the client sees an error. -/
  | lost (error : String)
  /-- Not committed, and the client sees an error. -/
  | refused (error : String)
  deriving DecidableEq

/-- Whether the transaction took effect. -/
def Ack.committed : Ack → Bool
  | .refused _ => false
  | _ => true

/-- A labelled transition system: what each action does in each state. -/
structure System (S : Type u) (A : Type v) where
  /-- The state an action leaves, or `none` when it cannot happen. -/
  step : S → A → Option S

namespace System

variable {S : Type u} {A : Type v} (M : System S A)

/-- Play a list of actions, one after the other; `none` as soon as one of them cannot happen. -/
def run : S → List A → Option S
  | s, [] => some s
  | s, a :: as => (M.step s a).bind fun s' => run s' as

/-- Every step of the run of `as` from `s` meets `P`. -/
def Along (P : S → A → Prop) : S → List A → Prop
  | _, [] => True
  | s, a :: as => P s a ∧ ∀ s', M.step s a = some s' → Along P s' as

@[simp] theorem run_nil (s : S) : M.run s [] = some s := rfl

@[simp] theorem along_nil (P : S → A → Prop) (s : S) : M.Along P s [] := trivial

variable {P : S → A → Prop} {s t s' : S} {as bs : List A} {I : S → Prop} {Q : S → A → Prop}

theorem along_cons {a : A} (hs : M.step s a = some t) (hP : P s a) (hrest : M.Along P t as) :
    M.Along P s (a :: as) :=
  ⟨hP, fun s' hs' => by obtain rfl := Option.some.inj (hs.symm.trans hs'); exact hrest⟩

theorem run_cons_eq_some {a : A} :
    M.run s (a :: as) = some s' ↔ ∃ t, M.step s a = some t ∧ M.run t as = some s' := by
  simp only [run, Option.bind_eq_some_iff]

theorem run_append : M.run s (as ++ bs) = (M.run s as).bind fun t => M.run t bs := by
  induction as generalizing s with
  | nil => rfl
  | cons a as ih =>
    cases h : M.step s a with
    | none => simp [run, h]
    | some t => simp [run, h, ih]

/-- A condition met all along a run is met all along each of its prefixes. -/
theorem along_of_append (h : M.Along P s (as ++ bs)) : M.Along P s as := by
  induction as generalizing s with
  | nil => trivial
  | cons a as ih => exact ⟨h.1, fun t ht => ih (h.2 t ht)⟩

/-- It is met along what follows a prefix of the run. -/
theorem along_suffix (h : M.Along P s (as ++ bs)) (hrun : M.run s as = some t) :
    M.Along P t bs := by
  induction as generalizing s with
  | nil =>
    obtain rfl : s = t := by simpa using hrun
    exact h
  | cons a as ih =>
    obtain ⟨u, hu, hrest⟩ := M.run_cons_eq_some.mp hrun
    exact ih (h.2 u hu) hrest

theorem along_of_mem (h : ∀ a ∈ as, ∀ s, P s a) (s : S) : M.Along P s as := by
  induction as generalizing s with
  | nil => trivial
  | cons a as ih =>
    exact ⟨h a (List.mem_cons_self ..) s, fun t _ =>
      ih (fun b hb => h b (List.mem_cons_of_mem a hb)) t⟩

theorem along_of_forall (h : ∀ s a, P s a) (s : S) (as : List A) : M.Along P s as :=
  M.along_of_mem (fun a _ s => h s a) s

/-- A run that meets a condition meets every weaker one. -/
theorem Along.imp (h : ∀ s a, P s a → Q s a) (hP : M.Along P s as) :
    M.Along Q s as := by
  induction as generalizing s with
  | nil => trivial
  | cons a as ih => exact ⟨h s a hP.1, fun t ht => ih (hP.2 t ht)⟩

/-- Two conditions that agree wherever an invariant holds are met by the same runs, when a step that
meets them keeps the invariant. -/
theorem along_iff_along (hiff : ∀ s a, I s → (P s a ↔ Q s a))
    (hstep : ∀ s a s', I s → Q s a → M.step s a = some s' → I s') (hs : I s) :
    M.Along P s as ↔ M.Along Q s as := by
  induction as generalizing s with
  | nil => exact Iff.rfl
  | cons a as ih =>
    constructor
    · intro ⟨hP, hrest⟩
      have hQ := (hiff s a hs).mp hP
      exact ⟨hQ, fun t ht => (ih (hstep s a t hs hQ ht)).mp (hrest t ht)⟩
    · intro ⟨hQ, hrest⟩
      exact ⟨(hiff s a hs).mpr hQ, fun t ht => (ih (hstep s a t hs hQ ht)).mpr (hrest t ht)⟩

/-- Whether every step of a run meets a condition that can be decided. -/
def check (P : S → A → Prop) [∀ s a, Decidable (P s a)] : S → List A → Bool
  | _, [] => true
  | s, a :: as => decide (P s a) && (M.step s a).all fun s' => check P s' as

theorem along_of_check (P : S → A → Prop) [∀ s a, Decidable (P s a)] (h : M.check P s as = true) :
    M.Along P s as := by
  induction as generalizing s with
  | nil => trivial
  | cons a as ih =>
    simp only [check, Bool.and_eq_true, decide_eq_true_eq, Option.all_eq_true] at h
    exact ⟨h.1, fun t ht => ih (h.2 t ht)⟩

/-- A run that ends where `p` says. -/
theorem exists_run {w : List A} (p : S → Bool) (h : (M.run s w).any p = true) :
    ∃ s', M.run s w = some s' ∧ p s' = true :=
  (Option.any_eq_true p _).mp h

/-! ## Invariants

The two rules below are the only inductions over runs: a caller supplies what a single step does.
-/

/-- **The invariant rule.**  What every step meeting `P` preserves holds at the end of every run
all of whose steps meet `P`. -/
theorem invariant_along (hstep : ∀ s a s', I s → P s a → M.step s a = some s' → I s') (hs : I s)
    (hP : M.Along P s as) (hrun : M.run s as = some s') : I s' := by
  induction as generalizing s with
  | nil =>
    obtain rfl : s = s' := by simpa using hrun
    exact hs
  | cons a as ih =>
    obtain ⟨t, ht, hrest⟩ := (M.run_cons_eq_some).mp hrun
    exact ih (hstep s a t hs hP.1 ht) (hP.2 t ht) hrest

/-- The invariant rule with no condition on the steps. -/
theorem invariant_run (hstep : ∀ s a s', I s → M.step s a = some s' → I s') (hs : I s)
    (hrun : M.run s as = some s') : I s' :=
  M.invariant_along (P := fun _ _ => True) (fun s a s' hi _ h => hstep s a s' hi h) hs
    (M.along_of_forall (fun _ _ => trivial) s as) hrun

/-- **The progress rule.**  Where every state short of the goal has a step that lowers a rank, there
is a run to the goal. -/
theorem exists_run_of_rank {goal : S → Prop} (rank : S → Nat)
    (hstep : ∀ s, I s → ¬ goal s → ∃ a s', P s a ∧ M.step s a = some s' ∧ I s' ∧ rank s' < rank s)
    (hs : I s) : ∃ as s', M.Along P s as ∧ M.run s as = some s' ∧ goal s' := by
  have key : ∀ n s, rank s = n → I s →
      ∃ as s', M.Along P s as ∧ M.run s as = some s' ∧ goal s' := by
    intro n
    induction n using Nat.strongRecOn with
    | ind n ih =>
      intro s hn hs
      by_cases hgoal : goal s
      · exact ⟨[], s, M.along_nil P s, M.run_nil s, hgoal⟩
      · obtain ⟨a, t, hP, ht, hit, hlt⟩ := hstep s hs hgoal
        obtain ⟨as, s', halong, hrun, hend⟩ := ih (rank t) (by omega) t rfl hit
        exact ⟨a :: as, s', M.along_cons ht hP halong, M.run_cons_eq_some.mpr ⟨t, ht, hrun⟩, hend⟩
  exact key (rank s) s rfl hs

/-- Actions that leave a view of the state alone can be left out of a run, and the view at its end
is the same. -/
theorem run_filter {V : Type*} (view : S → V) (keep : A → Bool)
    (hdrop : ∀ s a s', keep a = false → M.step s a = some s' → view s' = view s)
    (hkeep : ∀ s t a s', keep a = true → view s = view t → M.step s a = some s' →
      ∃ t', M.step t a = some t' ∧ view s' = view t') (hview : view s = view t)
    (hrun : M.run s as = some s') :
    ∃ t', M.run t (as.filter keep) = some t' ∧ view s' = view t' := by
  induction as generalizing s t with
  | nil =>
    cases hrun
    exact ⟨t, rfl, hview⟩
  | cons a as ih =>
    obtain ⟨u, hu, hrest⟩ := M.run_cons_eq_some.mp hrun
    cases hk : keep a with
    | false =>
      rw [List.filter_cons_of_neg (by rw [hk]; exact Bool.false_ne_true)]
      exact ih ((hdrop s a u hk hu).trans hview) hrest
    | true =>
      obtain ⟨u', hu', hv⟩ := hkeep s t a u hk hview hu
      obtain ⟨t', ht', hv'⟩ := ih hv hrest
      rw [List.filter_cons_of_pos hk]
      exact ⟨t', M.run_cons_eq_some.mpr ⟨u', hu', ht'⟩, hv'⟩

/-- A reflexive and transitive relation that every step of an invariant-keeping run respects holds
between the run's two ends. -/
theorem monotone_along {R : S → S → Prop} (hrefl : ∀ s, R s s)
    (htrans : ∀ s t u, R s t → R t u → R s u)
    (hstep : ∀ s a s', I s → P s a → M.step s a = some s' → I s' ∧ R s s') (hs : I s)
    (hP : M.Along P s as) (hrun : M.run s as = some s') : R s s' := by
  have key : I s' ∧ R s s' := by
    induction as generalizing s with
    | nil =>
      obtain rfl : s = s' := by simpa using hrun
      exact ⟨hs, hrefl s⟩
    | cons a as ih =>
      obtain ⟨t, ht, hrest⟩ := (M.run_cons_eq_some).mp hrun
      obtain ⟨hit, hst⟩ := hstep s a t hs hP.1 ht
      obtain ⟨hi', hts'⟩ := ih hit (hP.2 t ht) hrest
      exact ⟨hi', htrans _ _ _ hst hts'⟩
  exact key.2

end System

end Transition
