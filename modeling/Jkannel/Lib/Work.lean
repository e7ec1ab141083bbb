import Jkannel.Lib.Transaction

/-!
# Work functions, and the statements that fail in them

What a transaction does is not fixed beforehand: each of its statements may depend on what the ones
before it returned, and on which of them failed.  A *work function* is handed an open transaction
and says, answer by answer, what is done next.

* `Work` is such a function, with everything it can do: a statement on the store, an exclusive lock
  that is asked for without waiting, and an effect outside of the transaction.  Nothing in it has to
  stop at a failed statement; `attempt` takes the failure as an answer, and `statement` passes it
  on.
* `Work.run` runs it.  A `Faults` says which statements are refused, at any positions; after one of
  them has been, the transaction is aborted and every later statement fails as well.
* `Work.Brittle` is a work function that ends with an error whenever one of its statements fails,
  whether it passes the failure on or not, and `Work.Brittle.bind` puts two together.
* `Work.Keeps` is a work function whose effects outside preserve a property, and `Work.Ends` one
  that ends with a property, however its statements go.
* `Faults.cleared` is a run in which no statement is refused.  A run that was not aborted is one,
  and tells that none of its statements was refused (`Work.cleared_of_unaborted`).

The client that a run leaves has the writes of the statements that went through.  Whether they are
kept is for the commit to say (`Client.commit`).
-/

namespace Transaction

/-- A function that is handed an open transaction: what it does next, given what it has learnt. -/
inductive Work (σ ω ε : Type) (α : Type) : Type 1 where
  /-- It returns. -/
  | done (a : α) : Work σ ω ε α
  /-- It throws. -/
  | throw (e : ε) : Work σ ω ε α
  /-- It asks for the exclusive lock, which it gets or does not get at once. -/
  | lock (next : Except ε Bool → Work σ ω ε α) : Work σ ω ε α
  /-- It issues a statement: what that returns, and the writes it makes. -/
  | query {ρ : Type} (statement : σ → ρ × (σ → σ)) (next : Except ε ρ → Work σ ω ε α) :
      Work σ ω ε α
  /-- It does something outside of the transaction. -/
  | act {γ : Type} (effect : ω → γ × ω) (next : γ → Work σ ω ε α) : Work σ ω ε α

namespace Work

variable {σ ω ε α β ρ γ : Type}

/-- One piece of work after another. -/
def bind : Work σ ω ε α → (α → Work σ ω ε β) → Work σ ω ε β
  | .done a, f => f a
  | .throw e, _ => .throw e
  | .lock next, f => .lock fun r => (next r).bind f
  | .query statement next, f => .query statement fun r => (next r).bind f
  | .act effect next, f => .act effect fun r => (next r).bind f

instance : Monad (Work σ ω ε) where
  pure := .done
  bind := .bind

@[simp] theorem pure_eq (a : α) : (pure a : Work σ ω ε α) = .done a := rfl

@[simp] theorem bind_eq (w : Work σ ω ε α) (f : α → Work σ ω ε β) : w >>= f = w.bind f := rfl

@[simp] theorem done_bind (a : α) (f : α → Work σ ω ε β) : (done a).bind f = f a := rfl

/-- A statement whose failure is passed on. -/
def statement (f : σ → ρ × (σ → σ)) : Work σ ω ε ρ :=
  .query f fun
    | .ok r => .done r
    | .error e => .throw e

/-- A statement whose failure is an answer like any other. -/
def attempt (f : σ → ρ × (σ → σ)) : Work σ ω ε (Except ε ρ) := .query f .done

/-- Ask for the lock; a failure is passed on. -/
def tryLock : Work σ ω ε Bool :=
  .lock fun
    | .ok free => .done free
    | .error e => .throw e

/-- Do something outside. -/
def perform (effect : ω → γ × ω) : Work σ ω ε γ := .act effect .done

/-- One piece of work for each element. -/
def each (f : α → Work σ ω ε Unit) : List α → Work σ ω ε Unit
  | [] => .done ()
  | a :: as => (f a).bind fun _ => each f as

end Work

/-! ## Running a work function -/

/-- What goes wrong in a run. -/
structure Faults (ε : Type) where
  /-- The error the `n`-th statement is refused with, if it is. -/
  statement : Nat → Option ε
  /-- The error of every statement in an aborted transaction. -/
  aborted : ε
  /-- Whether nobody else holds the lock. -/
  free : Bool

/-- Why the `n`-th statement does not go through, if it does not. -/
def Faults.refusal {σ ε : Type} (faults : Faults ε) (c : Client σ) (n : Nat) : Option ε :=
  if c.aborted then some faults.aborted else faults.statement n

/-- No statement is refused. -/
def Faults.cleared {ε : Type} (faults : Faults ε) : Faults ε :=
  { faults with statement := fun _ => none }

/-- What a run leaves. -/
structure Outcome (σ ω ε α : Type) where
  result : Except ε α
  client : Client σ
  outside : ω
  /-- How many statements there were. -/
  count : Nat

namespace Work

variable {σ ω ε α β ρ γ : Type} (faults : Faults ε)

/-- Run a work function on a client, from the `n`-th statement of the transaction on. -/
def run : Work σ ω ε α → Client σ → ω → Nat → Outcome σ ω ε α
  | .done a, c, o, n => ⟨.ok a, c, o, n⟩
  | .throw e, c, o, n => ⟨.error e, c, o, n⟩
  | .lock next, c, o, n =>
    match faults.refusal c n with
    | some e => (next (.error e)).run ⟨c.store, true⟩ o (n + 1)
    | none => (next (.ok faults.free)).run c o (n + 1)
  | .query f next, c, o, n =>
    match faults.refusal c n with
    | some e => (next (.error e)).run ⟨c.store, true⟩ o (n + 1)
    | none => (next (.ok (f c.store).1)).run ⟨(f c.store).2 c.store, c.aborted⟩ o (n + 1)
  | .act effect next, c, o, n => (next (effect o).1).run c (effect o).2 n

attribute [local grind =] run bind each

variable {faults} {w : Work σ ω ε α} {c : Client σ} {o : ω} {n : Nat}

/-- A run is the run of the first part, and the run of the rest if that returns. -/
theorem run_bind (f : α → Work σ ω ε β) :
    (w.bind f).run faults c o n =
      match w.run faults c o n with
      | ⟨.ok a, c', o', n'⟩ => (f a).run faults c' o' n'
      | ⟨.error e, c', o', n'⟩ => ⟨.error e, c', o', n'⟩ := by
  induction w generalizing c o n with
  | done _ | throw _ => rfl
  | lock _ ih | query _ _ ih =>
    simp only [bind, run]
    split <;> exact ih ..
  | act effect next ih =>
    exact ih ..

variable {f : α → Work σ ω ε β}

/-- Work that returns has returned from its first part. -/
theorem ok_of_bind_ok {b : β} (h : ((w.bind f).run faults c o n).result = .ok b) :
    ∃ a, (w.run faults c o n).result = .ok a := by
  rw [run_bind] at h
  generalize w.run faults c o n = r at h ⊢
  obtain ⟨result, c', o', n'⟩ := r
  cases result with
  | ok a => exact ⟨a, rfl⟩
  | error e => cases h

theorem refusal_of_aborted (h : c.aborted = true) : faults.refusal c n = some faults.aborted :=
  if_pos h

/-- An aborted transaction stays aborted, with the writes it had. -/
theorem run_of_aborted (h : c.aborted = true) : (w.run faults c o n).client = c := by
  induction w generalizing o n with
  | done _ | throw _ => rfl
  | lock next ih | query g next ih =>
    simp only [run, refusal_of_aborted h]
    rw [← h]
    exact ih ..
  | act effect next ih =>
    exact ih ..

/-! ## Work that does not survive a failed statement -/

/-- In an aborted transaction the work ends with an error. -/
def Doomed : Work σ ω ε α → Prop
  | .done _ => False
  | .throw _ => True
  | .lock next => ∀ e, (next (.error e)).Doomed
  | .query _ next => ∀ e, (next (.error e)).Doomed
  | .act _ next => ∀ g, (next g).Doomed

/-- After a failed statement the work ends with an error. -/
def Brittle : Work σ ω ε α → Prop
  | .done _ => True
  | .throw _ => True
  | .lock next => (∀ e, (next (.error e)).Doomed) ∧ ∀ free, (next (.ok free)).Brittle
  | .query _ next => (∀ e, (next (.error e)).Doomed) ∧ ∀ r, (next (.ok r)).Brittle
  | .act _ next => ∀ g, (next g).Brittle

attribute [local grind =] Doomed Brittle

theorem Doomed.run (h : w.Doomed) (haborted : c.aborted = true) :
    ∃ e, (w.run faults c o n).result = .error e := by
  induction w generalizing o n with
  | done a => exact absurd h id
  | throw e => exact ⟨e, rfl⟩
  | lock next ih | query g next ih =>
    simp only [Work.run, refusal_of_aborted haborted]
    rw [← haborted]
    exact ih _ (h _)
  | act effect next ih =>
    exact ih _ (h _)

/-- **A brittle work function that met a failed statement does not return.** -/
theorem Brittle.run (h : w.Brittle) (hbegun : c.aborted = false)
    (haborted : (w.run faults c o n).client.aborted = true) :
    ∃ e, (w.run faults c o n).result = .error e := by
  induction w generalizing c o n with
  | done a => exact absurd (haborted.symm.trans hbegun) (by decide)
  | throw e => exact ⟨e, rfl⟩
  | lock next ih | query g next ih =>
    simp only [Work.run] at haborted ⊢
    split
    · exact (h.1 _).run rfl
    · next hgoes =>
      simp only [hgoes] at haborted
      exact ih _ (h.2 _) hbegun haborted
  | act effect next ih =>
    exact ih _ (h _) hbegun haborted

theorem Doomed.bind (h : w.Doomed) (f : α → Work σ ω ε β) : (w.bind f).Doomed := by
  induction w with
  | done a => exact absurd h id
  | throw e => trivial
  | lock next ih | query g next ih => exact fun e => ih _ (h e)
  | act effect next ih => exact fun g => ih _ (h g)

theorem Brittle.bind (h : w.Brittle) (hf : ∀ a, (f a).Brittle) : (w.bind f).Brittle := by
  induction w with
  | done a => exact hf a
  | throw e => trivial
  | lock next ih | query g next ih => exact ⟨fun e => (h.1 e).bind f, fun r => ih _ (h.2 r)⟩
  | act effect next ih => exact fun g => ih _ (h g)

@[simp] theorem brittle_done (a : α) : (done a : Work σ ω ε α).Brittle := trivial

theorem brittle_statement (f : σ → ρ × (σ → σ)) : (statement f : Work σ ω ε ρ).Brittle :=
  ⟨fun _ => trivial, fun _ => trivial⟩

theorem brittle_tryLock : (tryLock : Work σ ω ε Bool).Brittle :=
  ⟨fun _ => trivial, fun _ => trivial⟩

theorem brittle_perform (effect : ω → γ × ω) : (perform effect : Work σ ω ε γ).Brittle :=
  fun _ => trivial

/-- A failure that is taken for an answer does no harm to the work, as long as what follows it does
not return without another statement. -/
theorem brittle_attempt_bind (f : σ → ρ × (σ → σ)) {g : Except ε ρ → Work σ ω ε α}
    (hdoomed : ∀ e, (g (.error e)).Doomed) (hbrittle : ∀ r, (g (.ok r)).Brittle) :
    ((attempt f).bind g).Brittle :=
  ⟨hdoomed, hbrittle⟩

theorem doomed_statement_bind (f : σ → ρ × (σ → σ)) (g : ρ → Work σ ω ε α) :
    ((statement f).bind g).Doomed :=
  fun _ => trivial

theorem brittle_each {f : β → Work σ ω ε Unit} (h : ∀ b, (f b).Brittle) (l : List β) :
    (each f l).Brittle := by
  induction l with
  | nil => trivial
  | cons b l ih => exact (h b).bind fun _ => ih

theorem bind_assoc (f : α → Work σ ω ε β) (g : β → Work σ ω ε γ) :
    (w.bind f).bind g = w.bind fun a => (f a).bind g := by
  induction w with
  | done _ | throw _ => rfl
  | lock _ ih | query _ _ ih => exact congrArg _ (funext fun r => ih r)
  | act effect next ih => exact congrArg _ (funext fun g => ih g)

/-! ## What happens outside -/

/-- Every effect the work can have outside preserves `P`. -/
def Keeps (P : ω → Prop) : Work σ ω ε α → Prop
  | .done _ => True
  | .throw _ => True
  | .lock next => ∀ r, (next r).Keeps P
  | .query _ next => ∀ r, (next r).Keeps P
  | .act effect next => ∀ o, P o → P (effect o).2 ∧ (next (effect o).1).Keeps P

attribute [local grind =] Keeps

variable {P : ω → Prop}

theorem Keeps.run (h : w.Keeps P) (ho : P o) : P (w.run faults c o n).outside := by
  induction w generalizing c o n with
  | done _ | throw _ => exact ho
  | lock next ih | query g next ih =>
    simp only [Work.run]
    split <;> exact ih _ (h _) ho
  | act effect next ih =>
    exact ih _ (h o ho).2 (h o ho).1

theorem Keeps.bind (h : w.Keeps P) (hf : ∀ a, (f a).Keeps P) : (w.bind f).Keeps P := by
  induction w with
  | done a => exact hf a
  | throw e => trivial
  | lock next ih | query g next ih => exact fun r => ih _ (h r)
  | act effect next ih => exact fun o ho => ⟨(h o ho).1, ih _ (h o ho).2⟩

theorem keeps_statement (f : σ → ρ × (σ → σ)) : (statement f : Work σ ω ε ρ).Keeps P := by
  intro r
  cases r with
  | ok _ | error _ => trivial

theorem keeps_each {f : β → Work σ ω ε Unit} (h : ∀ b, (f b).Keeps P) (l : List β) :
    (each f l).Keeps P := by
  induction l with
  | nil => trivial
  | cons b l ih => exact (h b).bind fun _ => ih

/-! ## What a run ends with -/

/-- However its statements go, the work ends with `Q`. -/
def Ends (Q : Except ε α → σ → Prop) : Work σ ω ε α → σ → Prop
  | .done a, s => Q (.ok a) s
  | .throw e, s => Q (.error e) s
  | .lock next, s => ∀ r, (next r).Ends Q s
  | .query f next, s =>
    (∀ e, (next (.error e)).Ends Q s) ∧ (next (.ok (f s).1)).Ends Q ((f s).2 s)
  | .act _ next, s => ∀ g, (next g).Ends Q s

theorem Ends.run {Q : Except ε α → σ → Prop} (h : w.Ends Q c.store) :
    Q (w.run faults c o n).result (w.run faults c o n).client.store := by
  induction w generalizing c o n with
  | done _ | throw _ => exact h
  | lock next ih =>
    simp only [Work.run]
    split <;> exact ih _ (h _)
  | query f next ih =>
    simp only [Work.run]
    split
    · exact ih _ (h.1 _)
    · exact ih _ h.2
  | act effect next ih =>
    exact ih _ (h _)

/-! ## Runs in which nothing is refused -/

theorem refusal_of_begun (h : c.aborted = false) : faults.refusal c n = faults.statement n :=
  if_neg (h ▸ Bool.false_ne_true)

theorem refusal_cleared (h : c.aborted = false) : faults.cleared.refusal c n = none :=
  refusal_of_begun h

theorem le_count : n ≤ (w.run faults c o n).count := by
  induction w generalizing c o n with
  | done _ | throw _ => exact Nat.le_refl n
  | lock next ih | query g next ih =>
    simp only [Work.run]
    split <;> exact Nat.le_trans (Nat.le_succ n) (ih ..)
  | act effect next ih =>
    exact ih ..

/-- A run whose statements are all granted is the run without refusals. -/
theorem run_of_granted (hbegun : c.aborted = false)
    (h : ∀ k, n ≤ k → k < (w.run faults.cleared c o n).count → faults.statement k = none) :
    w.run faults c o n = w.run faults.cleared c o n := by
  induction w generalizing c o n with
  | done _ | throw _ => rfl
  | lock next ih | query g next ih =>
    simp only [Work.run, refusal_cleared hbegun] at h ⊢
    have hgranted := h n (Nat.le_refl n) (Nat.lt_of_succ_le le_count)
    rw [refusal_of_begun hbegun, hgranted]
    exact ih _ hbegun fun k hk => h k (Nat.le_trans (Nat.le_succ n) hk)
  | act effect next ih =>
    exact ih _ hbegun h

/-- A run that was not aborted is the run without refusals, and its statements were granted. -/
theorem cleared_of_unaborted (h : (w.run faults c o n).client.aborted = false) :
    w.run faults c o n = w.run faults.cleared c o n ∧
      ∀ k, n ≤ k → k < (w.run faults c o n).count → faults.statement k = none := by
  have hbegun : c.aborted = false := by
    by_contra hc
    rw [run_of_aborted (eq_true_of_ne_false hc)] at h
    exact hc h
  induction w generalizing c o n with
  | done _ | throw _ => exact ⟨rfl, fun k hk hlt => absurd hk (Nat.not_le_of_gt hlt)⟩
  | lock next ih | query g next ih =>
    cases hgranted : faults.statement n with
    | some e =>
      simp only [Work.run, refusal_of_begun hbegun, hgranted] at h
      rw [run_of_aborted rfl] at h
      cases h
    | none =>
      simp only [Work.run, refusal_of_begun hbegun, hgranted] at h ⊢
      obtain ⟨heq, hrest⟩ := ih _ h hbegun
      refine ⟨heq, fun k hk hlt => ?_⟩
      rcases Nat.eq_or_lt_of_le hk with rfl | hk
      · exact hgranted
      · exact hrest k hk hlt
  | act effect next ih =>
    exact ih _ h hbegun

variable {s : σ}

theorem run_statement_bind_cleared (f : σ → ρ × (σ → σ)) (g : ρ → Work σ ω ε α) :
    ((statement f).bind g).run faults.cleared ⟨s, false⟩ o n =
      (g (f s).1).run faults.cleared ⟨(f s).2 s, false⟩ o (n + 1) := rfl

theorem run_each_cleared (f : β → σ → Unit × (σ → σ)) (l : List β) :
    (each (fun b => (statement (f b) : Work σ ω ε Unit)) l).run faults.cleared ⟨s, false⟩ o n =
      ⟨.ok (), ⟨l.foldl (fun s b => (f b s).2 s) s, false⟩, o, n + l.length⟩ := by
  induction l generalizing s n with
  | nil => rfl
  | cons b l ih =>
    rw [each, run_statement_bind_cleared, ih, List.foldl_cons, List.length_cons, Nat.add_right_comm,
      Nat.add_assoc]

theorem run_each_bind_cleared (f : β → σ → Unit × (σ → σ)) (l : List β) (g : Unit → Work σ ω ε α) :
    ((each (fun b => (statement (f b) : Work σ ω ε Unit)) l).bind g).run faults.cleared ⟨s, false⟩ o
        n =
      (g ()).run faults.cleared ⟨l.foldl (fun s b => (f b s).2 s) s, false⟩ o (n + l.length) := by
  rw [run_bind, run_each_cleared]

end Work

end Transaction
