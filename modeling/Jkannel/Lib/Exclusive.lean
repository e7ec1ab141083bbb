import Jkannel.Lib.Updates
import Jkannel.Lib.Work

/-!
# Exclusive work

Many transactions run on one store, statement by statement and in any order, and one of them at a
time holds an exclusive lock.  The holder sees what others commit between two of its statements,
and what it does outside of the store is not undone when it fails.

* `Shared` is the store with the transactions that run on it, and `Shared.step` what one statement,
  one commit or one breakdown does to it.
* `Work.Guarded` is a piece of work whose effects outside preserve a property, whatever others do
  to the part of the store that is out of its `view`.  `Work.Guarded.bind` puts two together.
* `Exclusive` is the invariant.  A step keeps it when it is `Harmless`: the holder of the lock only
  fails while everything that has been done outside is accounted for in the store.
-/

namespace Transaction

open Option
open Function (update update_of_ne update_self)

/-! ## Work after a failure, and work among others -/

namespace Work

variable {σ ω ε α β ρ γ V : Type}

/-- In an aborted transaction the work ends with an error, and does nothing outside. -/
def Silent : Work σ ω ε α → Prop
  | .done _ => False
  | .throw _ => True
  | .lock next => ∀ e, (next (.error e)).Silent
  | .query _ next => ∀ e, (next (.error e)).Silent
  | .act _ _ => False

variable {w : Work σ ω ε α}

theorem Silent.bind (h : w.Silent) (f : α → Work σ ω ε β) : (w.bind f).Silent := by
  induction w with
  | done _ | act _ _ _ => exact absurd h id
  | throw e => trivial
  | lock next ih | query s next ih => exact fun e => ih _ (h e)

/-- A write that changes the view by what is in the view. -/
def Stable (view : σ → V) (write : σ → σ) : Prop :=
  ∀ a b, view a = view b → view (write a) = view (write b)

theorem Stable.comp {view : σ → V} {f g : σ → σ} (hf : Stable view f) (hg : Stable view g) :
    Stable view (f ∘ g) := fun a b h => hf _ _ (hg a b h)

/-- Work that keeps `G` outside and ends with `Q`, when others leave the view of the store alone. -/
def Guarded (view : σ → V) (G : ω → Prop) (Q : α → V → ω → Prop) :
    Work σ ω ε α → V → ω → Prop
  | .done a, v, o => Q a v o
  | .throw _, _, _ => False
  | .lock next, v, o =>
    (∀ e, (next (.error e)).Silent) ∧ ∀ free, (next (.ok free)).Guarded view G Q v o
  | .query f next, v, o =>
    (∀ e, (next (.error e)).Silent) ∧ ∀ s, view s = v →
      Stable view (f s).2 ∧ (next (.ok (f s).1)).Guarded view G Q (view ((f s).2 s)) o
  | .act effect next, v, o =>
    G (effect o).2 ∧ (next (effect o).1).Guarded view G Q v (effect o).2

/-- Work that begins by asking for the lock, and does nothing without it. -/
def Waits (view : σ → V) (G : ω → Prop) (settled : V → ω → Prop) : Work σ ω ε α → Prop
  | .lock next =>
    (∀ e, (next (.error e)).Silent) ∧ (∃ a, next (.ok false) = .done a) ∧
      ∀ v o, settled v o → G o → (next (.ok true)).Guarded view G (fun _ => settled) v o
  | _ => False

variable {view : σ → V} {G : ω → Prop} {v : V} {o : ω} {f : σ → ρ × (σ → σ)}

/-- **The rule of composition**: what the first part ends with is what the second starts from. -/
theorem Guarded.bind {f : α → Work σ ω ε β} {Q : β → V → ω → Prop}
    (h : w.Guarded view G (fun a => (f a).Guarded view G Q) v o) :
    (w.bind f).Guarded view G Q v o := by
  induction w generalizing v o with
  | done _ | throw _ => exact h
  | lock next ih => exact ⟨fun e => (h.1 e).bind f, fun free => ih _ (h.2 free)⟩
  | query s next ih =>
    exact ⟨fun e => (h.1 e).bind f, fun t ht => ⟨(h.2 t ht).1, ih _ (h.2 t ht).2⟩⟩
  | act effect next ih => exact ⟨h.1, ih _ h.2⟩

theorem Guarded.mono {P Q : α → V → ω → Prop} (h : w.Guarded view G P v o)
    (himp : ∀ a v o, P a v o → Q a v o) : w.Guarded view G Q v o := by
  induction w generalizing v o with
  | done a => exact himp a v o h
  | throw e => exact h
  | lock next ih => exact ⟨h.1, fun free => ih _ (h.2 free)⟩
  | query s next ih => exact ⟨h.1, fun t ht => ⟨(h.2 t ht).1, ih _ (h.2 t ht).2⟩⟩
  | act effect next ih => exact ⟨h.1, ih _ h.2⟩

theorem guarded_statement {Q : ρ → V → ω → Prop}
    (h : ∀ s, view s = v → Stable view (f s).2 ∧ Q (f s).1 (view ((f s).2 s)) o) :
    (statement f : Work σ ω ε ρ).Guarded view G Q v o :=
  ⟨fun _ => trivial, h⟩

/-- A failure that is taken for an answer, when the work cannot go on without another statement. -/
theorem guarded_attempt_bind {g : Except ε ρ → Work σ ω ε α}
    {Q : α → V → ω → Prop} (hsilent : ∀ e, (g (.error e)).Silent)
    (h : ∀ s, view s = v →
      Stable view (f s).2 ∧ (g (.ok (f s).1)).Guarded view G Q (view ((f s).2 s)) o) :
    ((attempt f).bind g).Guarded view G Q v o :=
  ⟨hsilent, h⟩

theorem guarded_perform {effect : ω → γ × ω} {Q : γ → V → ω → Prop} (hkept : G (effect o).2)
    (h : Q (effect o).1 v (effect o).2) :
    (perform effect : Work σ ω ε γ).Guarded view G Q v o :=
  ⟨hkept, h⟩

theorem silent_statement_bind (f : σ → ρ × (σ → σ)) (g : ρ → Work σ ω ε α) :
    ((statement f).bind g).Silent :=
  fun _ => trivial

end Work

/-! ## Transactions on one store -/

/-- A transaction on its way. -/
structure Running (σ ω ε α : Type) : Type 1 where
  /-- What it has still to do. -/
  work : Work σ ω ε α
  /-- What it has written, on top of what is committed. -/
  writes : σ → σ
  /-- One of its statements has failed. -/
  aborted : Bool

/-- A store, what is outside of it, and the transactions. -/
structure Shared (σ ω ε α : Type) : Type 1 where
  /-- What is committed. -/
  store : σ
  outside : ω
  running : ℕ → Option (Running σ ω ε α)
  /-- Who holds the lock. -/
  holder : Option ℕ

/-- What can happen to a transaction. -/
inductive Event (ε : Type) where
  /-- Its next statement is granted, or refused. -/
  | issue (refusal : Option ε)
  /-- It does something outside. -/
  | act
  /-- It has come to its end, and is rolled back or sent to be committed. -/
  | finish (committed : Bool)
  /-- Its connection breaks. -/
  | crash

/-- The transaction fails. -/
def Event.fails {ε : Type} : Event ε → Bool
  | .issue refusal => refusal.isSome
  | .act => false
  | .finish committed => !committed
  | .crash => true

namespace Shared

variable {σ ω ε α : Type}

/-- A store on which no transaction runs. -/
def quiet (store : σ) (outside : ω) : Shared σ ω ε α := ⟨store, outside, fun _ => none, none⟩

/-- Begin a transaction. -/
def begin (i : ℕ) (work : Work σ ω ε α) (s : Shared σ ω ε α) : Option (Shared σ ω ε α) :=
  match s.running i with
  | some _ => none
  | none => some { s with running := update s.running i (some ⟨work, id, false⟩) }

/-- The transaction goes on with other work. -/
def goOn (i : ℕ) (r : Running σ ω ε α) (s : Shared σ ω ε α) : Shared σ ω ε α :=
  { s with running := update s.running i (some r) }

/-- The transaction is over, and gives the lock back. -/
def leave (i : ℕ) (store : σ) (s : Shared σ ω ε α) : Shared σ ω ε α :=
  { s with
    store := store
    running := update s.running i none
    holder := if s.holder = some i then none else s.holder }

/-- What a statement of the `i`-th transaction does.  In an aborted one no statement is granted. -/
def issue (i : ℕ) (r : Running σ ω ε α) (refusal : Option ε) (s : Shared σ ω ε α) :
    Option (Shared σ ω ε α) :=
  match r.work, refusal with
  | .lock next, some e | .query _ next, some e =>
    some (s.goOn i ⟨next (.error e), r.writes, true⟩)
  | .lock next, none =>
    if r.aborted then none
    else if s.holder = none then
      some { s.goOn i ⟨next (.ok true), r.writes, false⟩ with holder := some i }
    else some (s.goOn i ⟨next (.ok false), r.writes, false⟩)
  | .query f next, none =>
    if r.aborted then none
    else
      let (answer, write) := f (r.writes s.store)
      some (s.goOn i ⟨next (.ok answer), write ∘ r.writes, false⟩)
  | _, _ => none

/-- What happens to the `i`-th transaction. -/
def step (i : ℕ) (event : Event ε) (s : Shared σ ω ε α) : Option (Shared σ ω ε α) :=
  match s.running i with
  | none => none
  | some r =>
    match event with
    | .issue refusal => s.issue i r refusal
    | .act =>
      match r.work with
      | .act effect next =>
        let (answer, outside) := effect s.outside
        some { s.goOn i ⟨next answer, r.writes, r.aborted⟩ with outside := outside }
      | _ => none
    | .finish committed =>
      match r.work with
      | .done _ => some (s.leave i (if committed ∧ ¬ r.aborted then r.writes s.store else s.store))
      | .throw _ => some (s.leave i s.store)
      | _ => none
    | .crash => some (s.leave i s.store)

end Shared

/-! ## The invariant -/

section Invariant

variable {σ ω ε α V : Type} (view : σ → V) (G : ω → Prop) (settled : V → ω → Prop)

/-- The transaction that holds the lock. -/
structure Held (store : σ) (outside : ω) (r : Running σ ω ε α) : Prop where
  stable : Work.Stable view r.writes
  guarded : r.aborted = false →
    r.work.Guarded view G (fun _ => settled) (view (r.writes store)) outside
  failed : r.aborted = true → r.work.Silent ∧ settled (view store) outside

/-- A transaction that does not hold it. -/
structure Bystander (r : Running σ ω ε α) : Prop where
  unwritten : ∀ s, view (r.writes s) = view s
  waits : r.aborted = false → r.work.Waits view G settled ∨ ∃ a, r.work = .done a
  failed : r.aborted = true → r.work.Silent

/-- What is outside is as it should be, and accounted for as long as nobody holds the lock. -/
structure Exclusive (s : Shared σ ω ε α) : Prop where
  kept : G s.outside
  free : s.holder = none → settled (view s.store) s.outside
  held : ∀ i, s.holder = some i → ∃ r, s.running i = some r ∧
    Held view G settled s.store s.outside r
  others : ∀ i r, s.running i = some r → s.holder ≠ some i → Bystander view G settled r

/-- A failure of the holder comes while everything outside is accounted for. -/
def Harmless (s : Shared σ ω ε α) (i : ℕ) (event : Event ε) : Prop :=
  s.holder = some i → event.fails = true → settled (view s.store) s.outside

variable {view G settled} {s s' : Shared σ ω ε α} {i : ℕ} {r r' : Running σ ω ε α}

variable {store : σ} {outside : ω} {work : Work σ ω ε α} {writes : σ → σ} {aborted : Bool}
  {next : Except ε Bool → Work σ ω ε α} {refusal : Option ε}

/-- Nobody holds the lock of a quiet store. -/
theorem Exclusive.quiet (hkept : G outside) (hsettled : settled (view store) outside) :
    Exclusive view G settled (Shared.quiet store outside : Shared σ ω ε α) where
  kept := hkept
  free _ := hsettled
  held _ h := by cases h
  others _ _ h := by cases h

theorem Held.disturb {store' : σ} (h : Held view G settled store outside r)
    (hview : view store' = view store) : Held view G settled store' outside r where
  stable := h.stable
  guarded hbegun := by
    rw [h.stable _ _ hview]
    exact h.guarded hbegun
  failed haborted := by
    rw [hview]
    exact h.failed haborted

section

variable (h : Exclusive view G settled s)
include h

/-- Others may change what is out of the view. -/
theorem Exclusive.disturb (hview : view store = view s.store) :
    Exclusive view G settled { s with store := store } where
  __ := h
  free hfree := by
    rw [hview]
    exact h.free hfree
  held i hi := by
    obtain ⟨r, hr, hheld⟩ := h.held i hi
    exact ⟨r, hr, hheld.disturb hview⟩

theorem Exclusive.begin (hwaits : work.Waits view G settled)
    (hs : s.begin i work = some s') : Exclusive view G settled s' := by
  rw [Shared.begin] at hs
  split at hs
  · cases hs
  · next hnone =>
    cases hs
    refine ⟨h.kept, h.free, fun j hj => ?_, fun j r hr hj => ?_⟩
    · obtain ⟨r, hr, hheld⟩ := h.held j hj
      have hne : j ≠ i := by
        rintro rfl
        rw [hnone] at hr
        cases hr
      exact ⟨r, (update_of_ne hne ..).trans hr, hheld⟩
    · rcases Updates.update_eq_some hr with ⟨rfl, rfl⟩ | ⟨-, hr⟩
      · exact ⟨fun _ => rfl, fun _ => .inl hwaits, fun haborted => by cases haborted⟩
      · exact h.others j r hr hj

/-- The holder goes on. -/
theorem Exclusive.goOn_holder (hi : s.holder = some i)
    (hr : Held view G settled s.store s.outside r) : Exclusive view G settled (s.goOn i r) where
  kept := h.kept
  free hfree := by
    rw [Shared.goOn, hi] at hfree
    cases hfree
  held j hj := by
    obtain rfl : i = j := some.inj (hi.symm.trans hj)
    exact ⟨r, update_self .., hr⟩
  others j r' hr' hj := by
    rcases Updates.update_eq_some hr' with ⟨rfl, -⟩ | ⟨-, hr'⟩
    · exact absurd hi hj
    · exact h.others j r' hr' hj

/-- Another one goes on. -/
theorem Exclusive.goOn_other (hi : s.holder ≠ some i)
    (hr : Bystander view G settled r) : Exclusive view G settled (s.goOn i r) where
  __ := h
  held j hj := by
    obtain ⟨r', hr', hheld⟩ := h.held j hj
    have hne : j ≠ i := fun he => hi (he ▸ hj)
    exact ⟨r', (update_of_ne hne ..).trans hr', hheld⟩
  others j r' hr' hj := by
    rcases Updates.update_eq_some hr' with ⟨-, rfl⟩ | ⟨-, hr'⟩
    · exact hr
    · exact h.others j r' hr' hj

theorem Exclusive.leave_holder (hi : s.holder = some i)
    (hsettled : settled (view store) s.outside) :
    Exclusive view G settled (s.leave i store) where
  kept := h.kept
  free _ := hsettled
  held j hj := by
    rw [Shared.leave, if_pos hi] at hj
    cases hj
  others j r hr _ := by
    obtain ⟨hne, hr⟩ := Updates.erase_eq_some hr
    exact h.others j r hr fun hj => hne (some.inj (hj.symm.trans hi))

theorem Exclusive.leave_other (hi : s.holder ≠ some i) (hview : view store = view s.store) :
    Exclusive view G settled (s.leave i store) where
  kept := h.kept
  free hfree := by
    rw [Shared.leave, if_neg hi] at hfree
    rw [Shared.leave, hview]
    exact h.free hfree
  held j hj := by
    rw [Shared.leave, if_neg hi] at hj
    obtain ⟨r, hr, hheld⟩ := h.held j hj
    have hne : j ≠ i := fun he => hi (he ▸ hj)
    exact ⟨r, (update_of_ne hne ..).trans hr, hheld.disturb hview⟩
  others j r hr hj := by
    rw [Shared.leave, if_neg hi] at hj
    obtain ⟨-, hr⟩ := Updates.erase_eq_some hr
    exact h.others j r hr hj

end

/-! ## What a step keeps -/

theorem Held.refused (h : Held view G settled store outside r) (hsilent : work.Silent)
    (hsettled : settled (view store) outside) :
    Held view G settled store outside ⟨work, r.writes, true⟩ where
  stable := h.stable
  guarded hbegun := by cases hbegun
  failed _ := ⟨hsilent, hsettled⟩

theorem Bystander.refused (h : Bystander view G settled r) (hsilent : work.Silent) :
    Bystander view G settled ⟨work, r.writes, true⟩ where
  unwritten := h.unwritten
  waits hbegun := by cases hbegun
  failed _ := hsilent

theorem Held.silent_lock
    (h : Held view G settled store outside ⟨.lock next, writes, aborted⟩) (e : ε) :
    (next (.error e)).Silent := by
  cases aborted with
  | true => exact (h.failed rfl).1 e
  | false => exact (h.guarded rfl).1 e

theorem Held.silent_query {ρ : Type} {f : σ → ρ × (σ → σ)} {next : Except ε ρ → Work σ ω ε α}
    (h : Held view G settled store outside ⟨.query f next, writes, aborted⟩) (e : ε) :
    (next (.error e)).Silent := by
  cases aborted with
  | true => exact (h.failed rfl).1 e
  | false => exact (h.guarded rfl).1 e

/-- A statement of the holder. -/
theorem Exclusive.issue_holder (h : Exclusive view G settled s) (hi : s.holder = some i)
    (hr : Held view G settled s.store s.outside r)
    (hharmless : refusal.isSome = true → settled (view s.store) s.outside)
    (hs : s.issue i r refusal = some s') : Exclusive view G settled s' := by
  obtain ⟨work, writes, aborted⟩ := r
  cases refusal with
  | some e =>
    have hsettled := hharmless rfl
    cases work with
    | lock next =>
      cases hs
      exact h.goOn_holder hi (hr.refused (hr.silent_lock e) hsettled)
    | query f next =>
      cases hs
      exact h.goOn_holder hi (hr.refused (hr.silent_query e) hsettled)
    | done | throw | act => cases hs
  | none =>
    cases aborted with
    | true =>
      cases work with
      | done | throw | lock | query | act => cases hs
    | false =>
      have hguarded := hr.guarded rfl
      cases work with
      | lock next =>
        have hheld : s.holder ≠ none := by
          rw [hi]
          exact some_ne_none i
        simp only [Shared.issue, if_neg hheld, Bool.false_eq_true, if_false] at hs
        cases hs
        exact h.goOn_holder hi ⟨hr.stable, fun _ => hguarded.2 false, fun haborted => by
          cases haborted⟩
      | query f next =>
        cases hs
        obtain ⟨hstable, hnext⟩ := hguarded.2 (writes s.store) rfl
        exact h.goOn_holder hi ⟨hstable.comp hr.stable, fun _ => hnext, fun haborted => by
          cases haborted⟩
      | done | throw | act => cases hs

/-- A statement fails in a transaction without the lock. -/
theorem Bystander.silent_lock (h : Bystander view G settled ⟨.lock next, writes, aborted⟩) (e : ε) :
    (next (.error e)).Silent := by
  cases aborted with
  | true => exact h.failed rfl e
  | false =>
    rcases h.waits rfl with hwaits | ⟨a, ha⟩
    · exact hwaits.1 e
    · cases ha

theorem Bystander.silent_query {ρ : Type} {f : σ → ρ × (σ → σ)} {next : Except ε ρ → Work σ ω ε α}
    (h : Bystander view G settled ⟨.query f next, writes, aborted⟩) (e : ε) :
    (next (.error e)).Silent := by
  cases aborted with
  | true => exact h.failed rfl e
  | false =>
    rcases h.waits rfl with hwaits | ⟨a, ha⟩
    · exact absurd hwaits id
    · cases ha

section

variable (h : Exclusive view G settled s)
include h

/-- A transaction gets the lock. -/
theorem Exclusive.lock (hfree : s.holder = none) (hunwritten : ∀ s, view (writes s) = view s)
    (hlocked : ∀ v o, settled v o → G o → work.Guarded view G (fun _ => settled) v o) :
    Exclusive view G settled { s.goOn i ⟨work, writes, false⟩ with holder := some i } := by
  have hheld : Held view G settled s.store s.outside ⟨work, writes, false⟩ := by
    refine ⟨fun a b hab => ?_, fun _ => ?_, fun haborted => by cases haborted⟩
    · rw [hunwritten, hunwritten, hab]
    · rw [hunwritten]
      exact hlocked _ _ (h.free hfree) h.kept
  refine ⟨h.kept, fun hnone => (by cases hnone), fun j hj => ?_, fun j r' hr' hj => ?_⟩
  · obtain rfl : i = j := some.inj hj
    exact ⟨_, update_self .., hheld⟩
  · rcases Updates.update_eq_some hr' with ⟨rfl, -⟩ | ⟨-, hr'⟩
    · exact absurd rfl hj
    · refine h.others j r' hr' fun hholds => ?_
      rw [hfree] at hholds
      cases hholds

/-- A statement of another transaction, which may get the lock. -/
theorem Exclusive.issue_other (hi : s.holder ≠ some i) (hr : Bystander view G settled r)
    (hs : s.issue i r refusal = some s') : Exclusive view G settled s' := by
  obtain ⟨work, writes, aborted⟩ := r
  cases refusal with
  | some e =>
    cases work with
    | lock next =>
      cases hs
      exact h.goOn_other hi (hr.refused (hr.silent_lock e))
    | query f next =>
      cases hs
      exact h.goOn_other hi (hr.refused (hr.silent_query e))
    | done | throw | act => cases hs
  | none =>
    cases aborted with
    | true =>
      cases work with
      | done | throw | lock | query | act => cases hs
    | false =>
      rcases hr.waits rfl with hwaits | ⟨a, ha⟩
      · cases work with
        | lock next =>
          obtain ⟨-, ⟨a, hdone⟩, hlocked⟩ := hwaits
          simp only [Shared.issue, Bool.false_eq_true, if_false] at hs
          split at hs
          · next hfree =>
            cases hs
            exact h.lock hfree hr.unwritten hlocked
          · cases hs
            rw [hdone]
            exact h.goOn_other hi ⟨hr.unwritten, fun _ => .inr ⟨a, rfl⟩, fun haborted => by
              cases haborted⟩
        | done | throw | query | act => exact absurd hwaits id
      · subst ha
        cases hs

/-- What the holder does outside. -/
theorem Exclusive.act_holder (hi : s.holder = some i) {γ : Type}
    {effect : ω → γ × ω} {next : γ → Work σ ω ε α}
    (hr : Held view G settled s.store s.outside ⟨.act effect next, writes, aborted⟩) :
    Exclusive view G settled
      { s.goOn i ⟨next (effect s.outside).1, writes, aborted⟩ with
        outside := (effect s.outside).2 } := by
  cases aborted with
  | true => exact absurd (hr.failed rfl).1 id
  | false =>
    obtain ⟨hkept, hnext⟩ := hr.guarded rfl
    refine ⟨hkept, fun hfree => ?_, fun j hj => ?_, fun j r' hr' hj => ?_⟩
    · exact absurd (hi.symm.trans hfree) (some_ne_none i)
    · obtain rfl : i = j := some.inj (hi.symm.trans hj)
      exact ⟨_, update_self .., hr.stable, fun _ => hnext, fun haborted => by
        cases haborted⟩
    · rcases Updates.update_eq_some hr' with ⟨rfl, -⟩ | ⟨-, hr'⟩
      · exact absurd hi hj
      · exact h.others j r' hr' hj

end

/-- A transaction without the lock does nothing outside. -/
theorem Bystander.work_ne_act (h : Bystander view G settled r) {γ : Type} {effect : ω → γ × ω}
    {next : γ → Work σ ω ε α} : r.work ≠ .act effect next := by
  intro hwork
  cases haborted : r.aborted with
  | true =>
    have hsilent := h.failed haborted
    rw [hwork] at hsilent
    exact hsilent
  | false =>
    rcases h.waits haborted with hwaits | ⟨a, ha⟩
    · rw [hwork] at hwaits
      exact hwaits
    · rw [hwork] at ha
      cases ha

/-- The holder has come to its end. -/
theorem Held.finished {committed : Bool} {a : α}
    (hr : Held view G settled s.store s.outside ⟨(.done a : Work σ ω ε α), writes, aborted⟩)
    (hharmless : (!committed) = true → settled (view s.store) s.outside) :
    settled (view (if committed ∧ ¬ aborted then writes s.store else s.store)) s.outside := by
  cases aborted with
  | true => exact absurd (hr.failed rfl).1 id
  | false =>
    cases committed with
    | true => exact hr.guarded rfl
    | false => exact hharmless rfl

theorem Held.thrown {e : ε}
    (hr : Held view G settled s.store s.outside ⟨(.throw e : Work σ ω ε α), writes, aborted⟩) :
    settled (view s.store) s.outside := by
  cases aborted with
  | true => exact (hr.failed rfl).2
  | false => exact absurd (hr.guarded rfl) id

/-- **A harmless step keeps the invariant.** -/
theorem Exclusive.step (h : Exclusive view G settled s) {event : Event ε}
    (hharmless : Harmless view settled s i event) (hs : s.step i event = some s') :
    Exclusive view G settled s' := by
  rw [Shared.step] at hs
  split at hs
  · cases hs
  next r hr =>
  by_cases hi : s.holder = some i
  · obtain ⟨r', hr', hheld⟩ := h.held i hi
    obtain rfl : r = r' := some.inj (hr.symm.trans hr')
    obtain ⟨work, writes, aborted⟩ := r
    cases event with
    | issue refusal => exact h.issue_holder hi hheld (hharmless hi) hs
    | act =>
      cases work with
      | act effect next =>
        cases hs
        exact h.act_holder hi hheld
      | done | throw | lock | query => cases hs
    | finish committed =>
      cases work with
      | done a =>
        cases hs
        exact h.leave_holder hi (hheld.finished (hharmless hi))
      | throw e =>
        cases hs
        exact h.leave_holder hi hheld.thrown
      | lock | query | act => cases hs
    | crash =>
      cases hs
      exact h.leave_holder hi (hharmless hi rfl)
  · have hother := h.others i r hr hi
    obtain ⟨work, writes, aborted⟩ := r
    cases event with
    | issue refusal => exact h.issue_other hi hother hs
    | act =>
      cases work with
      | act effect next => exact absurd rfl hother.work_ne_act
      | done | throw | lock | query => cases hs
    | finish committed =>
      cases work with
      | done a =>
        cases hs
        refine h.leave_other hi ?_
        split
        · exact hother.unwritten s.store
        · rfl
      | throw e =>
        cases hs
        exact h.leave_other hi rfl
      | lock | query | act => cases hs
    | crash =>
      cases hs
      exact h.leave_other hi rfl

end Invariant

end Transaction

