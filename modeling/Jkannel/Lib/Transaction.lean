import Mathlib.Tactic.Common

/-!
# Transactions, and effects that are outside of them

A transaction works on a store and is rolled back as a whole when its body fails.  What the body
does elsewhere, to a second store that is not part of the transaction, is not rolled back with it.

* `bind_eq_ok` takes a computation that succeeded apart.
* `Client` is a transaction in progress.  After one statement of it has failed the transaction is
  aborted: no statement goes through any more, and a commit keeps nothing.
* `transact` runs a body: on an error the store is what it was, and the outside is what the body
  left.
* `Script` is a body with a single effect outside, somewhere in the middle.

A failed script leaves the outside alone exactly when its effect, once it takes place, is
acknowledged and followed by nothing that fails (`Script.atomic_iff`).  So the effect has to come
last, and even then the acknowledgement can be lost.
-/

namespace Transaction

universe u v w x y

variable {σ : Type u} {ω : Type v} {ε : Type w} {α β : Type x} {γ : Type y}

/-- What a computation that succeeds went through. -/
theorem bind_eq_ok {x : Except ε α} {f : α → Except ε β} {b : β} (h : x >>= f = .ok b) :
    ∃ a, x = .ok a ∧ f a = .ok b := by
  cases x with
  | ok a => exact ⟨a, rfl, h⟩
  | error e => cases h

/-- A transaction in progress. -/
structure Client (σ : Type u) where
  /-- What the transaction sees: the store with its own writes. -/
  store : σ
  /-- A statement of the transaction has failed. -/
  aborted : Bool

/-- A client that has just begun. -/
def Client.begin (s : σ) : Client σ := ⟨s, false⟩

/-- What a commit leaves of a transaction on `s`. -/
def Client.commit (c : Client σ) (s : σ) : σ := if c.aborted then s else c.store

/-- Run a body in a transaction on `s`, beside an outside that is in state `o`. -/
def transact (body : Client σ → ω → Except ε (α × Client σ) × ω) (s : σ) (o : ω) :
    Except ε α × σ × ω :=
  match body (.begin s) o with
  | (.ok (a, c), o') => (.ok a, c.commit s, o')
  | (.error e, o') => (.error e, s, o')

/-- A failed transaction leaves its store alone. -/
theorem transact_error {body : Client σ → ω → Except ε (α × Client σ) × ω} {s : σ} {o : ω} {e : ε}
    (h : (transact body s o).1 = .error e) : (transact body s o).2.1 = s := by
  rw [transact] at h ⊢
  split at h
  · cases h
  · rfl

/-- A body with one effect on the outside in the middle of it. -/
structure Script (σ : Type u) (ω : Type v) (ε : Type w) (α β : Type x) (γ : Type y) where
  /-- What comes before the effect, and decides it. -/
  before : Client σ → Except ε (β × Client σ)
  /-- The effect: what the client sees of it, and what it leaves of the outside. -/
  effect : β → ω → Except ε γ × ω
  /-- What comes after. -/
  after : β → γ → Client σ → Except ε (α × Client σ)

namespace Script

variable (script : Script σ ω ε α β γ)

/-- The statements of a transaction. -/
def body (c : Client σ) (o : ω) : Except ε (α × Client σ) × ω :=
  match script.before c with
  | .error e => (.error e, o)
  | .ok (b, c) =>
    match script.effect b o with
    | (.error e, o') => (.error e, o')
    | (.ok g, o') => (script.after b g c, o')

/-- The effect takes place, is acknowledged, and nothing after it fails. -/
def Clean (b : β) (c : Client σ) (o : ω) : Prop :=
  ∃ g, (script.effect b o).1 = .ok g ∧ ∃ r, script.after b g c = .ok r

variable {script}

variable {s : σ} {o o' : ω} {e : ε} {b : β} {c : Client σ}

theorem transact_of_before_error (h : script.before (.begin s) = .error e) :
    transact script.body s o = (.error e, s, o) := by
  simp only [transact, body, h]

section

variable (h : script.before (.begin s) = .ok (b, c))
include h

theorem transact_of_effect_error (heffect : script.effect b o = (.error e, o')) :
    transact script.body s o = (.error e, s, o') := by
  simp only [transact, body, h, heffect]

theorem transact_of_after_error {g : γ}
    (heffect : script.effect b o = (.ok g, o')) (hafter : script.after b g c = .error e) :
    transact script.body s o = (.error e, s, o') := by
  simp only [transact, body, h, heffect, hafter]

theorem transact_of_after_ok {c' : Client σ} {g : γ} {a : α}
    (heffect : script.effect b o = (.ok g, o')) (hafter : script.after b g c = .ok (a, c')) :
    transact script.body s o = (.ok a, c'.commit s, o') := by
  simp only [transact, body, h, heffect, hafter]

/-- What a script leaves outside is what its effect leaves, when it comes to the effect. -/
theorem transact_outside :
    (transact script.body s o).2.2 = (script.effect b o).2 := by
  rcases heffect : script.effect b o with ⟨_ | g, o'⟩
  · rw [transact_of_effect_error h heffect]
  · rcases hafter : script.after b g c with _ | ⟨a, c'⟩
    · rw [transact_of_after_error h heffect hafter]
    · rw [transact_of_after_ok h heffect hafter]

/-- A script that comes to its effect succeeds exactly when the effect is acknowledged and nothing
after it fails. -/
theorem transact_ok_iff :
    (∃ a, (transact script.body s o).1 = .ok a) ↔ script.Clean b c o := by
  rw [Clean]
  rcases heffect : script.effect b o with ⟨_ | g, o'⟩
  · rw [transact_of_effect_error h heffect]
    simp
  · rcases hafter : script.after b g c with _ | ⟨a, c'⟩
    · rw [transact_of_after_error h heffect hafter]
      simp [hafter]
    · rw [transact_of_after_ok h heffect hafter]
      simp [hafter]

end

/-- **When a failed script leaves the outside alone**: exactly when an effect that changes the
outside is acknowledged and nothing after it fails. -/
theorem atomic_iff (s : σ) (o : ω) :
    (∀ e, (transact script.body s o).1 = .error e → (transact script.body s o).2.2 = o) ↔
      ∀ b c, script.before (.begin s) = .ok (b, c) → (script.effect b o).2 ≠ o →
        script.Clean b c o := by
  constructor
  · intro hatomic b c hbefore hchanged
    rw [← transact_ok_iff hbefore]
    cases hresult : (transact script.body s o).1 with
    | ok a => exact ⟨a, rfl⟩
    | error e =>
      have hsame := hatomic e hresult
      rw [transact_outside hbefore] at hsame
      exact absurd hsame hchanged
  · intro hclean e herror
    cases hbefore : script.before (.begin s) with
    | error e' => rw [transact_of_before_error hbefore]
    | ok p =>
      obtain ⟨b, c⟩ := p
      rw [transact_outside hbefore]
      by_contra hchanged
      obtain ⟨a, ha⟩ := (transact_ok_iff hbefore).mpr (hclean b c hbefore hchanged)
      rw [herror] at ha
      cases ha

end Script

end Transaction
