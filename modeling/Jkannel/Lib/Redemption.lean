import Mathlib.Data.List.Count
import Mathlib.Data.List.Nodup

/-!
# Credentials that are good for one use

A credential is looked up, takes effect, and is marked used, by statements that anything can come
between.  Some redeemers mark it before it takes effect, some after.

* `Phase` is how far a redemption has got, `Fresh` a credential that is unmarked and that no
  redemption has used without marking it yet.
* `Once` is the invariant: no credential has taken effect twice, counting the redemptions that have
  marked theirs and are about to use it, and one that has is not fresh.
* `Once.act`, `Once.mark`, `Once.burn` and `Once.letIn` are the steps.  A redemption that acts, or
  that marks first, needs its credential to be fresh at that moment, whatever the look-up said.

Marks are a predicate here, so that a table of any shape can carry them.  `Sound` is the same for
credentials that are the rows of a list, by their places.
-/

namespace Redemption

open List

variable {K : Type} [DecidableEq K]

/-- How far a redemption has got, that failed, has ended, or deals with a credential. -/
inductive Phase (K : Type) where
  | idle
  | looked (k : K)
  /-- It took effect, and is to be marked. -/
  | acted (k : K)
  /-- It is marked, and is to take effect. -/
  | marked (k : K)
  deriving DecidableEq

/-- The credential that a redemption has found good, and has not used yet. -/
def Phase.looking : Phase K → Option K
  | .looked k => some k
  | _ => none

/-- The times a credential has taken effect, or is certain to. -/
def taken (calls : List (Phase K)) (effects : List K) (k : K) : Nat :=
  effects.count k + calls.count (.marked k)

/-- A credential that is not marked, and that nobody has used and has still to mark. -/
def Fresh (used : K → Bool) (calls : List (Phase K)) (k : K) : Prop :=
  used k = false ∧ .acted k ∉ calls

instance (used : K → Bool) (calls : List (Phase K)) (k : K) : Decidable (Fresh used calls k) :=
  inferInstanceAs (Decidable (_ ∧ _))

/-- No key is redeemed twice. -/
structure Once (used : K → Bool) (calls : List (Phase K)) (effects : List K) : Prop where
  once : ∀ k, taken calls effects k ≤ 1
  known : ∀ k, taken calls effects k ≠ 0 → ¬ Fresh used calls k

variable {used used' : K → Bool} {calls calls' : List (Phase K)} {effects effects' : List K}
  {i : Nat} {k : K}

theorem once_nil (used : K → Bool) : Once used [] [] :=
  ⟨fun _ => Nat.zero_le 1, fun _ h => absurd rfl h⟩

theorem Once.nodup (h : Once used calls effects) : effects.Nodup :=
  nodup_iff_count_le_one.mpr fun k => Nat.le_trans (Nat.le_add_right ..) (h.once k)

/-- **The rule.**  A step takes a credential only while it is fresh, and then it is not; and what it
does not take it does not freshen. -/
theorem Once.step (h : Once used calls effects)
    (hstep : ∀ k, (taken calls' effects' k = taken calls effects k ∧
        (Fresh used' calls' k → Fresh used calls k)) ∨
      (taken calls' effects' k = taken calls effects k + 1 ∧ Fresh used calls k ∧
        ¬ Fresh used' calls' k)) : Once used' calls' effects' := by
  refine ⟨fun k => ?_, fun k hk hfresh => ?_⟩
  · rcases hstep k with ⟨he, -⟩ | ⟨he, hfresh, -⟩
    · rw [he]
      exact h.once k
    · have hzero : taken calls effects k = 0 := by
        by_contra hne
        exact h.known k hne hfresh
      omega
  · rcases hstep k with ⟨he, hold⟩ | ⟨-, -, hnot⟩
    · exact h.known k (he ▸ hk) (hold hfresh)
    · exact hnot hfresh

/-! ## Counting -/

variable {p q : Phase K}

theorem count_set_marked (hi : calls[i]? = some p) (q : Phase K) (k : K) :
    (calls.set i q).count (.marked k) + (if p = .marked k then 1 else 0) =
      calls.count (.marked k) + if q = .marked k then 1 else 0 := by
  obtain ⟨hlt, rfl⟩ := List.getElem?_eq_some_iff.mp hi
  have hpos : calls[i] = .marked k → 0 < calls.count (.marked k) := fun he =>
    count_pos_iff.mpr (he ▸ getElem_mem hlt)
  simp only [count_set hlt, beq_iff_eq]
  split
  · rename_i he
    have := hpos he
    omega
  · omega

omit [DecidableEq K] in
theorem mem_set_of_mem_of_ne {r : Phase K} (hi : calls[i]? = some p) (hr : r ∈ calls)
    (hne : r ≠ p) : r ∈ calls.set i q := by
  obtain ⟨j, hj⟩ := mem_iff_getElem?.mp hr
  refine mem_iff_getElem?.mpr ⟨j, ?_⟩
  rw [getElem?_set_ne, hj]
  rintro rfl
  exact hne (Option.some.inj (hj.symm.trans hi))

omit [DecidableEq K] in
/-- A step that keeps marks, and moves one redemption that had not acted on this credential, does
not freshen it. -/
theorem Fresh.of_set (hi : calls[i]? = some p) (hp : p ≠ .acted k) (hused : used k → used' k)
    (h : Fresh used' (calls.set i q) k) : Fresh used calls k := by
  refine ⟨?_, fun hmem => h.2 (mem_set_of_mem_of_ne hi hmem hp.symm)⟩
  cases hu : used k with
  | false => rfl
  | true => exact absurd (hused hu) (by rw [h.1]; exact Bool.false_ne_true)

/-! ## The steps -/

/-- More marks do no harm. -/
theorem Once.mono (h : Once used calls effects) (hused : ∀ k, used k → used' k) :
    Once used' calls effects :=
  h.step fun k => .inl ⟨rfl, fun hf => ⟨by
    cases hu : used k with
    | false => rfl
    | true => exact absurd (hused k hu) (by rw [hf.1]; exact Bool.false_ne_true), hf.2⟩⟩

/-- A redemption begins. -/
theorem Once.look (h : Once used calls effects) (k : K) :
    Once used (calls ++ [.looked k]) effects :=
  h.step fun k' => .inl ⟨by
    unfold taken
    rw [count_append, count_singleton]
    rfl, fun hf => ⟨hf.1, fun hmem => hf.2 (mem_append_left _ hmem)⟩⟩

theorem taken_set_of_ne (hi : calls[i]? = some p) (hp : p ≠ .marked k) (hq : q ≠ .marked k) :
    taken (calls.set i q) effects k = taken calls effects k := by
  have hcount := count_set_marked hi q k
  rw [if_neg hp, if_neg hq] at hcount
  unfold taken
  omega

section

variable (h : Once used calls effects)
include h

/-- **A fresh credential takes effect**, and is not fresh any more. -/
theorem Once.act (hi : calls[i]? = some (.looked k))
    (hfresh : Fresh used calls k) : Once used (calls.set i (.acted k)) (effects ++ [k]) := by
  obtain ⟨hlt, -⟩ := List.getElem?_eq_some_iff.mp hi
  refine h.step fun k' => ?_
  have hset : taken (calls.set i (.acted k)) (effects ++ [k]) k' =
      taken calls effects k' + if k = k' then 1 else 0 := by
    have hsame : taken (calls.set i (.acted k)) (effects ++ [k]) k' =
        taken calls (effects ++ [k]) k' :=
      taken_set_of_ne hi (fun he => by cases he) (fun he => by cases he)
    rw [hsame]
    unfold taken
    rw [count_append, count_singleton]
    simp only [beq_iff_eq]
    omega
  by_cases hk : k = k'
  · subst hk
    refine .inr ⟨by rw [hset, if_pos rfl], hfresh, fun hf => hf.2 ?_⟩
    exact List.mem_set hlt _
  · refine .inl ⟨by rw [hset, if_neg hk]; rfl, ?_⟩
    exact Fresh.of_set hi (fun he => by cases he) id

/-- It is marked. -/
theorem Once.mark (hi : calls[i]? = some (.acted k))
    (hused : ∀ k, used k → used' k) (hk : used' k) : Once used' (calls.set i .idle) effects := by
  refine h.step fun k' => .inl ⟨?_, fun hf => ?_⟩
  · exact taken_set_of_ne hi (fun he => by cases he) (fun he => by cases he)
  · have hne : Phase.acted k ≠ .acted k' := fun he => by
      obtain rfl := Phase.acted.inj he
      rw [hf.1] at hk
      cases hk
    exact Fresh.of_set hi hne (hused k') hf

/-- **A fresh credential is marked**, by a redemption that is to use it now. -/
theorem Once.burn (hi : calls[i]? = some (.looked k))
    (hfresh : Fresh used calls k) (hused : ∀ k, used k → used' k) (hk : used' k) :
    Once used' (calls.set i (.marked k)) effects := by
  refine h.step fun k' => ?_
  have hcount := count_set_marked hi (.marked k) k'
  rw [if_neg (fun he => by cases he)] at hcount
  by_cases hne : k = k'
  · subst hne
    rw [if_pos rfl] at hcount
    refine .inr ⟨?_, hfresh, fun hf => ?_⟩
    · unfold taken
      omega
    · rw [hf.1] at hk
      cases hk
  · rw [if_neg fun he => hne (Phase.marked.inj he)] at hcount
    refine .inl ⟨?_, Fresh.of_set hi (fun he => by cases he) (hused k')⟩
    unfold taken
    omega

/-- It takes effect. -/
theorem Once.letIn (hi : calls[i]? = some (.marked k)) :
    Once used (calls.set i .idle) (effects ++ [k]) := by
  refine h.step fun k' => .inl ⟨?_, Fresh.of_set hi (fun he => by cases he) id⟩
  have hcount := count_set_marked hi .idle k'
  rw [if_neg (c := Phase.idle = .marked k') (fun he => by cases he)] at hcount
  unfold taken
  rw [count_append, count_singleton]
  by_cases hne : k = k'
  · subst hne
    rw [if_pos rfl] at hcount
    simp only [beq_self_eq_true, if_true]
    omega
  · rw [if_neg fun he => hne (Phase.marked.inj he)] at hcount
    simp only [beq_iff_eq, if_neg hne]
    omega

end

/-! ## Marks in a table

Credentials that are rows of a list, by their places.
-/

section Table

variable {R : Type} {p : R → Bool} {rows more : List R} {f : R → R} {k k' : Nat}
  {calls : List (Phase Nat)}

def markedIn (p : R → Bool) (rows : List R) (k : Nat) : Bool := rows[k]?.any p

theorem markedIn_append (h : markedIn p rows k) : markedIn p (rows ++ more) k := by
  obtain ⟨row, hrow, hp⟩ := (Option.any_eq_true ..).mp h
  obtain ⟨hlt, -⟩ := List.getElem?_eq_some_iff.mp hrow
  refine (Option.any_eq_true ..).mpr ⟨row, ?_, hp⟩
  rw [getElem?_append_left hlt, hrow]

theorem markedIn_modify (hf : ∀ row, p row → p (f row)) (h : markedIn p rows k) :
    markedIn p (rows.modify k' f) k := by
  obtain ⟨row, hrow, hp⟩ := (Option.any_eq_true ..).mp h
  refine (Option.any_eq_true ..).mpr ?_
  rw [getElem?_modify, hrow]
  by_cases hk : k' = k
  · exact ⟨f row, by simp only [hk, if_true, Option.map_eq_map, Option.map_some], hf row hp⟩
  · exact ⟨row, by simp only [hk, if_false, Option.map_eq_map, Option.map_some], hp⟩

theorem markedIn_modify_self (hlt : k < rows.length) (hf : ∀ row, p (f row)) :
    markedIn p (rows.modify k f) k := by
  refine (Option.any_eq_true ..).mpr ⟨f rows[k], ?_, hf _⟩
  simp only [getElem?_modify, getElem?_eq_getElem hlt, if_true, Option.map_eq_map, Option.map_some]

theorem markedIn_map (hf : ∀ row, p row → p (f row)) (h : markedIn p rows k) :
    markedIn p (rows.map f) k := by
  obtain ⟨row, hrow, hp⟩ := (Option.any_eq_true ..).mp h
  refine (Option.any_eq_true ..).mpr ⟨f row, ?_, hf row hp⟩
  rw [getElem?_map, hrow]
  rfl

/-- The credentials that redemptions have still to deal with are rows of the table. -/
def Within (n : Nat) (calls : List (Phase Nat)) : Prop :=
  ∀ q ∈ calls, ∀ k, q = .looked k ∨ q = .acted k → k < n

theorem Within.mono {n m : Nat} (h : Within n calls) (hle : n ≤ m) :
    Within m calls :=
  fun q hq k hk => Nat.lt_of_lt_of_le (h q hq k hk) hle

theorem Within.look {n : Nat} (h : Within n calls) (hlt : k < n) :
    Within n (calls ++ [.looked k]) := by
  intro q hq j hj
  rcases mem_append.mp hq with hq | hq
  · exact h q hq j hj
  · obtain rfl := mem_singleton.mp hq
    rcases hj with hj | hj
    · exact Phase.looked.inj hj ▸ hlt
    · cases hj

theorem Within.set {n i : Nat} (h : Within n calls) {q : Phase Nat}
    (hq : ∀ k, q = .looked k ∨ q = .acted k → k < n) : Within n (calls.set i q) := by
  intro q' hq' j hj
  rcases mem_or_eq_of_mem_set hq' with hq' | rfl
  · exact h q' hq' j hj
  · exact hq j hj

/-- **A table of credentials and its redemptions**, in order. -/
structure Sound (p : R → Bool) (rows : List R) (calls : List (Phase Nat)) (effects : List Nat) :
    Prop where
  once : Once (markedIn p rows) calls effects
  within : Within rows.length calls

variable {effects : List Nat}

theorem sound_nil (p : R → Bool) : Sound p [] [] [] := ⟨once_nil _, fun _ h => (by cases h)⟩

section

variable (h : Sound p rows calls effects)
include h

theorem Sound.append (more : List R) :
    Sound p (rows ++ more) calls effects :=
  ⟨h.once.mono fun _ => markedIn_append,
    h.within.mono (by rw [length_append]; exact Nat.le_add_right ..)⟩

theorem Sound.map (hf : ∀ row, p row → p (f row)) :
    Sound p (rows.map f) calls effects :=
  ⟨h.once.mono fun _ => markedIn_map hf, by rw [length_map]; exact h.within⟩

theorem Sound.look (hlt : k < rows.length) :
    Sound p rows (calls ++ [.looked k]) effects :=
  ⟨h.once.look k, h.within.look hlt⟩

/-- A redemption ends without having done anything. -/
theorem Sound.drop (hi : calls[i]? = some (.looked k)) :
    Sound p rows (calls.set i .idle) effects := by
  refine ⟨h.once.step fun k' => .inl ⟨?_, ?_⟩, h.within.set fun j hj => ?_⟩
  · exact taken_set_of_ne hi (fun he => by cases he) (fun he => by cases he)
  · exact Fresh.of_set hi (fun he => by cases he) id
  · rcases hj with hj | hj <;> cases hj

theorem Sound.act (hi : calls[i]? = some (.looked k)) (hfresh : Fresh (markedIn p rows) calls k) :
    Sound p rows (calls.set i (.acted k)) (effects ++ [k]) := by
  refine ⟨h.once.act hi hfresh, h.within.set fun j hj => ?_⟩
  rcases hj with hj | hj
  · cases hj
  · cases hj
    exact h.within _ (mem_of_getElem? hi) k (.inl rfl)

theorem Sound.mark (hi : calls[i]? = some (.acted k))
    (hf : ∀ row, p (f row)) : Sound p (rows.modify k f) (calls.set i .idle) effects := by
  have hlt := h.within _ (mem_of_getElem? hi) k (.inr rfl)
  refine ⟨h.once.mark hi (fun _ => markedIn_modify fun row _ => hf row) (markedIn_modify_self hlt hf),
    ?_⟩
  rw [length_modify]
  refine h.within.set fun j hj => ?_
  rcases hj with hj | hj <;> cases hj

theorem Sound.burn (hi : calls[i]? = some (.looked k))
    (hfresh : Fresh (markedIn p rows) calls k) (hf : ∀ row, p (f row)) :
    Sound p (rows.modify k f) (calls.set i (.marked k)) effects := by
  have hlt := h.within _ (mem_of_getElem? hi) k (.inl rfl)
  refine ⟨h.once.burn hi hfresh (fun _ => markedIn_modify fun row _ => hf row)
    (markedIn_modify_self hlt hf), ?_⟩
  rw [length_modify]
  refine h.within.set fun j hj => ?_
  rcases hj with hj | hj <;> cases hj

theorem Sound.letIn (hi : calls[i]? = some (.marked k)) :
    Sound p rows (calls.set i .idle) (effects ++ [k]) := by
  refine ⟨h.once.letIn hi, h.within.set fun j hj => ?_⟩
  rcases hj with hj | hj <;> cases hj

end

end Table

end Redemption
