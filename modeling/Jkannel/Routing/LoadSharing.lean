import Mathlib.Data.List.Perm.Subperm
import Mathlib.Data.List.Range
import Mathlib.Data.Int.ModEq
import Jkannel.Routing.SelectionSpec

/-!
# Shares of a rotating route

The rotating strategies index a row of positions by a counter: every reachable candidate has one
position under round-robin, and as many as it weighs under load-balance.  As many consecutive
rotations as there are positions meet each of them once, wherever the counter starts.

* `turns_perm` is the arithmetic: `n` consecutive numbers leave every remainder by `n` once.
* `pickAt_row` lays the positions out.
* `load_sharing` is the share of each candidate in what is selected.
-/

namespace Jkannel.Routing

open List

variable {env : TextEngine} {routes : List CandidateRoute} {ctx : SelectionContext}

/-! ## Remainders -/

/-- The positions `n` consecutive rotations come to. -/
def turns (n : Nat) (r : Int) : List Nat :=
  (List.range n).map fun (k : Nat) => ((r + k) % n).toNat

theorem turns_perm (n : Nat) (r : Int) : (turns n r).Perm (List.range n) := by
  have hn : ∀ {k : Nat}, k ∈ List.range n → 0 ≤ (r + k) % n ∧ (r + k) % n < n := by
    intro k hk
    have hpos : 0 < n := Nat.lt_of_le_of_lt (Nat.zero_le k) (mem_range.mp hk)
    exact ⟨Int.emod_nonneg _ (by omega), Int.emod_lt_of_pos _ (by omega)⟩
  have hnodup : (turns n r).Nodup := by
    refine List.Nodup.map_on ?_ nodup_range
    intro k hk l hl hsame
    have hmod : (r + k) % n = (r + l) % n := by
      have := hn hk
      have := hn hl
      omega
    have hkl : (k : Int) % n = l % n := Int.ModEq.add_left_cancel' r hmod
    rwa [Int.emod_eq_of_lt (by omega) (by exact_mod_cast mem_range.mp hk),
      Int.emod_eq_of_lt (by omega) (by exact_mod_cast mem_range.mp hl), Int.natCast_inj] at hkl
  have hsubset : turns n r ⊆ List.range n := by
    intro i hi
    obtain ⟨k, hk, rfl⟩ := mem_map.mp hi
    have := hn hk
    exact mem_range.mpr (by omega)
  refine (hnodup.subperm hsubset).perm_of_length_le ?_
  rw [turns, length_map]

/-! ## Positions -/

/-- The candidates in a row, each as often as it weighs. -/
def row (candidates : List SmscCandidate) : List SmscCandidate :=
  candidates.flatMap fun c => List.replicate c.weight.toNat c

variable {candidates : List SmscCandidate}

theorem row_length (h : ∀ c ∈ candidates, 0 < c.weight) :
    ((row candidates).length : Int) = totalWeight candidates := by
  induction candidates with
  | nil => rfl
  | cons a rest ih =>
    have ha := h a mem_cons_self
    rw [totalWeight_cons, ← ih fun c hc => h c (mem_cons_of_mem a hc), row, flatMap_cons,
      length_append, length_replicate, max_eq_left ha.le]
    push_cast
    rw [Int.toNat_of_nonneg ha.le]
    rfl

/-- A position falls on the candidate that is there in the row. -/
theorem pickAt_row (h : ∀ c ∈ candidates, 0 < c.weight) {i : Nat}
    (hi : i < (row candidates).length) : pickAt candidates i = (row candidates)[i]? := by
  induction candidates generalizing i with
  | nil => simp [row] at hi
  | cons a rest ih =>
    have ha := h a mem_cons_self
    have hrow : row (a :: rest) = List.replicate a.weight.toNat a ++ row rest := flatMap_cons
    have hhere : i < a.weight.toNat → (row (a :: rest))[i]? = some a := by
      intro hlt
      rw [hrow, getElem?_append_left (by rwa [length_replicate]),
        getElem?_replicate_of_lt hlt]
    cases rest with
    | nil =>
      have hlt : i < a.weight.toNat := by simpa [row] using hi
      rw [hhere hlt]
      rfl
    | cons b rest =>
      rw [pickAt, max_eq_left ha.le]
      · split
        · exact (hhere (by omega)).symm
        · next hpast =>
          have hle : a.weight.toNat ≤ i := by omega
          rw [hrow, length_append, length_replicate] at hi
          rw [hrow, getElem?_append_right (by rwa [length_replicate]),
            length_replicate, ← ih (fun c hc => h c (mem_cons_of_mem a hc)) (by omega)]
          congr 1
          omega
      · exact cons_ne_nil b rest

theorem map_getElem?_range {α : Type} (l : List α) :
    (List.range l.length).map (fun i => l[i]?) = l.map some := by
  refine ext_getElem (by simp) fun i hi hi' => ?_
  simp at hi'
  simp [hi']

/-- The pick of a rotation is its turn in the row. -/
theorem weightedPick_row (h : ∀ c ∈ candidates, 0 < c.weight) (r : Int) :
    weightedPick candidates r = (row candidates)[(r % (row candidates).length).toNat]? := by
  have hlength := row_length h
  rw [weightedPick, ← totalWeight]
  split
  · next hnone =>
    cases candidates with
    | nil => rfl
    | cons c rest =>
      have hpositive := h c mem_cons_self
      have hrest := totalWeight_nonneg rest
      rw [totalWeight_cons] at hnone
      omega
  · have hlow : 0 ≤ r % ((row candidates).length : Int) := Int.emod_nonneg _ (by omega)
    have hhigh : r % ((row candidates).length : Int) < (row candidates).length :=
      Int.emod_lt_of_pos _ (by omega)
    rw [← pickAt_row h (by omega), Int.toNat_of_nonneg hlow, hlength]

/-- **Each candidate has its weight's share of the rotations.** -/
theorem weightedPick_shares (h : ∀ c ∈ candidates, 0 < c.weight) (r : Int) :
    ((List.range (totalWeight candidates).toNat).map
      fun (k : Nat) => weightedPick candidates (r + k)).Perm ((row candidates).map some) := by
  have hn : (totalWeight candidates).toNat = (row candidates).length := by
    rw [← row_length h, Int.toNat_natCast]
  have hpick : (List.range (totalWeight candidates).toNat).map
      (fun (k : Nat) => weightedPick candidates (r + k)) =
        (turns (row candidates).length r).map fun i => (row candidates)[i]? := by
    rw [turns, hn, map_map]
    exact map_congr_left fun k _ => weightedPick_row h (r + k)
  rw [hpick, ← map_getElem?_range]
  exact (turns_perm _ r).map _

theorem turn_shares {α : Type} (l : List α) (r : Int) :
    ((List.range l.length).map fun (k : Nat) => l[((r + k) % l.length).toNat]?).Perm
      (l.map some) := by
  rw [← map_getElem?_range]
  have := (turns_perm l.length r).map fun i => l[i]?
  rwa [turns, map_map] at this

/-! ## Selections -/

/-- What is selected at a rotation, under a controlling route. -/
theorem smscId_of_matched {controlling : CandidateRoute} {specificity : Nat}
    {rest : List (CandidateRoute × Nat)} (hdigits : digitsOnly (some ctx.msisdn) ≠ "")
    (hmatched : matchedRoutes env routes ctx = (controlling, specificity) :: rest) (rotation : Int) :
    (selectRoute env routes { ctx with rotation := rotation }).smscId =
      (chooseSmsc env ((controlling, specificity) :: rest) controlling
        { ctx with rotation := rotation }).1.map SmscCandidate.smscId := by
  have hmatched' : matchedRoutes env routes { ctx with rotation := rotation } =
      (controlling, specificity) :: rest := hmatched
  have hdigits' : digitsOnly (some { ctx with rotation := rotation }.msisdn) ≠ "" := hdigits
  obtain ⟨trace, heq⟩ := selectRoute_of_matched hdigits' hmatched'
  rw [heq]
  rfl

/-- **Load sharing is exact**: from any rotation on, as many rotations as the reachable candidates
weigh select each of them as often as it weighs, and as many as there are candidates select each of
them once when they take turns. -/
theorem load_sharing {controlling : CandidateRoute} {specificity : Nat}
    {rest : List (CandidateRoute × Nat)} (hdigits : digitsOnly (some ctx.msisdn) ≠ "")
    (hmatched : matchedRoutes env routes ctx = (controlling, specificity) :: rest) (r : Int) :
    (controlling.strategy = .loadBalance →
      ((List.range (totalWeight (reachable (routeCandidates controlling) ctx)).toNat).map
        fun (k : Nat) => (selectRoute env routes { ctx with rotation := r + k }).smscId).Perm
          ((reachable (routeCandidates controlling) ctx).flatMap
            fun c => List.replicate c.weight.toNat (some c.smscId))) ∧
    (controlling.strategy = .roundRobin →
      ((List.range (reachable (routeCandidates controlling) ctx).length).map
        fun (k : Nat) => (selectRoute env routes { ctx with rotation := r + k }).smscId).Perm
          ((reachable (routeCandidates controlling) ctx).map fun c => some c.smscId)) := by
  constructor
  · intro hstrategy
    have hweight : ∀ c ∈ reachable (routeCandidates controlling) ctx, 0 < c.weight :=
      fun c hc => routeCandidates_weight (mem_of_mem_filter hc)
    have hshares := (weightedPick_shares hweight r).map (Option.map SmscCandidate.smscId)
    rw [map_map, map_map, row, map_flatMap] at hshares
    simp only [map_replicate, Function.comp_apply, Option.map_some] at hshares
    refine List.Perm.trans (List.Perm.of_eq (map_congr_left fun k _ => ?_)) hshares
    rw [smscId_of_matched hdigits hmatched]
    simp only [chooseSmsc, hstrategy, withReason, Function.comp_apply]
    rfl
  · intro hstrategy
    have hshares := (turn_shares (reachable (routeCandidates controlling) ctx) r).map
      (Option.map SmscCandidate.smscId)
    rw [map_map, map_map] at hshares
    refine List.Perm.trans (List.Perm.of_eq (map_congr_left fun k _ => ?_)) hshares
    rw [smscId_of_matched hdigits hmatched]
    simp only [chooseSmsc, hstrategy, withReason, inTurn, Function.comp_apply]
    rfl

/-- From rotation -1 on, two rotations select both binds. -/
theorem load_sharing_uganda :
    ((List.range 2).map fun (k : Nat) =>
      (selectRoute .ascii [toUganda] { kampala 0 with rotation := -1 + k }).smscId).Perm
        [some "smsc-a", some "smsc-b"] := by
  have hmatched : matchedRoutes .ascii [toUganda] (kampala 0) = [(toUganda, 3)] := by
    decide +kernel
  exact (load_sharing (by decide +kernel) hmatched (-1)).2 rfl

end Jkannel.Routing
