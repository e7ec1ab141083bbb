import Mathlib.Data.List.Find
import Jkannel.Routing.Selection

/-!
# What a route can come to as the rotation turns

The counter behind the rotating strategies is the service's own, so what matters about a route is
every bind some value of the counter leads to.

* `CanPick` says which these are, strategy by strategy: the cheapest bind of all the routes that
  matched, any reachable bind of the controlling route, or its primary with the fallback behind it.
* `canPick_iff` is that `chooseSmsc` picks those and no others.
-/

namespace Jkannel.Routing

open List

/-- The binds a strategy can come to, whatever the rotation. -/
def CanPick (env : TextEngine) (matched : List (CandidateRoute × Nat)) (controlling : CandidateRoute)
    (ctx : SelectionContext) (c : SmscCandidate) : Prop :=
  match controlling.strategy with
  | .leastCost => cheapest env matched ctx = some c
  | .roundRobin | .loadBalance => c ∈ reachable (routeCandidates controlling) ctx
  | .priority | .timeBased =>
    reachablePrimary controlling ctx = some c ∨
      (reachablePrimary controlling ctx = none ∧ reachableFallback controlling ctx = some c)

/-- The first of a route's candidates is its primary, and no other is. -/
theorem routeCandidates_primary (route : CandidateRoute) :
    routeCandidates route = [] ∨ ∃ c rest, routeCandidates route = c :: rest ∧ c.primary = true ∧
      ∀ d ∈ rest, d.primary = false := by
  unfold routeCandidates
  split
  · cases htargets : route.targets.filter fun t => t.enabled ∧ 0 < t.weight ∧ t.smscId ≠ "" with
    | nil => exact .inl rfl
    | cons target rest =>
      refine .inr ⟨_, _, rfl, rfl, fun d hd => ?_⟩
      obtain ⟨⟨t, i⟩, hmem, rfl⟩ := mem_map.mp hd
      have hi := (mem_zipIdx hmem).1
      exact beq_eq_false_iff_ne.mpr (by omega)
  · refine .inr ⟨_, _, rfl, rfl, fun d hd => ?_⟩
    obtain ⟨fallback, -, rfl⟩ := mem_map.mp hd
    rfl

/-- Preferring the primary is taking the first candidate that is up. -/
theorem head_reachable (route : CandidateRoute) (ctx : SelectionContext) :
    (reachable (routeCandidates route) ctx).head? =
      (reachablePrimary route ctx).or (reachableFallback route ctx) := by
  unfold reachable reachablePrimary reachableFallback
  rcases routeCandidates_primary route with hnil | ⟨c, rest, hcons, hc, hrest⟩
  · rw [hnil]
    rfl
  · rw [hcons, find?_cons_of_pos hc, Option.filter_some]
    by_cases hup : isAvailable c.smscId ctx
    · rw [if_pos hup, filter_cons, if_pos hup]
      rfl
    · rw [if_neg hup, filter_cons, if_neg hup, head?_filter, find?_cons,
        show (!c.primary && isAvailable c.smscId ctx) = false by rw [hc]; rfl, Option.none_or]
      refine find?_congr fun d hd => ?_
      rw [hrest d hd]
      rfl

variable {route : CandidateRoute}

theorem chooseSmsc_preferring (env : TextEngine) (matched : List (CandidateRoute × Nat))
    (ctx : SelectionContext) (h : route.strategy = .priority ∨ route.strategy = .timeBased) :
    (chooseSmsc env matched route ctx).1 = (reachable (routeCandidates route) ctx).head? := by
  rw [head_reachable]
  rcases h with h | h <;> simp only [chooseSmsc, h] <;> cases reachablePrimary route ctx <;> rfl

variable {c : SmscCandidate} {controlling : CandidateRoute} {ctx : SelectionContext}
  {matched : List (CandidateRoute × Nat)} {candidates : List SmscCandidate}

/-- Every bind a route can use has a weight. -/
theorem routeCandidates_weight (h : c ∈ routeCandidates route) :
    0 < c.weight := by
  rw [routeCandidates] at h
  split at h
  · obtain ⟨⟨target, i⟩, hmem, rfl⟩ := mem_map.mp h
    have htarget := fst_mem_of_mem_zipIdx hmem
    exact (of_decide_eq_true (mem_filter.mp htarget).2).2.1
  · rcases mem_cons.mp h with rfl | h
    · exact Int.one_pos
    · obtain ⟨fallback, -, rfl⟩ := mem_map.mp h
      exact Int.one_pos

/-- The positions of a list of candidates. -/
def totalWeight (candidates : List SmscCandidate) : Int :=
  (candidates.map fun c => max c.weight 0).sum

theorem totalWeight_cons (c : SmscCandidate) (candidates : List SmscCandidate) :
    totalWeight (c :: candidates) = max c.weight 0 + totalWeight candidates := by
  rw [totalWeight, map_cons, sum_cons, totalWeight]

theorem totalWeight_nonneg (candidates : List SmscCandidate) : 0 ≤ totalWeight candidates := by
  induction candidates with
  | nil => exact le_refl 0
  | cons c rest ih =>
    rw [totalWeight_cons]
    exact add_nonneg (le_max_right _ _) ih

/-- Every candidate with a weight has a position of its own. -/
theorem pickAt_surjective (hweight : ∀ c ∈ candidates, 0 < c.weight) (h : c ∈ candidates) :
    ∃ position, 0 ≤ position ∧ position < totalWeight candidates ∧
      pickAt candidates position = some c := by
  induction candidates with
  | nil => cases h
  | cons a rest ih =>
    have ha := hweight a mem_cons_self
    have hrest := totalWeight_nonneg rest
    rw [totalWeight_cons, max_eq_left ha.le]
    cases rest with
    | nil =>
      obtain rfl := mem_singleton.mp h
      exact ⟨0, le_refl _, by omega, rfl⟩
    | cons b rest =>
      rcases mem_cons.mp h with rfl | h
      · refine ⟨0, le_refl _, by omega, ?_⟩
        rw [pickAt]
        · rw [max_eq_left ha.le, if_pos (by omega)]
        · exact cons_ne_nil _ _
      · obtain ⟨position, hlow, hhigh, hpick⟩ :=
          ih (fun c hc => hweight c (mem_cons_of_mem _ hc)) h
        refine ⟨a.weight + position, by omega, by omega, ?_⟩
        rw [pickAt]
        · rw [max_eq_left ha.le, if_neg (by omega), add_sub_cancel_left, hpick]
        · exact cons_ne_nil _ _

/-- Every candidate with a weight has a turn. -/
theorem weightedPick_surjective (hweight : ∀ c ∈ candidates, 0 < c.weight) (h : c ∈ candidates) :
    ∃ rotation : Nat, weightedPick candidates rotation = some c := by
  obtain ⟨position, hlow, hhigh, hpick⟩ := pickAt_surjective hweight h
  refine ⟨position.toNat, ?_⟩
  have hpositive : ¬ totalWeight candidates ≤ 0 := by omega
  rw [totalWeight] at hpositive hhigh
  rw [weightedPick, if_neg hpositive, Int.toNat_of_nonneg hlow, Int.emod_eq_of_lt hlow hhigh, hpick]

theorem getElem?_mod_surjective {α : Type} {xs : List α} {x : α} (h : x ∈ xs) :
    ∃ rotation : Nat, xs[((rotation : Int) % xs.length).toNat]? = some x := by
  obtain ⟨i, hi, rfl⟩ := mem_iff_getElem.mp h
  refine ⟨i, ?_⟩
  rw [← Int.natCast_emod, Int.toNat_natCast, Nat.mod_eq_of_lt hi, getElem?_eq_getElem hi]

/-- The primary, and otherwise the fallback, whatever the rotation. -/
theorem priorityPick_iff :
    (reachablePrimary controlling ctx = some c ∨
        (reachablePrimary controlling ctx = none ∧ reachableFallback controlling ctx = some c)) ↔
      ∃ rotation : Nat,
        (match reachablePrimary controlling { ctx with rotation := rotation } with
        | some primary => (some primary, "primary target")
        | none => withReason (reachableFallback controlling { ctx with rotation := rotation })
            (fun _ => "primary unavailable, using fallback")
            "primary and fallback unavailable").1 = some c := by
  have hprimary : ∀ rotation, reachablePrimary controlling { ctx with rotation := rotation } =
      reachablePrimary controlling ctx := fun _ => rfl
  have hfallback : ∀ rotation, reachableFallback controlling { ctx with rotation := rotation } =
      reachableFallback controlling ctx := fun _ => rfl
  simp only [hprimary, hfallback, exists_const]
  cases reachablePrimary controlling ctx with
  | some primary => simp
  | none => simp [withReason]

/-- What a strategy comes to is what it can come to. -/
theorem canPick_of_chosen {env : TextEngine} {rotation : Int}
    (h : (chooseSmsc env matched controlling { ctx with rotation := rotation }).1 = some c) :
    CanPick env matched controlling ctx c := by
  rw [CanPick]
  cases hstrategy : controlling.strategy with
  | leastCost =>
    simp only [chooseSmsc, hstrategy, withReason] at h
    exact h
  | roundRobin =>
    simp only [chooseSmsc, hstrategy, withReason] at h
    exact mem_of_getElem? h
  | loadBalance =>
    simp only [chooseSmsc, hstrategy, withReason] at h
    exact weightedPick_mem h
  | priority | timeBased =>
    simp only [chooseSmsc, hstrategy] at h
    have hprimary : reachablePrimary controlling { ctx with rotation := rotation } =
        reachablePrimary controlling ctx := rfl
    have hfallback : reachableFallback controlling { ctx with rotation := rotation } =
        reachableFallback controlling ctx := rfl
    rw [hprimary, hfallback] at h
    cases hp : reachablePrimary controlling ctx with
    | some primary =>
      rw [hp] at h
      exact .inl h
    | none =>
      rw [hp] at h
      exact .inr ⟨rfl, h⟩

/-- **What a strategy can come to is what it comes to at some rotation.** -/
theorem canPick_iff {env : TextEngine} :
    CanPick env matched controlling ctx c ↔
      ∃ rotation : Nat,
        (chooseSmsc env matched controlling { ctx with rotation := rotation }).1 = some c := by
  refine ⟨fun h => ?_, fun h => h.elim fun _ h => canPick_of_chosen h⟩
  rw [CanPick] at h
  cases hstrategy : controlling.strategy with
  | leastCost =>
    rw [hstrategy] at h
    simp only [chooseSmsc, hstrategy, withReason]
    exact ⟨0, h⟩
  | roundRobin =>
    rw [hstrategy] at h
    simp only [chooseSmsc, hstrategy, withReason]
    exact getElem?_mod_surjective h
  | loadBalance =>
    rw [hstrategy] at h
    simp only [chooseSmsc, hstrategy, withReason]
    exact weightedPick_surjective
      (fun c hc => routeCandidates_weight (mem_of_mem_filter hc)) h
  | priority | timeBased =>
    rw [hstrategy] at h
    simp only [chooseSmsc, hstrategy]
    exact priorityPick_iff.mp h

end Jkannel.Routing
