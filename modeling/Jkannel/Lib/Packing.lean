import Mathlib.Algebra.Ring.Nat
import Mathlib.Data.List.Forall2
import Mathlib.Order.Bounds.Basic

/-!
# Greedy packing in order

Items with a cost are put, in the order they come in, into groups of a bounded capacity.  The greedy
walk puts an item into the group at hand as long as it fits, and opens another group otherwise.

* `tally` is the walk, of which only the number of groups and the load of the last one are kept, and
  `fill` the same walk with its groups (`foldl_fill`).
* `Packs` says what a packing is: consecutive groups, none beyond the capacity.
* The walk stays ahead: between two tallies the order `Tally.Le` is kept by every item
  (`Tally.Le.add`), so a walk over more items, or dearer ones, is not shorter (`tally_mono`).
* `isLeast_tally` is that no packing has fewer groups, and `tally_le_tally` compares two walks over
  the same items at different prices.
-/

namespace Packing

open List

/-! ## The walk -/

/-- How far a packing has got: its groups, and what the last of them holds. -/
structure Tally where
  groups : ℕ
  used : ℕ

/-- One more item, into the last group or into one of its own. -/
def Tally.add (capacity : ℕ) (s : Tally) (cost : ℕ) : Tally :=
  if capacity < s.used + cost then ⟨s.groups + 1, cost⟩ else ⟨s.groups, s.used + cost⟩

/-- The greedy walk over the costs of the items, from one empty group. -/
def tally (capacity : ℕ) (costs : List ℕ) : Tally := costs.foldl (Tally.add capacity) ⟨1, 0⟩

/-- Fewer groups, or as many and no more in the last. -/
def Tally.Le (s t : Tally) : Prop := s.groups < t.groups ∨ s.groups = t.groups ∧ s.used ≤ t.used

theorem Tally.Le.refl (s : Tally) : s.Le s := .inr ⟨rfl, le_rfl⟩

theorem Tally.Le.trans {s t u : Tally} (h : s.Le t) (h' : t.Le u) : s.Le u := by
  unfold Tally.Le at *
  omega

theorem Tally.Le.groups {s t : Tally} (h : s.Le t) : s.groups ≤ t.groups := by
  unfold Tally.Le at h
  omega

variable {capacity : ℕ} {s t : Tally} {costs costs' : List ℕ}

theorem Tally.add_of_fits {n used c : ℕ} (h : used + c ≤ capacity) :
    (⟨n, used⟩ : Tally).add capacity c = ⟨n, used + c⟩ := if_neg (Nat.not_lt.mpr h)

/-- A walk that is behind stays behind, also when its items are dearer. -/
theorem Tally.Le.add (h : s.Le t) {c d : ℕ} (hcost : c ≤ d) :
    (s.add capacity c).Le (t.add capacity d) := by
  unfold Tally.Le at *
  unfold Tally.add
  split <;> split <;> simp only [] <;> omega

theorem Tally.le_add (s : Tally) (c : ℕ) : s.Le (s.add capacity c) := by
  unfold Tally.Le Tally.add
  split <;> simp

theorem Tally.groups_add (s : Tally) (c : ℕ) : (s.add capacity c).groups ≤ s.groups + 1 := by
  unfold Tally.add
  split <;> simp

theorem Tally.Le.foldl (h : s.Le t) (hcosts : List.Forall₂ (· ≤ ·) costs costs') :
    (costs.foldl (Tally.add capacity) s).Le (costs'.foldl (Tally.add capacity) t) := by
  induction hcosts generalizing s t with
  | nil => exact h
  | cons hcost _ ih => exact ih (h.add hcost)

theorem Tally.le_foldl (s : Tally) (costs : List ℕ) :
    s.Le (costs.foldl (Tally.add capacity) s) := by
  induction costs generalizing s with
  | nil => exact Tally.Le.refl s
  | cons c costs ih => exact (s.le_add c).trans (ih _)

/-- **A walk over dearer items, or over more of them, is not shorter.** -/
theorem tally_mono (hcosts : List.Forall₂ (· ≤ ·) costs costs') (more : List ℕ) :
    (tally capacity costs).groups ≤ (tally capacity (costs' ++ more)).groups := by
  rw [tally, tally, foldl_append]
  exact (((Tally.Le.refl _).foldl hcosts).trans (Tally.le_foldl _ more)).groups

theorem groups_foldl_le (s : Tally) (costs : List ℕ) :
    (costs.foldl (Tally.add capacity) s).groups ≤ s.groups + costs.length := by
  induction costs generalizing s with
  | nil => exact le_rfl
  | cons c costs ih =>
    have hfirst : (s.add capacity c).groups ≤ s.groups + 1 := s.groups_add c
    have hrest := ih (s.add capacity c)
    rw [foldl_cons, length_cons]
    omega

/-- An item opens one group at most. -/
theorem tally_le_length (capacity : ℕ) (costs : List ℕ) :
    (tally capacity costs).groups ≤ 1 + costs.length :=
  groups_foldl_le _ costs

section Groups

variable {α : Type} {cost cost' : α → ℕ} {items group : List α} {groups : List (List α)}

/-- What a group holds. -/
def load (cost : α → ℕ) (group : List α) : ℕ := (group.map cost).sum

/-- The items in consecutive groups, none beyond the capacity. -/
structure Packs (cost : α → ℕ) (capacity : ℕ) (items : List α) (groups : List (List α)) : Prop where
  flatten : groups.flatten = items
  fits : ∀ g ∈ groups, load cost g ≤ capacity

/-- The groups of the greedy walk that has `group` at hand. -/
def fill (cost : α → ℕ) (capacity : ℕ) : List α → List α → List (List α)
  | group, [] => [group]
  | group, a :: items =>
    if capacity < load cost group + cost a then group :: fill cost capacity [a] items
    else fill cost capacity (group ++ [a]) items

theorem load_concat (group : List α) (a : α) :
    load cost (group ++ [a]) = load cost group + cost a := by
  simp [load]

theorem load_singleton (a : α) : load cost [a] = cost a := by simp [load]

/-- **The walk and its groups**: as many as were counted, and the last one holds what the tally
says. -/
theorem foldl_fill (cost : α → ℕ) (capacity : ℕ) (items group : List α) (n : ℕ) :
    ∃ before last, fill cost capacity group items = before ++ [last] ∧
      (items.map cost).foldl (Tally.add capacity) ⟨n, load cost group⟩ =
        ⟨n + before.length, load cost last⟩ := by
  induction items generalizing group n with
  | nil => exact ⟨[], group, rfl, rfl⟩
  | cons a items ih =>
    rw [fill, map_cons, foldl_cons, Tally.add]
    by_cases hfull : capacity < load cost group + cost a
    · obtain ⟨before, last, hfill, hfold⟩ := ih [a] (n + 1)
      rw [load_singleton] at hfold
      refine ⟨group :: before, last, ?_, ?_⟩
      · rw [if_pos hfull, hfill, cons_append]
      · rw [if_pos hfull, hfold, length_cons]
        congr 1
        omega
    · obtain ⟨before, last, hfill, hfold⟩ := ih (group ++ [a]) n
      rw [load_concat] at hfold
      refine ⟨before, last, ?_, ?_⟩
      · rw [if_neg hfull, hfill]
      · rw [if_neg hfull, hfold]

theorem flatten_fill (group items : List α) :
    (fill cost capacity group items).flatten = group ++ items := by
  induction items generalizing group with
  | nil => simp [fill]
  | cons a items ih =>
    rw [fill]
    split
    · rw [flatten_cons, ih, singleton_append]
    · rw [ih, append_assoc, singleton_append]

/-- The groups of the walk are a packing when no item is beyond the capacity by itself. -/
theorem fill_packs (hgroup : load cost group ≤ capacity) (hitems : ∀ a ∈ items, cost a ≤ capacity) :
    Packs cost capacity (group ++ items) (fill cost capacity group items) := by
  refine ⟨flatten_fill group items, ?_⟩
  induction items generalizing group with
  | nil =>
    intro g hg
    rwa [fill, mem_singleton.mp hg] at *
  | cons a items ih =>
    have hrest : ∀ b ∈ items, cost b ≤ capacity := fun b hb => hitems b (mem_cons_of_mem a hb)
    rw [fill]
    split
    · intro g hg
      rcases mem_cons.mp hg with rfl | hg
      · exact hgroup
      · exact ih (by rw [load_singleton]; exact hitems a mem_cons_self) hrest g hg
    · next hroom => exact ih (by rw [load_concat]; omega) hrest

/-- A group that fits into what is left is put there. -/
theorem foldl_fits {n used : ℕ} (h : used + load cost group ≤ capacity) :
    (group.map cost).foldl (Tally.add capacity) ⟨n, used⟩ = ⟨n, used + load cost group⟩ := by
  induction group generalizing used with
  | nil => rfl
  | cons a group ih =>
    have hload : load cost (a :: group) = cost a + load cost group := by simp [load]
    rw [hload] at h ⊢
    rw [map_cons, foldl_cons, Tally.add_of_fits (by omega), ih (by omega), Nat.add_assoc]

/-- A walk that is not behind a fresh group is not behind it with a group put in. -/
theorem Tally.Le.fits {m : ℕ} (hs : s.Le ⟨m, 0⟩) (hfits : load cost group ≤ capacity) :
    ((group.map cost).foldl (Tally.add capacity) s).Le ⟨m, load cost group⟩ := by
  have hwalk := @Tally.Le.foldl capacity _ _ _ _ hs (forall₂_refl (group.map cost))
  have hgroup : (group.map cost).foldl (Tally.add capacity) ⟨m, 0⟩ = ⟨m, 0 + load cost group⟩ :=
    foldl_fits (by omega)
  rw [hgroup, Nat.zero_add] at hwalk
  exact hwalk

/-- The walk is never behind a packing, group by group. -/
theorem foldl_flatten_le (g : List α) (gs : List (List α)) {m : ℕ} (hs : s.Le ⟨m, 0⟩)
    (hfits : ∀ h ∈ g :: gs, load cost h ≤ capacity) :
    (((g :: gs).flatten.map cost).foldl (Tally.add capacity) s).Le ⟨m + gs.length, capacity⟩ := by
  induction gs generalizing g s m with
  | nil =>
    have hfirst : load cost g ≤ capacity := hfits g mem_cons_self
    rw [flatten_cons, flatten_nil, append_nil]
    exact (hs.fits hfirst).trans (.inr ⟨rfl, hfirst⟩)
  | cons g' gs ih =>
    have hwalk := hs.fits (hfits g mem_cons_self)
    rw [flatten_cons, map_append, foldl_append]
    refine (ih g' (hwalk.trans (.inl (Nat.lt_succ_self m)))
      fun h hh => hfits h (mem_cons_of_mem g hh)).trans (.inr ⟨?_, le_rfl⟩)
    rw [length_cons]
    show m + 1 + gs.length = m + (gs.length + 1)
    omega

theorem tally_le_of_packs (hitems : items ≠ []) (h : Packs cost capacity items groups) :
    (tally capacity (items.map cost)).groups ≤ groups.length := by
  obtain ⟨hflatten, hfits⟩ := h
  cases groups with
  | nil => exact absurd hflatten.symm hitems
  | cons g gs =>
    have hle := (foldl_flatten_le g gs (Tally.Le.refl ⟨1, 0⟩) hfits).groups
    rw [hflatten] at hle
    rw [tally, length_cons]
    simp only [] at hle
    omega

/-- **The greedy walk is optimal**: among all packings its number of groups is the least. -/
theorem isLeast_tally (hitems : items ≠ []) (hcosts : ∀ a ∈ items, cost a ≤ capacity) :
    IsLeast {k | ∃ groups, Packs cost capacity items groups ∧ groups.length = k}
      (tally capacity (items.map cost)).groups := by
  constructor
  · obtain ⟨before, last, hfill, hfold⟩ := foldl_fill cost capacity items [] 1
    have hpacks : Packs cost capacity ([] ++ items) (fill cost capacity [] items) :=
      fill_packs (Nat.zero_le capacity) hcosts
    refine ⟨fill cost capacity [] items, hpacks, ?_⟩
    rw [tally, show (⟨1, 0⟩ : Tally) = ⟨1, load cost ([] : List α)⟩ from rfl, hfold, hfill]
    simp [Nat.add_comm]
  · rintro k ⟨groups, hpacks, rfl⟩
    exact tally_le_of_packs hitems hpacks

/-- **Two prices for the same items**: when whatever fits at the one fits at the other, the other
needs no more groups. -/
theorem tally_le_tally {capacity' : ℕ} (hcosts : ∀ a ∈ items, cost a ≤ capacity)
    (h : ∀ group, load cost group ≤ capacity → load cost' group ≤ capacity') :
    (tally capacity' (items.map cost')).groups ≤ (tally capacity (items.map cost)).groups := by
  by_cases hitems : items = []
  · rw [hitems]
    rfl
  · obtain ⟨groups, hpacks, hlength⟩ := (isLeast_tally hitems hcosts).1
    rw [← hlength]
    exact tally_le_of_packs hitems ⟨hpacks.flatten, fun g hg => h g (hpacks.fits g hg)⟩

end Groups

end Packing
