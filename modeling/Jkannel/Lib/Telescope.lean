import Mathlib.Algebra.BigOperators.Group.List.Basic
import Mathlib.Tactic.Abel

/-!
# Changes between consecutive observations

What is measured from one observation to the next is a sum over the consecutive pairs of a list.

* `change f ps` is how much `f` changed over the intervals `ps`.
* `change_consecutivePairs`: over all intervals of a list it is the change from its first
  observation to its last.
* `change_filter`: it is the change over the intervals that are kept, and that over the others.
-/

namespace Telescope

open List

variable {α β G : Type} [AddCommGroup G]

/-- How much `f` changes over the intervals `ps`. -/
def change (f : α → G) (ps : List (α × α)) : G := (ps.map fun p => f p.2 - f p.1).sum

@[simp] theorem change_nil (f : α → G) : change f [] = 0 := rfl

theorem change_cons (f : α → G) (p : α × α) (ps : List (α × α)) :
    change f (p :: ps) = f p.2 - f p.1 + change f ps := by
  rw [change, map_cons, sum_cons, change]

/-- **The changes telescope.** -/
theorem change_consecutivePairs (f : α → G) (a : α) (l : List α) :
    change f (a :: l).consecutivePairs = f (l.getLastD a) - f a := by
  induction l generalizing a with
  | nil =>
    rw [getLastD_nil, sub_self]
    rfl
  | cons b l ih =>
    rw [List.consecutivePairs, tail_cons, zip_cons_cons, change_cons,
      show (b :: l).zip l = (b :: l).consecutivePairs from rfl, ih, getLastD_cons]
    abel

theorem change_filter (f : α → G) (keep : α × α → Bool) (ps : List (α × α)) :
    change f ps = change f (ps.filter keep) + change f (ps.filter fun p => !keep p) := by
  induction ps with
  | nil => simp
  | cons p ps ih =>
    cases hp : keep p with
    | true =>
      rw [filter_cons_of_pos hp, filter_cons_of_neg (by simp [hp]), change_cons,
        change_cons, ih, add_assoc]
    | false =>
      rw [filter_cons_of_neg (by simp [hp]), filter_cons_of_pos (by simp [hp]),
        change_cons, change_cons, ih]
      abel

theorem change_sub {f g h : α → G} {ps : List (α × α)}
    (heq : ∀ p ∈ ps, f p.2 - f p.1 = (g p.2 - g p.1) - (h p.2 - h p.1)) :
    change f ps = change g ps - change h ps := by
  induction ps with
  | nil => simp
  | cons p ps ih =>
    rw [change_cons, change_cons, change_cons, heq p (mem_cons_self ..),
      ih fun q hq => heq q (mem_cons_of_mem _ hq)]
    abel

theorem consecutivePairs_map (f : α → β) (l : List α) :
    (l.map f).consecutivePairs = l.consecutivePairs.map (Prod.map f f) := by
  rw [List.consecutivePairs, ← map_tail, zip_map]

theorem mem_of_mem_consecutivePairs {l : List α} {p : α × α} (h : p ∈ l.consecutivePairs) :
    p.1 ∈ l ∧ p.2 ∈ l :=
  ⟨(of_mem_zip h).1, mem_of_mem_tail (of_mem_zip h).2⟩

/-- What holds from each item to every later one holds over each interval. -/
theorem rel_of_mem_consecutivePairs {R : α → α → Prop} {l : List α} (h : l.Pairwise R) {p : α × α}
    (hp : p ∈ l.consecutivePairs) : R p.1 p.2 := by
  induction l with
  | nil => cases hp
  | cons a l ih =>
    cases l with
    | nil => cases hp
    | cons b l =>
      rw [List.consecutivePairs, tail_cons, zip_cons_cons, mem_cons] at hp
      obtain rfl | hp := hp
      · exact rel_of_pairwise_cons h (mem_cons_self ..)
      · exact ih h.of_cons hp

end Telescope
