import Mathlib.Data.List.Nodup
import Mathlib.Data.List.Perm.Subperm

/-!
# Numbered entries

A counter bounds what is done under it when every act is entered under a number the counter has
handed out, and no number is entered twice.  `Ledger k l` is that situation: `l` are the numbers
entered and `k` is how many have been handed out.

`Ledger.length_le` is what it is for; `Ledger.mono` and `Ledger.append` are the two things that
happen to it, the counter going up and a number being used.
-/

/-- The numbers in `l` are distinct and among `1, …, k`. -/
structure Ledger (k : Nat) (l : List Nat) : Prop where
  /-- No number is entered twice. -/
  nodup : l.Nodup
  /-- Every number has been handed out. -/
  within : ∀ n ∈ l, 1 ≤ n ∧ n ≤ k

namespace Ledger

variable {k : Nat} {l : List Nat}

theorem nil (k : Nat) : Ledger k [] := ⟨List.nodup_nil, fun _ h => absurd h List.not_mem_nil⟩

/-- Handing out more numbers spoils nothing. -/
theorem mono {k' : Nat} (h : Ledger k l) (hle : k ≤ k') : Ledger k' l :=
  ⟨h.nodup, fun n hn => ⟨(h.within n hn).1, Nat.le_trans (h.within n hn).2 hle⟩⟩

/-- A number handed out and not used yet may be used. -/
theorem append {n : Nat} (h : Ledger k l) (hone : 1 ≤ n) (hle : n ≤ k) (hn : n ∉ l) :
    Ledger k (l ++ [n]) := by
  refine ⟨?_, ?_⟩
  · rw [List.nodup_append]
    refine ⟨h.nodup, by simp, ?_⟩
    intro a ha b hb heq
    rw [List.mem_singleton] at hb
    exact hn (hb ▸ heq ▸ ha)
  · intro m hm
    rcases List.mem_append.mp hm with hm | hm
    · exact h.within m hm
    · rw [List.mem_singleton.mp hm]
      exact ⟨hone, hle⟩

/-- **A ledger has no more entries than numbers were handed out.** -/
theorem length_le (h : Ledger k l) : l.length ≤ k := by
  have hsub : l ⊆ List.range' 1 k := by
    intro n hn
    have := h.within n hn
    rw [List.mem_range'_1]
    omega
  have hlen := (List.subperm_of_subset h.nodup hsub).length_le
  rwa [List.length_range'] at hlen

end Ledger
