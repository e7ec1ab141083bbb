import Mathlib.Logic.Function.Basic

/-!
# Entries of an updated table

A table that is a function with optional entries, after one of them is set or taken out: an entry
that is there is the new one, or an old one in another place (`update_eq_some`, `erase_eq_some`).
For a table that is a list, it is one set or put at the end (`set_eq_some`, `concat_eq_some`).
-/

namespace Updates

section Functions

variable {I α : Type*} [DecidableEq I] {f : I → Option α} {i j : I} {x y : α}

theorem update_eq_some (h : Function.update f i (some x) j = some y) :
    (j = i ∧ y = x) ∨ (j ≠ i ∧ f j = some y) := by
  by_cases hj : j = i
  · subst hj
    rw [Function.update_self] at h
    exact .inl ⟨rfl, (Option.some.inj h).symm⟩
  · rw [Function.update_of_ne hj] at h
    exact .inr ⟨hj, h⟩

theorem erase_eq_some (h : Function.update f i none j = some y) : j ≠ i ∧ f j = some y := by
  by_cases hj : j = i
  · subst hj
    rw [Function.update_self] at h
    cases h
  · rw [Function.update_of_ne hj] at h
    exact ⟨hj, h⟩

end Functions

section Lists

variable {α : Type} {l : List α} {i j : Nat} {x y : α}

theorem set_eq_some (h : (l.set i x)[j]? = some y) : (j = i ∧ y = x) ∨ (j ≠ i ∧ l[j]? = some y) := by
  rw [List.getElem?_set] at h
  split at h
  · next hj =>
    split at h
    · exact .inl ⟨hj.symm, (Option.some.inj h).symm⟩
    · cases h
  · next hj => exact .inr ⟨fun he => hj he.symm, h⟩

theorem concat_eq_some (h : (l ++ [x])[j]? = some y) : y = x ∨ l[j]? = some y := by
  by_cases hj : j < l.length
  · rw [List.getElem?_append_left hj] at h
    exact .inr h
  · rw [List.getElem?_append_right (Nat.le_of_not_lt hj)] at h
    exact .inl (List.mem_singleton.mp (List.mem_of_getElem? h))

end Lists

end Updates
