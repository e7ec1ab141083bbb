import Mathlib.Algebra.GroupWithZero.Nat
import Mathlib.Data.List.Basic

/-!
# Fields joined by a separator

A record is often written as its fields with a separator between them.  What the text says of the
fields depends on whether the separator can occur in one.

* `eq_of_join_eq`: fields that do not hold the separator are recovered from their join, among all
  records of as many fields, those whose fields may hold it included.
* `exists_ne_of_mem`: where a field does hold it, and is not the only one, another record of as many
  fields has the same join: the boundary has moved.
* `text_eq_of_join_eq` and `text_exists_ne_of_mem` say the same of texts.
-/

namespace Joined

open List

/-! ## Lists -/

section Lists

variable {α : Type} [DecidableEq α] {x : α}

variable {ls : List (List α)}

/-- The separators of a join are those of the fields and the ones between them. -/
theorem count_join (hne : ls ≠ []) :
    ([x].intercalate ls).count x + 1 = (ls.map (List.count x)).sum + ls.length := by
  induction ls with
  | nil => exact absurd rfl hne
  | cons l rest ih =>
    cases rest with
    | nil => simp
    | cons m rest =>
      have := ih (cons_ne_nil m rest)
      rw [intercalate_cons_cons, count_append, count_append, count_singleton_self,
        map_cons, sum_cons, length_cons]
      omega

theorem sum_count_eq_zero : (ls.map (List.count x)).sum = 0 ↔ ∀ l ∈ ls, x ∉ l := by
  rw [List.sum_eq_zero_iff_forall_eq_nat, forall_mem_map]
  exact forall₂_congr fun l _ => count_eq_zero

/-- **A record whose fields do not hold the separator is the only one of its length with its
join.** -/
theorem eq_of_join_eq {ls' : List (List α)} (hlength : ls'.length = ls.length)
    (hfree : ∀ l ∈ ls, x ∉ l) (h : [x].intercalate ls' = [x].intercalate ls) : ls' = ls := by
  by_cases hne : ls = []
  · subst hne
    exact length_eq_zero_iff.mp hlength
  have hne' : ls' ≠ [] := by
    rw [← length_pos_iff, hlength, length_pos_iff]
    exact hne
  -- the join has no separators but those between the fields, in the one record and in the other
  have hfree' : ∀ l ∈ ls', x ∉ l := by
    have hcount := count_join (x := x) hne
    have hcount' := count_join (x := x) hne'
    rw [sum_count_eq_zero.mpr hfree, ← h, ← hlength] at hcount
    exact sum_count_eq_zero.mp (by omega)
  rw [← splitOn_intercalate x hfree' hne', h, splitOn_intercalate x hfree hne]

omit [DecidableEq α] in
/-- **Where a field holds the separator, its boundary can move.** -/
theorem exists_ne_of_mem (htwo : 2 ≤ ls.length) {l : List α} (hl : l ∈ ls) (hx : x ∈ l) :
    ∃ ls' : List (List α), ls'.length = ls.length ∧ ls' ≠ ls ∧
      [x].intercalate ls' = [x].intercalate ls := by
  induction ls with
  | nil => cases hl
  | cons m rest ih =>
    obtain ⟨n, rest, rfl⟩ := exists_cons_of_length_pos (l := rest) (by
      rw [length_cons] at htwo
      omega)
    obtain ⟨a, b, rfl⟩ := append_of_mem hx
    rcases mem_cons.mp hl with rfl | hl
    · -- what stands after the separator goes to the field after it
      refine ⟨a :: (b ++ x :: n) :: rest, rfl, ?_, ?_⟩
      · intro heq
        simpa using congrArg List.length (List.cons.inj heq).1
      · cases rest <;> simp
    · cases rest with
      | nil =>
        -- there is none after it: what stands before the separator goes to the field before
        obtain rfl := mem_singleton.mp hl
        refine ⟨[m ++ x :: a, b], rfl, ?_, by simp⟩
        intro heq
        simpa using congrArg List.length (List.cons.inj heq).1
      | cons p rest =>
        obtain ⟨ls', hlength, hne, hjoin⟩ := ih (by simp) hl
        have hne' : ls' ≠ [] := by
          rw [← length_pos_iff, hlength]
          exact Nat.succ_pos _
        refine ⟨m :: ls', congrArg Nat.succ hlength, fun heq => hne (List.cons.inj heq).2, ?_⟩
        rw [intercalate_cons_of_ne_nil hne', intercalate_cons_cons, hjoin]

end Lists

/-! ## Texts -/

variable {x : Char} {fields : List String} {fields' : List String}

theorem text_join_eq_iff :
    (String.singleton x).intercalate fields' = (String.singleton x).intercalate fields ↔
      [x].intercalate (fields'.map String.toList) = [x].intercalate (fields.map String.toList) := by
  rw [← String.toList_inj, String.toList_intercalate, String.toList_intercalate,
    String.toList_singleton]

theorem text_eq_of_join_eq (hlength : fields'.length = fields.length)
    (hfree : ∀ field ∈ fields, x ∉ field.toList)
    (h : (String.singleton x).intercalate fields' = (String.singleton x).intercalate fields) :
    fields' = fields := by
  refine map_injective_iff.mpr (fun _ _ => String.toList_inj.mp) ?_
  exact eq_of_join_eq (by rw [length_map, length_map, hlength])
    (forall_mem_map.mpr hfree) (text_join_eq_iff.mp h)

theorem text_exists_ne_of_mem (htwo : 2 ≤ fields.length) {field : String} (hfield : field ∈ fields)
    (hx : x ∈ field.toList) :
    ∃ fields' : List String, fields'.length = fields.length ∧ fields' ≠ fields ∧
      (String.singleton x).intercalate fields' = (String.singleton x).intercalate fields := by
  have htwo' : 2 ≤ (fields.map String.toList).length := by rwa [length_map]
  obtain ⟨ls', hlength, hne, hjoin⟩ := exists_ne_of_mem htwo' (mem_map_of_mem hfield) hx
  have hmap : (ls'.map String.ofList).map String.toList = ls' := by simp [Function.comp_def]
  refine ⟨ls'.map String.ofList, by rw [length_map, hlength, length_map], ?_, ?_⟩
  · rintro rfl
    exact hne hmap.symm
  · rw [text_join_eq_iff, hmap, hjoin]

end Joined
