import Mathlib.Data.List.Sort

/-!
# Chains that are linked in one order and walked in another

A row of a chain names what the row before it gave out.  Who adds a row takes the latest row that
there is, by a key; who walks the chain takes the rows in the order of that key.  The two agree as
long as rows are added in the order of their keys.

* `ascending` is the walk's order, and `latest` the row that a new one is linked to.
* `Linked` is what the walk looks for, and `Signed` what the adding of rows leaves behind.
* `Signed.linked` is the agreement: rows that come in order after a chain that is linked continue
  it.
-/

namespace Chain

open List

variable {R H K : Type} [LinearOrder K] {key : R → K} {prev out : R → Option H}

/-- The rows in the order of their keys. -/
def ascending (key : R → K) (rows : List R) : List R := rows.insertionSort fun a b => key a ≤ key b

/-- The row with the greatest key. -/
def latest (key : R → K) (rows : List R) : Option R :=
  (rows.insertionSort fun a b => key b ≤ key a).head?

/-- The keys grow along the list. -/
def Strict (key : R → K) (rows : List R) : Prop := rows.Pairwise fun a b => key a < key b

/-- Each row names what the one before it gave out, the first one what the chain starts from. -/
def Linked (prev out : R → Option H) : Option H → List R → Prop
  | _, [] => True
  | start, r :: rest => prev r = start ∧ Linked prev out (out r) rest

/-- Each of the rows was linked to the latest of those there were when it was added. -/
def Signed (key : R → K) (prev out : R → Option H) : List R → List R → Prop
  | _, [] => True
  | seen, r :: rest =>
    prev r = (latest key seen).bind out ∧ Signed key prev out (seen ++ [r]) rest

/-- What the last row of a chain gives out. -/
def tip (out : R → Option H) (start : Option H) (rows : List R) : Option H :=
  match rows.getLast? with
  | none => start
  | some r => out r

variable {rows : List R} {seen own : List R}

theorem ascending_of_strict (h : Strict key rows) : ascending key rows = rows :=
  List.Pairwise.insertionSort_eq (h.imp le_of_lt)

/-- In a list that is in order, the latest row is the last. -/
theorem latest_of_strict (h : Strict key rows) : latest key rows = rows.getLast? := by
  have hperm := perm_insertionSort (fun a b => key b ≤ key a) rows
  have hsorted := List.pairwise_insertionSort (fun a b => key b ≤ key a) rows
  rw [latest]
  rcases eq_nil_or_concat' rows with rfl | ⟨rest, r, rfl⟩
  · rfl
  · rw [getLast?_concat]
    cases hs : (rest ++ [r]).insertionSort fun a b => key b ≤ key a with
    | nil =>
      rw [hs] at hperm
      simpa using hperm.length_eq
    | cons x xs =>
      rw [hs] at hperm hsorted
      -- the first in descending order is at least the last in ascending order, which is greatest
      have hr : r ∈ x :: xs := hperm.mem_iff.mpr (by simp)
      have hx : x ∈ rest ++ [r] := hperm.mem_iff.mp (mem_cons_self ..)
      rcases mem_append.mp hx with hx | hx
      · have hlt : key x < key r := (pairwise_append.mp h).2.2 x hx r (by simp)
        rcases mem_cons.mp hr with rfl | hr
        · exact absurd hlt (lt_irrefl _)
        · exact absurd ((pairwise_cons.mp hsorted).1 r hr) (not_le_of_gt hlt)
      · rw [mem_singleton.mp hx, head?_cons]

theorem linked_append {start : Option H} {r : R} :
    Linked prev out start (rows ++ [r]) ↔
      Linked prev out start rows ∧ prev r = tip out start rows := by
  induction rows generalizing start with
  | nil => simp [Linked, tip]
  | cons q rest ih =>
    have htip : tip out start (q :: rest) = tip out (out q) rest := by
      cases rest with
      | nil => rfl
      | cons p rest =>
        rw [tip, tip, getLast?_cons_cons, getLast?_eq_some_getLast (cons_ne_nil p rest)]
    rw [cons_append, Linked, ih, Linked, htip, and_assoc]

theorem signed_append {r : R} :
    Signed key prev out seen (own ++ [r]) ↔
      Signed key prev out seen own ∧ prev r = (latest key (seen ++ own)).bind out := by
  induction own generalizing seen with
  | nil => simp [Signed]
  | cons q rest ih =>
    rw [cons_append, Signed, ih, Signed, append_assoc, singleton_append, and_assoc]

/-- **Rows added in order continue the chain.** -/
theorem Signed.linked (h : Signed key prev out seen own)
    (hlinked : Linked prev out none seen) (hstrict : Strict key (seen ++ own)) :
    Linked prev out none (seen ++ own) := by
  induction own generalizing seen with
  | nil => rwa [append_nil]
  | cons r rest ih =>
    have hsplit : seen ++ r :: rest = (seen ++ [r]) ++ rest := by simp
    have hseen : Strict key seen := (pairwise_append.mp hstrict).1
    rw [hsplit] at hstrict ⊢
    refine ih h.2 (linked_append.mpr ⟨hlinked, ?_⟩) hstrict
    rw [h.1, latest_of_strict hseen, tip]
    cases seen.getLast? with
    | none => rfl
    | some q => rfl

end Chain
