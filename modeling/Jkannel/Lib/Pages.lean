import Mathlib.Data.List.Nodup
import Mathlib.Data.List.Perm.Basic

/-!
# Pages of independent queries

A client reads a long result page by page.  Each page is a query of its own: the server arranges the
rows in some order that the requested one allows, skips, and takes.  Rows that the order ties may
come in another order the next time.

* `Arrangement` is an order of the rows that a query may have worked with, and `page` what it takes
  of it.
* `before` and `upTo` count the rows strictly before a row, and those not behind it, so that the
  rows tied with it stand at the places from one count to the other in every arrangement.
* `Clean` says that no tie goes across a place, and `pages_perm_iff` that the pages are the rows,
  each once, whatever arrangement each query works with, exactly when every page begins at such a
  place.
-/

namespace Pages

open List

variable {R : Type} {le : R → R → Bool} {selected rows : List R}

/-- An order that compares any two rows, with ties. -/
structure IsOrder (le : R → R → Bool) : Prop where
  total : ∀ a b, le a b = true ∨ le b a = true
  trans : ∀ a b c, le a b = true → le b c = true → le a c = true

theorem IsOrder.refl (h : IsOrder le) (a : R) : le a a = true :=
  (h.total a a).elim id id

/-- The rows in an order that the requested one allows. -/
structure Arrangement (le : R → R → Bool) (selected rows : List R) : Prop where
  perm : rows.Perm selected
  sorted : rows.Pairwise fun a b => le a b = true

/-- There is always one. -/
theorem IsOrder.exists_arrangement (h : IsOrder le) (selected : List R) :
    Arrangement le selected (selected.mergeSort le) :=
  ⟨mergeSort_perm selected le,
    pairwise_mergeSort h.trans (fun a b => by simpa using h.total a b) selected⟩

/-- The rows of one page. -/
def page (limit : Nat) (rows : List R) (k : Nat) : List R := (rows.drop (k * limit)).take limit

/-- How many rows stand strictly before a row. -/
def before (le : R → R → Bool) (selected : List R) (a : R) : Nat :=
  selected.countP fun b => !le a b

/-- How many rows do not stand behind a row. -/
def upTo (le : R → R → Bool) (selected : List R) (a : R) : Nat :=
  selected.countP fun b => le b a

/-- No tie goes across a place. -/
def Clean (le : R → R → Bool) (selected : List R) (place : Nat) : Prop :=
  ∀ a ∈ selected, place ≤ before le selected a ∨ upTo le selected a ≤ place

instance (le : R → R → Bool) (selected : List R) (place : Nat) :
    Decidable (Clean le selected place) :=
  inferInstanceAs (Decidable (∀ a ∈ selected, _))

/-! ## Where a row stands -/

variable {i limit : Nat}

theorem countP_le_of_drop {q : R → Bool} (h : ∀ b ∈ rows.drop i, q b = false) :
    rows.countP q ≤ i := by
  have hzero : (rows.drop i).countP q = 0 :=
    countP_eq_zero.mpr fun b hb => by simp [h b hb]
  calc rows.countP q = (rows.take i).countP q + (rows.drop i).countP q := by
        rw [← countP_append, take_append_drop]
    _ ≤ i := by
        rw [hzero, Nat.add_zero]
        exact Nat.le_trans countP_le_length (length_take_le i rows)

theorem le_countP_of_take {q : R → Bool} (hi : i ≤ rows.length)
    (h : ∀ b ∈ rows.take i, q b = true) : i ≤ rows.countP q := by
  have hall : (rows.take i).countP q = i := by
    rw [countP_eq_length.mpr h, length_take_of_le hi]
  calc i = (rows.take i).countP q := hall.symm
    _ ≤ (rows.take i).countP q + (rows.drop i).countP q := Nat.le_add_right _ _
    _ = rows.countP q := by rw [← countP_append, take_append_drop]

section Placed

variable (hle : IsOrder le) (h : Arrangement le selected rows)
include h

theorem Arrangement.length_eq : rows.length = selected.length := h.perm.length_eq

theorem Arrangement.before_eq (a : R) : before le selected a = before le rows a :=
  (h.perm.countP_eq _).symm

theorem Arrangement.upTo_eq (a : R) : upTo le selected a = upTo le rows a :=
  (h.perm.countP_eq _).symm

include hle

section

variable (hi : i < rows.length)
include hi

theorem Arrangement.le_of_mem_drop :
    ∀ b ∈ rows.drop i, le rows[i] b = true := by
  intro b hb
  rw [drop_eq_getElem_cons hi] at hb
  rcases mem_cons.mp hb with rfl | hb
  · exact hle.refl _
  · have hsorted := h.sorted.sublist (drop_sublist i rows)
    rw [drop_eq_getElem_cons hi] at hsorted
    exact (pairwise_cons.mp hsorted).1 b hb

theorem Arrangement.le_of_mem_take :
    ∀ b ∈ rows.take (i + 1), le b rows[i] = true := by
  intro b hb
  have hsplit := h.sorted
  rw [← take_append_drop (i + 1) rows] at hsplit
  have hlast : rows.take (i + 1) = rows.take i ++ [rows[i]] := take_succ_eq_append_getElem hi
  rw [hlast] at hb hsplit
  rcases mem_append.mp hb with hb | hb
  · exact (pairwise_append.mp (pairwise_append.mp hsplit).1).2.2 b hb _
      (mem_singleton.mpr rfl)
  · rw [mem_singleton.mp hb]
    exact hle.refl _

/-- A row stands behind those strictly before it and among those not behind it. -/
theorem Arrangement.place :
    before le selected rows[i] ≤ i ∧ i < upTo le selected rows[i] := by
  rw [h.before_eq, h.upTo_eq]
  refine ⟨countP_le_of_drop fun b hb => ?_, ?_⟩
  · rw [h.le_of_mem_drop hle hi b hb]
    rfl
  · exact le_countP_of_take hi (h.le_of_mem_take hle hi)

/-- The places from one count of a row to the other are taken by rows tied with it. -/
theorem Arrangement.tied {a : R} (hbefore : before le selected a ≤ i)
    (hupTo : i < upTo le selected a) : le a rows[i] = true ∧ le rows[i] a = true := by
  rw [h.before_eq] at hbefore
  rw [h.upTo_eq] at hupTo
  constructor
  · by_contra hnot
    refine absurd (Nat.lt_of_lt_of_le ?_ hbefore) (Nat.lt_irrefl i)
    refine le_countP_of_take hi fun b hb => ?_
    rw [Bool.not_eq_true', ← Bool.not_eq_true]
    exact fun hab => hnot (hle.trans _ _ _ hab (h.le_of_mem_take hle hi b hb))
  · by_contra hnot
    refine absurd (Nat.lt_of_lt_of_le hupTo ?_) (Nat.lt_irrefl i)
    refine countP_le_of_drop fun b hb => ?_
    rw [← Bool.not_eq_true]
    exact fun hba => hnot (hle.trans _ _ _ (h.le_of_mem_drop hle hi b hb) hba)

end

/-- Where no tie goes across, the rows in front are those with few enough before them. -/
theorem Arrangement.take_eq_filter {place : Nat} (hclean : Clean le selected place) :
    rows.take place = rows.filter fun a => before le selected a < place := by
  have hfront : ∀ a ∈ rows.take place, before le selected a < place := by
    intro a ha
    obtain ⟨i, hi, rfl⟩ := mem_iff_getElem.mp ha
    rw [length_take] at hi
    have hlt : i < rows.length := by omega
    rw [getElem_take]
    exact Nat.lt_of_le_of_lt (h.place hle hlt).1 (by omega)
  have hback : ∀ a ∈ rows.drop place, ¬ before le selected a < place := by
    intro a ha
    obtain ⟨i, hi, rfl⟩ := mem_iff_getElem.mp ha
    rw [length_drop] at hi
    have hlt : place + i < rows.length := by omega
    rw [getElem_drop]
    have hplace := (h.place hle hlt).2
    rcases hclean _ (h.perm.mem_iff.mp (getElem_mem hlt)) with hclean | hclean
    · exact Nat.not_lt.mpr hclean
    · omega
  conv_rhs => rw [← take_append_drop place rows, filter_append]
  rw [filter_eq_self.mpr fun a ha => decide_eq_true (hfront a ha),
    filter_eq_nil_iff.mpr fun a ha => by simpa using hback a ha, append_nil]

end Placed

/-- At a place no tie goes across, or behind the last row, two arrangements have the same rows in
front. -/
theorem Arrangement.take_perm (hle : IsOrder le) {other : List R}
    (h : Arrangement le selected rows) (h' : Arrangement le selected other) {place : Nat}
    (hclean : place < selected.length → Clean le selected place) :
    (rows.take place).Perm (other.take place) := by
  by_cases hplace : place < selected.length
  · rw [h.take_eq_filter hle (hclean hplace), h'.take_eq_filter hle (hclean hplace)]
    exact (h.perm.trans h'.perm.symm).filter _
  · rw [take_of_length_le (h.length_eq ▸ Nat.not_lt.mp hplace),
      take_of_length_le (h'.length_eq ▸ Nat.not_lt.mp hplace)]
    exact h.perm.trans h'.perm.symm

/-- An order without ties among the rows is clean everywhere. -/
theorem clean_of_no_ties (hle : IsOrder le) (hnodup : selected.Nodup)
    (hties : ∀ a ∈ selected, ∀ b ∈ selected, le a b = true → le b a = true → a = b)
    (place : Nat) : Clean le selected place := by
  intro a ha
  have h := hle.exists_arrangement selected
  obtain ⟨i, hi, hai⟩ := mem_iff_getElem.mp (h.perm.mem_iff.mpr ha)
  by_contra hstraddles
  rw [not_or, Nat.not_le, Nat.not_le] at hstraddles
  have hplace := h.place hle hi
  -- a second place between the two counts would be taken by the same row again
  have hother : ∃ j, j ≠ i ∧ before le selected a ≤ j ∧ j < upTo le selected a := by
    by_cases hfirst : i = before le selected a
    · exact ⟨place, by omega, by omega, hstraddles.2⟩
    · exact ⟨before le selected a, by omega, Nat.le_refl _, by omega⟩
  obtain ⟨j, hne, hfrom, hto⟩ := hother
  have hj : j < (selected.mergeSort le).length := by
    have := countP_le_length (p := fun b => le b a) (l := selected)
    rw [h.length_eq]
    exact Nat.lt_of_lt_of_le hto this
  obtain ⟨hab, hba⟩ := h.tied (a := a) hle hj hfrom hto
  have hsame := hties a ha _ (h.perm.mem_iff.mp (getElem_mem hj)) hab hba
  rw [← hai] at hsame
  exact hne ((h.perm.nodup_iff.mpr hnodup).getElem_inj_iff.mp hsame).symm

/-! ## The pages -/

theorem take_append_page (limit : Nat) (rows : List R) (k : Nat) :
    rows.take (k * limit) ++ page limit rows k = rows.take ((k + 1) * limit) := by
  rw [page, Nat.succ_mul, take_add]

/-- The pages of one arrangement are its rows. -/
theorem flatMap_page (limit : Nat) (rows : List R) (pages : Nat) :
    (List.range pages).flatMap (page limit rows) = rows.take (pages * limit) := by
  induction pages with
  | zero => rw [range_zero, flatMap_nil, Nat.zero_mul, take_zero]
  | succ pages ih =>
    rw [range_succ, flatMap_append, ih, flatMap_singleton, take_append_page]

theorem mem_page {k : Nat} {a : R} : a ∈ page limit rows k ↔
    ∃ i, k * limit ≤ i ∧ i < k * limit + limit ∧ rows[i]? = some a := by
  rw [page, mem_iff_getElem?]
  constructor
  · rintro ⟨i, hi⟩
    rw [getElem?_take] at hi
    split at hi
    · next hlt =>
      rw [getElem?_drop] at hi
      exact ⟨k * limit + i, Nat.le_add_right _ _, Nat.add_lt_add_left hlt _, hi⟩
    · cases hi
  · rintro ⟨i, hfrom, hto, hi⟩
    refine ⟨i - k * limit, ?_⟩
    rw [getElem?_take, if_pos (by omega), getElem?_drop, Nat.add_sub_cancel' hfrom]
    exact hi

/-- Pages that begin where no tie goes across are the rows, whatever arrangement each was taken
from. -/
theorem pages_perm_of_clean (hle : IsOrder le) {pages : Nat}
    (hlength : selected.length ≤ pages * limit)
    (hclean : ∀ k < pages, k * limit < selected.length → Clean le selected (k * limit))
    {family : Nat → List R} (hfamily : ∀ k, Arrangement le selected (family k)) :
    ((List.range pages).flatMap fun k => page limit (family k) k).Perm selected := by
  have hfront : ∀ k j, k ≤ pages → ((family j).take (k * limit)).Perm
      ((family 0).take (k * limit)) := by
    intro k j hk
    refine (hfamily j).take_perm hle (hfamily 0) fun hlt => ?_
    rcases Nat.lt_or_eq_of_le hk with hk | rfl
    · exact hclean k hk hlt
    · exact absurd hlength (Nat.not_le.mpr hlt)
  have hpage : ∀ k ∈ List.range pages,
      (page limit (family k) k).Perm (page limit (family 0) k) := by
    intro k hk
    rw [mem_range] at hk
    have hnext := hfront (k + 1) k hk
    rw [← take_append_page, ← take_append_page] at hnext
    exact (perm_append_left_iff _).mp
      (((hfront k k (Nat.le_of_lt hk)).symm.append_right _).trans hnext)
  refine (List.Perm.flatMap_left _ hpage).trans ?_
  rw [flatMap_page, take_of_length_le ((hfamily 0).length_eq ▸ hlength)]
  exact (hfamily 0).perm

/-- An arrangement with two neighbours exchanged that the order ties. -/
theorem Arrangement.swap {front back : List R} {x y : R}
    (h : Arrangement le selected (front ++ x :: y :: back)) (htied : le y x = true) :
    Arrangement le selected (front ++ y :: x :: back) := by
  refine ⟨(List.Perm.append_left front (List.Perm.swap x y back)).trans h.perm, ?_⟩
  obtain ⟨hfront, hback, hacross⟩ := pairwise_append.mp h.sorted
  rw [pairwise_cons, pairwise_cons] at hback
  obtain ⟨hx, hy, hrest⟩ := hback
  refine pairwise_append.mpr ⟨hfront, ?_, fun a ha b hb => ?_⟩
  · rw [pairwise_cons, pairwise_cons]
    refine ⟨fun b hb => ?_, fun b hb => hx b (mem_cons_of_mem _ hb), hrest⟩
    rcases mem_cons.mp hb with rfl | hb
    · exact htied
    · exact hy b hb
  · refine hacross a ha b ?_
    rcases mem_cons.mp hb with rfl | hb
    · exact mem_cons_of_mem _ mem_cons_self
    · rcases mem_cons.mp hb with rfl | hb
      · exact mem_cons_self
      · exact mem_cons_of_mem _ (mem_cons_of_mem _ hb)

/-- A row stands at one place only. -/
theorem place_unique (hnodup : rows.Nodup) {a : R} {j : Nat} (hi : rows[i]? = some a)
    (hj : rows[j]? = some a) : i = j := by
  obtain ⟨hi, rfl⟩ := List.getElem?_eq_some_iff.mp hi
  obtain ⟨hj, heq⟩ := List.getElem?_eq_some_iff.mp hj
  exact ((hnodup.getElem_inj_iff).mp heq).symm

/-- **A tie across the beginning of a page loses a row**: the query of that page may work with the
two neighbours exchanged, and shows the one that the page before has shown. -/
theorem exists_lost_row (hle : IsOrder le) (hnodup : selected.Nodup) {k : Nat} (pages : Nat)
    (hlt : k * limit < selected.length) (hclean : ¬ Clean le selected (k * limit)) :
    ∃ family : Nat → List R, (∀ j, Arrangement le selected (family j)) ∧
      ¬ ((List.range pages).flatMap fun j => page limit (family j) j).Perm selected := by
  obtain ⟨a, -, hstraddles⟩ : ∃ a ∈ selected,
      ¬ (k * limit ≤ before le selected a ∨ upTo le selected a ≤ k * limit) := by
    by_contra hnone
    exact hclean fun a ha => by_contra fun h => hnone ⟨a, ha, h⟩
  rw [not_or, Nat.not_le, Nat.not_le] at hstraddles
  obtain ⟨hbefore, hupTo⟩ := hstraddles
  have href := hle.exists_arrangement selected
  -- the rows in front of the place, the two neighbours, and the rows behind
  obtain ⟨p, hp⟩ : ∃ p, k * limit = p + 1 := ⟨k * limit - 1, by omega⟩
  have hlength := href.length_eq
  have hx : p < (selected.mergeSort le).length := by omega
  have hy : p + 1 < (selected.mergeSort le).length := by omega
  have hsplit : selected.mergeSort le = (selected.mergeSort le).take p ++
      (selected.mergeSort le)[p] :: (selected.mergeSort le)[p + 1] ::
        (selected.mergeSort le).drop (p + 2) := by
    rw [← drop_eq_getElem_cons hy, ← drop_eq_getElem_cons hx, take_append_drop]
  have htiedX := href.tied (a := a) hle hx (by omega) (by omega)
  have htiedY := href.tied (a := a) hle hy (by omega) (by omega)
  generalize hxs : (selected.mergeSort le)[p] = x at hsplit htiedX
  generalize hys : (selected.mergeSort le)[p + 1] = y at hsplit htiedY
  generalize hfront : (selected.mergeSort le).take p = front at hsplit
  generalize (selected.mergeSort le).drop (p + 2) = back at hsplit
  have hfrontLength : front.length = p := by
    rw [← hfront, length_take]
    omega
  rw [hsplit] at href
  have hswap := href.swap (hle.trans _ _ _ htiedY.2 htiedX.1)
  refine ⟨fun j => if j = k then front ++ y :: x :: back else front ++ x :: y :: back,
    fun j => ?_, fun hperm => ?_⟩
  · dsimp only
    split
    · exact hswap
    · exact href
  · -- the second neighbour is on no page
    have hmem : y ∈ selected := href.perm.mem_iff.mp (by simp)
    obtain ⟨j, hj, hpage⟩ := mem_flatMap.mp (hperm.mem_iff.mpr hmem)
    obtain ⟨i, hfrom, hto, hi⟩ := mem_page.mp hpage
    dsimp only at hi
    by_cases hjk : j = k
    · rw [if_pos hjk] at hi
      have hat : (front ++ y :: x :: back)[p]? = some y := by
        rw [getElem?_append_right (by omega), hfrontLength, Nat.sub_self]
        rfl
      have := place_unique (hswap.perm.nodup_iff.mpr hnodup) hi hat
      rw [hjk] at hfrom
      omega
    · rw [if_neg hjk] at hi
      have hat : (front ++ x :: y :: back)[p + 1]? = some y := by
        rw [getElem?_append_right (by omega), hfrontLength, Nat.add_sub_cancel_left]
        rfl
      have hplace := place_unique (href.perm.nodup_iff.mpr hnodup) hi hat
      rcases Nat.lt_or_gt_of_ne hjk with hjk | hjk
      all_goals
        have := Nat.mul_le_mul_right limit hjk
        rw [Nat.succ_mul] at this
        omega

/-- **When the pages are the rows.**  Whatever arrangement each query works with, the pages are the
rows, each once, exactly when no tie goes across the beginning of a page. -/
theorem pages_perm_iff (hle : IsOrder le) (hnodup : selected.Nodup) {pages : Nat}
    (hlength : selected.length ≤ pages * limit) :
    (∀ family : Nat → List R, (∀ k, Arrangement le selected (family k)) →
      ((List.range pages).flatMap fun k => page limit (family k) k).Perm selected) ↔
    ∀ k < pages, k * limit < selected.length → Clean le selected (k * limit) := by
  constructor
  · intro hall k hk hlt
    by_contra hclean
    obtain ⟨family, hfamily, hlost⟩ := exists_lost_row hle hnodup pages hlt hclean
    exact hlost (hall family hfamily)
  · intro hclean family hfamily
    exact pages_perm_of_clean hle hlength hclean hfamily

end Pages
