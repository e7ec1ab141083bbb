import Mathlib.Data.List.Sort

/-!
# The first of a list under a comparison

A stable sort by a comparison puts one element first: the leftmost of those that nothing comes
strictly before.  The comparison may have ties, so it is a total preorder and no more.

* `Leads cmp l m` says which element that is, without a sort, and `head?_insertionSort_iff` that the
  sort puts it first.
* `transCmp_on` makes a comparison of keys into one of elements.
* `insertionSort_congr` is the other use of a comparison: when it ties no two different elements of
  a list, the sorted list does not depend on the order the list was in.
* `filter_insertionSort` says that it does not matter whether a list is filtered before it is sorted
  or after, and `find?_insertionSort_iff` what a search of a sorted list finds.  `search` is one that
  may go on.
-/

namespace Ranking

open List

variable {α β : Type} {cmp : α → α → Ordering} {l : List α}

/-- Comparing by a key. -/
theorem transCmp_on (cmp : α → α → Ordering) [Std.TransCmp cmp] (key : β → α) :
    Std.TransCmp fun a b => cmp (key a) (key b) where
  eq_swap := @fun _ _ => @Std.OrientedCmp.eq_swap _ cmp _ _ _
  isLE_trans := @fun _ _ _ => @Std.TransCmp.isLE_trans _ cmp _ _ _ _

/-- Where no two elements share a key, each is the first with its own. -/
theorem find?_key {K : Type} [DecidableEq K] {key : α → K} {a : α}
    (hkeys : (l.map key).Nodup) (ha : a ∈ l) : l.find? (fun b => decide (key b = key a)) = some a := by
  have hsome : (l.find? fun b => decide (key b = key a)).isSome = true :=
    find?_isSome.mpr ⟨a, ha, decide_eq_true rfl⟩
  obtain ⟨b, hb⟩ := Option.isSome_iff_exists.mp hsome
  have hsame : key b = key a := by simpa using find?_some hb
  rw [hb, inj_on_of_nodup_map hkeys (mem_of_find?_eq_some hb) ha hsame]

/-- What a sort puts first: nothing before it is as good, and nothing after it is better. -/
def Leads (cmp : α → α → Ordering) (l : List α) (m : α) : Prop :=
  ∃ before after, l = before ++ m :: after ∧ (∀ b ∈ before, cmp m b = .lt) ∧
    ∀ a ∈ after, cmp m a ≠ .gt

theorem Leads.mem {m : α} (h : Leads cmp l m) : m ∈ l := by
  obtain ⟨before, after, rfl, -, -⟩ := h
  exact mem_append_right before mem_cons_self

theorem Leads.least {m : α} [Std.ReflCmp cmp] (h : Leads cmp l m) :
    ∀ a ∈ l, cmp m a ≠ .gt := by
  obtain ⟨before, after, rfl, hbefore, hafter⟩ := h
  intro a ha
  rcases mem_append.mp ha with ha | ha
  · rw [hbefore a ha]
    exact Ordering.noConfusion
  · rcases mem_cons.mp ha with rfl | ha
    · rw [show cmp a a = .eq from Std.ReflCmp.compare_self]
      exact Ordering.noConfusion
    · exact hafter a ha

theorem orderedInsert_of_least {a : α} (h : ∀ b ∈ l, cmp a b ≠ .gt) :
    l.orderedInsert (cmp · · ≠ .gt) a = a :: l := by
  cases l with
  | nil => rfl
  | cons b l => exact orderedInsert_cons_of_le _ l (h b mem_cons_self)

section Sorted

variable [Std.TransCmp cmp]

variable {a m : α}

theorem ne_gt_trans {b c : α} (hab : cmp a b ≠ .gt) (hbc : cmp b c ≠ .gt) : cmp a c ≠ .gt :=
  Ordering.isLE_iff_ne_gt.mp (Std.TransCmp.isLE_trans (Ordering.isLE_iff_ne_gt.mpr hab)
    (Ordering.isLE_iff_ne_gt.mpr hbc))

theorem ne_gt_total (a b : α) : cmp a b ≠ .gt ∨ cmp b a ≠ .gt := by
  by_cases h : cmp a b = .gt
  · refine .inr ?_
    rw [@Std.OrientedCmp.eq_swap _ cmp _ b, h]
    exact Ordering.noConfusion
  · exact .inl h

theorem lt_of_not_ne_gt {b : α} (h : ¬ cmp a b ≠ .gt) : cmp b a = .lt := by
  rw [@Std.OrientedCmp.eq_swap _ cmp _ b, not_not.mp h]
  rfl

theorem pairwise_insertionSort (l : List α) :
    (l.insertionSort (cmp · · ≠ .gt)).Pairwise (cmp · · ≠ .gt) := by
  have : Std.Total fun a b : α => cmp a b ≠ .gt := ⟨ne_gt_total⟩
  have : IsTrans α fun a b => cmp a b ≠ .gt := ⟨fun _ _ _ => ne_gt_trans⟩
  exact List.pairwise_insertionSort _ l

theorem leads_cons_of_ne_gt (h : Leads cmp l m) (ham : cmp a m ≠ .gt) : Leads cmp (a :: l) a :=
  ⟨[], l, rfl, by simp, fun b hb => ne_gt_trans ham (h.least b hb)⟩

theorem leads_cons_of_gt (h : Leads cmp l m) (ham : ¬ cmp a m ≠ .gt) : Leads cmp (a :: l) m := by
  obtain ⟨before, after, rfl, hbefore, hafter⟩ := h
  refine ⟨a :: before, after, rfl, fun b hb => ?_, hafter⟩
  rcases mem_cons.mp hb with rfl | hb
  · exact lt_of_not_ne_gt ham
  · exact hbefore b hb

/-- The head of a sorted list leads it. -/
theorem leads_of_head? (h : (l.insertionSort (cmp · · ≠ .gt)).head? = some m) : Leads cmp l m := by
  induction l generalizing m with
  | nil => cases h
  | cons a l ih =>
    rw [insertionSort_cons] at h
    cases hsorted : l.insertionSort (cmp · · ≠ .gt) with
    | nil =>
      rw [hsorted, orderedInsert_nil] at h
      cases h
      have hl : l = [] := by
        have := length_insertionSort (cmp · · ≠ .gt) l
        rw [hsorted] at this
        exact eq_nil_of_length_eq_zero this.symm
      subst hl
      exact ⟨[], [], rfl, by simp, by simp⟩
    | cons b rest =>
      have hb : Leads cmp l b := ih (by rw [hsorted]; rfl)
      rw [hsorted, orderedInsert_cons] at h
      split at h
      · next hab =>
        cases h
        exact leads_cons_of_ne_gt hb hab
      · next hab =>
        cases h
        exact leads_cons_of_gt hb hab

/-- No list has two leaders. -/
theorem Leads.unique {m' : α} (h : Leads cmp l m) (h' : Leads cmp l m') : m = m' := by
  obtain ⟨before, after, rfl, hbefore, hafter⟩ := h
  obtain ⟨before', after', heq, hbefore', hafter'⟩ := h'
  have hne : ∀ {x y : α}, cmp x y = .lt → cmp y x ≠ .gt → False := by
    intro x y hlt hle
    rw [@Std.OrientedCmp.eq_swap _ cmp _ y, hlt] at hle
    exact hle rfl
  rcases append_eq_append_iff.mp heq with ⟨mid, hbefore_eq, htail⟩ | ⟨mid, hbefore_eq, htail⟩
  · cases mid with
    | nil => exact (List.cons.inj htail).1
    | cons x mid =>
      obtain ⟨rfl, hafter_eq⟩ := List.cons.inj htail
      have hm' : m' ∈ after := by rw [hafter_eq]; simp
      exact (hne (hbefore' m (by rw [hbefore_eq]; simp)) (hafter m' hm')).elim
  · cases mid with
    | nil => exact (List.cons.inj htail).1.symm
    | cons x mid =>
      obtain ⟨rfl, hafter_eq⟩ := List.cons.inj htail
      have hm : m ∈ after' := by rw [hafter_eq]; simp
      exact (hne (hbefore m' (by rw [hbefore_eq]; simp)) (hafter' m hm)).elim

/-- **What a stable sort puts first.** -/
theorem head?_insertionSort_iff :
    (l.insertionSort (cmp · · ≠ .gt)).head? = some m ↔ Leads cmp l m := by
  refine ⟨leads_of_head?, fun h => ?_⟩
  cases hhead : (l.insertionSort (cmp · · ≠ .gt)).head? with
  | none =>
    have hnil := head?_eq_none_iff.mp hhead
    have := (mem_insertionSort (cmp · · ≠ .gt)).mpr h.mem
    rw [hnil] at this
    cases this
  | some m' => rw [h.unique (leads_of_head? hhead)]

/-- **The order of a list does not matter to its sort**, when no two different elements tie. -/
theorem insertionSort_congr {l' : List α} (hperm : l.Perm l')
    (hties : ∀ a ∈ l, ∀ b ∈ l, cmp a b = .eq → a = b) :
    l.insertionSort (cmp · · ≠ .gt) = l'.insertionSort (cmp · · ≠ .gt) := by
  refine List.Perm.eq_of_pairwise ?_ (pairwise_insertionSort l) (pairwise_insertionSort l') ?_
  · intro a b ha hb hab hba
    have ha : a ∈ l := (mem_insertionSort _).mp ha
    have hb : b ∈ l := hperm.mem_iff.mpr ((mem_insertionSort _).mp hb)
    refine hties a ha b hb ?_
    exact Std.OrientedCmp.isLE_antisymm (Ordering.isLE_iff_ne_gt.mpr hab)
      (Ordering.isLE_iff_ne_gt.mpr hba)
  · exact (perm_insertionSort _ l).trans (hperm.trans (perm_insertionSort _ l').symm)

theorem filter_orderedInsert (p : α → Bool) (hl : l.Pairwise (cmp · · ≠ .gt)) :
    (l.orderedInsert (cmp · · ≠ .gt) a).filter p =
      if p a then (l.filter p).orderedInsert (cmp · · ≠ .gt) a else l.filter p := by
  induction l with
  | nil => simp [filter_cons]
  | cons b l ih =>
    obtain ⟨hb, hl⟩ := pairwise_cons.mp hl
    by_cases hab : cmp a b ≠ .gt
    · have hleast : ∀ c ∈ (b :: l).filter p, cmp a c ≠ .gt := by
        intro c hc
        rcases mem_cons.mp (mem_of_mem_filter hc) with rfl | hc
        · exact hab
        · exact ne_gt_trans hab (hb c hc)
      rw [orderedInsert_cons_of_le _ l hab, filter_cons, orderedInsert_of_least hleast]
    · rw [orderedInsert_of_not_le _ l hab, filter_cons, ih hl, filter_cons]
      by_cases hpb : p b = true
      · simp only [hpb, if_true]
        split
        · exact (orderedInsert_of_not_le (cmp · · ≠ .gt) (l.filter p) hab).symm
        · rfl
      · simp only [hpb]
        rfl

/-- **Sorting and filtering commute**: a stable sort moves no element past one that is left out. -/
theorem filter_insertionSort (p : α → Bool) (l : List α) :
    (l.insertionSort (cmp · · ≠ .gt)).filter p =
      (l.filter p).insertionSort (cmp · · ≠ .gt) := by
  induction l with
  | nil => rfl
  | cons a l ih =>
    rw [insertionSort_cons, filter_orderedInsert p (pairwise_insertionSort l), ih, filter_cons]
    split
    · rfl
    · rfl

/-- **What a search of a sorted list finds**, when no two different elements tie. -/
theorem find?_insertionSort_iff (p : α → Bool) (hties : ∀ a ∈ l, ∀ b ∈ l, cmp a b = .eq → a = b) :
    (l.insertionSort (cmp · · ≠ .gt)).find? p = some m ↔
      m ∈ l ∧ p m = true ∧ ∀ a ∈ l, p a = true → cmp m a ≠ .gt := by
  have hfind : (l.insertionSort (cmp · · ≠ .gt)).find? p = some m ↔ Leads cmp (l.filter p) m := by
    rw [← head?_filter, filter_insertionSort, head?_insertionSort_iff]
  rw [hfind]
  constructor
  · intro h
    obtain ⟨hm, hp⟩ := mem_filter.mp h.mem
    exact ⟨hm, hp, fun a ha hpa => h.least a (mem_filter.mpr ⟨ha, hpa⟩)⟩
  · rintro ⟨hm, hp, hleast⟩
    cases hhead : ((l.filter p).insertionSort (cmp · · ≠ .gt)).head? with
    | none =>
      have hmem := (mem_insertionSort (cmp · · ≠ .gt)).mpr (mem_filter.mpr ⟨hm, hp⟩)
      rw [head?_eq_none_iff.mp hhead] at hmem
      cases hmem
    | some m' =>
      have hleads := leads_of_head? hhead
      obtain ⟨hm', hp'⟩ := mem_filter.mp hleads.mem
      have hle := hleads.least m (mem_filter.mpr ⟨hm, hp⟩)
      have htie : cmp m m' = .eq := Std.OrientedCmp.isLE_antisymm
        (Ordering.isLE_iff_ne_gt.mpr (hleast m' hm' hp')) (Ordering.isLE_iff_ne_gt.mpr hle)
      exact hties m hm m' hm' htie ▸ hleads

/-- A search that goes on after a hit, unless the hit stops it. -/
def search (hits stops : α → Bool) : List α → List α
  | [] => []
  | a :: l =>
    if hits a then a :: (if stops a then [] else search hits stops l) else search hits stops l

/-- **What such a search finds** in ascending order. -/
theorem mem_search_iff (hits stops : α → Bool) (hl : l.Pairwise (cmp · · = .lt)) :
    a ∈ search hits stops l ↔
      a ∈ l ∧ hits a = true ∧ ∀ b ∈ l, hits b = true → stops b = true → cmp a b ≠ .gt := by
  induction hl with
  | nil => simp [search]
  | @cons b l hlt _ ih =>
    have hself : cmp b b ≠ .gt := by simp [Std.ReflCmp.compare_self]
    have htail : ∀ c ∈ l, cmp c b = .gt := fun c hc => Std.OrientedCmp.gt_of_lt (hlt c hc)
    grind [search]

end Sorted

end Ranking
