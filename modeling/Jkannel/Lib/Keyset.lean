import Mathlib.Data.List.Sort

/-!
# Keyset paging

A table kept in descending order of a numeric key is read page by page: a page holds at most
`size` rows, and a cursor says where the next one starts, as the key its rows must lie strictly
below.  This file is about a reader of that kind which takes its cursor from *the first row the
page left out*, and about what following the cursors to the end then yields.

* `page key size rows cursor` is one page; `follow fetch fuel cursor` follows the cursors of any
  paged reader, and is `none` while the fuel does not reach the last page.
* `kept size rows` is what the walk reads of `rows`: of every `size + 1` consecutive rows it keeps
  the first `size`.
* `follow_page` is the induction over the pages: with a strictly descending key the walk
  terminates and reads exactly `kept size rows`.
* `kept_eq_self_iff` says when that is everything: only when the rows fit in a single page, and
  `length_kept` how much it is.

So the strict predicate and the cursor taken one row too far are each harmless alone, and together
cost one row a page.
-/

namespace Keyset

open List Option

universe u

variable {α : Type u}

/-- What a paged reader answers: the rows of the page, and the cursor of the next one. -/
structure Page (α : Type u) where
  /-- The rows of the page. -/
  items : List α
  /-- Where the next page starts; `none` on the last page. -/
  next : Option Nat

/-- Whether a key lies strictly below the cursor, which every key does when there is none. -/
def below : Option Nat → Nat → Bool
  | none, _ => true
  | some c, k => decide (k < c)

@[simp] theorem below_none (k : Nat) : below none k = true := rfl

/-- One page of `rows`: the first `size` of those strictly below the cursor, and as the next
cursor the key of the first row that did not fit. -/
def page (key : α → Nat) (size : Nat) (rows : List α) (cursor : Option Nat) : Page α :=
  let rest := rows.filter fun r => below cursor (key r)
  { items := rest.take size, next := (rest[size]?).map key }

/-- Follow the cursors of a paged reader to its last page, collecting the rows.  `none` when the
last page is not among the first `fuel`, or when the reader refuses one of them. -/
def follow (fetch : Option Nat → Option (Page α)) : Nat → Option Nat → Option (List α)
  | 0, _ => none
  | fuel + 1, cursor => (fetch cursor).bind fun p =>
    match p.next with
    | none => some p.items
    | some c => (follow fetch fuel (some c)).map fun more => p.items ++ more

variable {fetch : Option Nat → Option (Page α)} {rows : List α} {n size : Nat} {r : α}
  {cursor : Option Nat}

/-- More fuel changes nothing once the walk has ended. -/
theorem follow_mono {fuel fuel' : Nat} (hle : fuel ≤ fuel')
    (h : follow fetch fuel cursor = some rows) : follow fetch fuel' cursor = some rows := by
  induction fuel generalizing fuel' cursor rows with
  | zero => simp [follow] at h
  | succ fuel ih =>
    obtain ⟨n, rfl⟩ : ∃ n, fuel' = n + 1 := ⟨fuel' - 1, by omega⟩
    simp only [follow, bind_eq_some_iff] at h ⊢
    obtain ⟨p, hp, hrows⟩ := h
    refine ⟨p, hp, ?_⟩
    cases hn : p.next with
    | none => simpa [hn] using hrows
    | some c =>
      simp only [hn, map_eq_some_iff] at hrows ⊢
      obtain ⟨more, hmore, rfl⟩ := hrows
      exact ⟨more, ih (by omega) hmore, rfl⟩

/-- A walk has at most one outcome. -/
theorem follow_unique {m : Nat} {xs ys : List α}
    (hx : follow fetch m cursor = some xs) (hy : follow fetch n cursor = some ys) : xs = ys := by
  have hx' := follow_mono (Nat.le_max_left m n) hx
  have hy' := follow_mono (Nat.le_max_right m n) hy
  exact some.inj (hx'.symm.trans hy')

/-! ## What the walk keeps -/

/-- Of every `size + 1` consecutive rows, the first `size`. -/
def kept (size : Nat) (rows : List α) : List α :=
  if rows.length ≤ size then rows else rows.take size ++ kept size (rows.drop (size + 1))
termination_by rows.length
decreasing_by simp only [length_drop]; omega

theorem kept_of_le (h : rows.length ≤ size) : kept size rows = rows := by
  rw [kept, if_pos h]

theorem kept_of_lt (h : size < rows.length) :
    kept size rows = rows.take size ++ kept size (rows.drop (size + 1)) := by
  rw [kept, if_neg (by omega)]

theorem kept_sublist (size : Nat) (rows : List α) : (kept size rows).Sublist rows := by
  induction rows using kept.induct size with
  | case1 rows h => rw [kept_of_le h]
  | case2 rows h ih =>
    rw [kept_of_lt (by omega)]
    have hskip : (rows.drop (size + 1)).Sublist (rows.drop size) := by
      rw [← drop_drop]
      exact drop_sublist _ _
    have hrest := (List.Sublist.refl (rows.take size)).append (ih.trans hskip)
    rwa [take_append_drop] at hrest

/-- **The walk keeps everything exactly when there is one page.** -/
theorem kept_eq_self_iff : kept size rows = rows ↔ rows.length ≤ size := by
  refine ⟨fun h => ?_, kept_of_le⟩
  by_contra hlt
  have hsub : (kept size (rows.drop (size + 1))).length ≤ (rows.drop (size + 1)).length :=
    (kept_sublist _ _).length_le
  have hlen : (kept size rows).length = rows.length := by rw [h]
  rw [kept_of_lt (by omega), length_append, length_take] at hlen
  rw [length_drop] at hsub
  omega

/-- One row is lost for every `size + 1`. -/
theorem length_kept (size : Nat) (rows : List α) :
    (kept size rows).length = rows.length - rows.length / (size + 1) := by
  induction rows using kept.induct size with
  | case1 rows h => rw [kept_of_le h, Nat.div_eq_of_lt (by omega), Nat.sub_zero]
  | case2 rows h ih =>
    have hdiv := Nat.div_eq rows.length (size + 1)
    have hle := Nat.div_le_self (rows.length - (size + 1)) (size + 1)
    rw [if_pos ⟨Nat.succ_pos size, by omega⟩] at hdiv
    rw [kept_of_lt (by omega), length_append, ih, length_take, length_drop]
    omega

/-! ## The walk -/

variable {key : α → Nat}

/-- Rows with a strictly descending key. -/
def Descending (key : α → Nat) (rows : List α) : Prop :=
  rows.Pairwise fun a b => key b < key a

/-- Rows in descending order are determined by which they are. -/
theorem Descending.eq_of_perm {xs ys : List α} (hx : Descending key xs) (hy : Descending key ys)
    (hp : xs.Perm ys) : xs = ys :=
  hp.eq_of_pairwise (fun _ _ _ _ hab hba => absurd (Nat.lt_trans hab hba) (Nat.lt_irrefl _)) hx hy

section Sorting

variable {r : α → α → Prop} [DecidableRel r] (hr : ∀ a b, r a b ↔ key b ≤ key a)
include hr

/-- Sorting rows with distinct keys in descending order makes the order strict. -/
theorem descending_insertionSort {rows : List α} (hd : (rows.map key).Nodup) :
    Descending key (rows.insertionSort r) := by
  have : Std.Total r := ⟨fun a b => by simp only [hr]; omega⟩
  have : IsTrans α r := ⟨fun a b c => by simp only [hr]; omega⟩
  have hsorted : (rows.insertionSort r).Pairwise r := List.pairwise_insertionSort r rows
  have hdist : (rows.insertionSort r).Pairwise fun a b => key a ≠ key b := by
    rw [← pairwise_map (R := fun x y => x ≠ y)]
    exact ((perm_insertionSort r rows).map key).nodup_iff.mpr hd
  refine (hsorted.and hdist).imp fun {a b} h => ?_
  have hle := (hr a b).mp h.1
  have hne := h.2
  omega

/-- Selecting rows and sorting them is sorting them and selecting. -/
theorem insertionSort_filter {rows : List α} (hd : (rows.map key).Nodup) (p : α → Bool) :
    (rows.filter p).insertionSort r = (rows.insertionSort r).filter p := by
  have hsub : ((rows.filter p).map key).Nodup := hd.sublist (filter_sublist.map key)
  refine Descending.eq_of_perm (descending_insertionSort hr hsub)
    ((descending_insertionSort hr hd).sublist filter_sublist) ?_
  exact (perm_insertionSort r _).trans ((perm_insertionSort r rows).filter p).symm

end Sorting

/-- In a descending list, the rows strictly below one of its own keys are those behind it. -/
theorem Descending.filter_below (h : Descending key rows) (hr : rows[n]? = some r) :
    (rows.filter fun x => below (some (key r)) (key x)) = rows.drop (n + 1) := by
  induction rows generalizing n with
  | nil => simp at hr
  | cons a rows ih =>
    obtain ⟨hhead, htail⟩ := pairwise_cons.mp h
    cases n with
    | zero =>
      obtain rfl : a = r := by simpa using hr
      have hall : ∀ x ∈ rows, below (some (key a)) (key x) = true := fun x hx => by
        simpa [below] using hhead x hx
      rw [filter_cons_of_neg (by simp [below]), filter_eq_self.mpr hall]
      rfl
    | succ n =>
      have hr' : rows[n]? = some r := by simpa using hr
      have hlt : key r < key a := hhead r (mem_of_getElem? hr')
      have hnot : below (some (key r)) (key a) = false := by simp [below]; omega
      rw [filter_cons_of_neg (by simp [hnot]), ih htail hr']
      rfl

/-- A page of a descending list that is large enough for the rows above a mark has them all. -/
theorem Descending.filter_above_take (h : Descending key rows) {mark : Nat}
    (hsize : (rows.filter fun r => decide (mark < key r)).length ≤ size) :
    (rows.take size).filter (fun r => decide (mark < key r)) =
      rows.filter fun r => decide (mark < key r) := by
  induction rows generalizing size with
  | nil => rw [take_nil]
  | cons a rows ih =>
    obtain ⟨hhead, htail⟩ := pairwise_cons.mp h
    by_cases ha : mark < key a
    · rw [filter_cons_of_pos (by simpa using ha), length_cons] at hsize
      obtain ⟨n, rfl⟩ : ∃ n, size = n + 1 := ⟨size - 1, by omega⟩
      rw [take_succ_cons, filter_cons_of_pos (by simpa using ha),
        filter_cons_of_pos (by simpa using ha), ih htail (by omega)]
    · -- nothing in the list is above the mark
      have hnone : ∀ x ∈ a :: rows, ¬ decide (mark < key x) = true := by
        intro x hx
        rw [decide_eq_true_eq]
        rcases mem_cons.mp hx with rfl | hx
        · exact ha
        · have := hhead x hx
          omega
      rw [filter_eq_nil_iff.mpr hnone, filter_eq_nil_iff]
      exact fun x hx => hnone x (mem_of_mem_take hx)

/-- A page behind a row of the list is a page of what the list has behind that row. -/
theorem page_of_getElem? (h : Descending key rows) (size : Nat) (hr : rows[n]? = some r) :
    page key size rows (some (key r)) = page key size (rows.drop (n + 1)) none := by
  have hall : ((rows.drop (n + 1)).filter fun x => below none (key x)) = rows.drop (n + 1) :=
    filter_eq_self.mpr fun _ _ => rfl
  simp only [page, h.filter_below hr, hall]

theorem page_none (key : α → Nat) (size : Nat) (rows : List α) :
    page key size rows none = { items := rows.take size, next := (rows[size]?).map key } := by
  have hall : (rows.filter fun x => below none (key x)) = rows :=
    filter_eq_self.mpr fun _ _ => rfl
  simp only [page, hall]

/-- A walk that has passed the first `n + 1` rows is a walk over the rest. -/
theorem follow_drop (h : Descending key rows) (hr : rows[n]? = some r) (fuel : Nat) :
    follow (fun c => some (page key size rows c)) fuel (some (key r)) =
      follow (fun c => some (page key size (rows.drop (n + 1)) c)) fuel none := by
  induction fuel generalizing rows n r with
  | zero => rfl
  | succ fuel ih =>
    have hpage := page_of_getElem? h size hr
    simp only [follow, hpage, bind_some]
    cases hn : (page key size (rows.drop (n + 1)) none).next with
    | none => rfl
    | some c =>
      have hc : ((rows.drop (n + 1))[size]?).map key = some c := by
        rw [← hn, page_none]
      obtain ⟨r', hr', rfl⟩ := map_eq_some_iff.mp hc
      have hrow : rows[n + 1 + size]? = some r' := by rw [← getElem?_drop]; exact hr'
      have hrest : Descending key (rows.drop (n + 1)) := h.sublist (drop_sublist _ _)
      -- both walks go on behind the same row, counted from two starting points
      simp only [ih h hrow, ih hrest hr', drop_drop]
      rfl

/-- **The walk, run to its end.**  Over rows of strictly descending key it terminates, and reads
what `kept` keeps of them. -/
theorem follow_page (h : Descending key rows) (size : Nat) {fuel : Nat}
    (hfuel : rows.length < fuel) :
    follow (fun c => some (page key size rows c)) fuel none = some (kept size rows) := by
  induction fuel generalizing rows with
  | zero => omega
  | succ fuel ih =>
    simp only [follow, page_none, bind_some]
    cases hr : rows[size]? with
    | none =>
      have hle : rows.length ≤ size := List.getElem?_eq_none_iff.mp hr
      simp [kept_of_le hle, take_of_length_le hle]
    | some r =>
      have hlt : size < rows.length := (List.getElem?_eq_some_iff.mp hr).1
      have hrest : Descending key (rows.drop (size + 1)) := h.sublist (drop_sublist _ _)
      have hshort : (rows.drop (size + 1)).length < fuel := by
        rw [length_drop]; omega
      simp only [map_some, follow_drop h hr, ih hrest hshort]
      rw [kept_of_lt hlt]

/-- A reader only ever asked for the cursors it handed out is followed like `page` as soon as it
answers those, and the first page, like `page`. -/
theorem follow_eq_follow_page (hfirst : fetch none = some (page key size rows none))
    (hnext : ∀ r ∈ rows, fetch (some (key r)) = some (page key size rows (some (key r))))
    (fuel : Nat) :
    follow fetch fuel none = follow (fun c => some (page key size rows c)) fuel none := by
  have key : ∀ c, (c = none ∨ ∃ r ∈ rows, c = some (key r)) →
      follow fetch fuel c = follow (fun c => some (page key size rows c)) fuel c := by
    induction fuel with
    | zero => intros; rfl
    | succ fuel ih =>
      intro c hc
      have hfetch : fetch c = some (page key size rows c) := by
        rcases hc with rfl | ⟨r, hr, rfl⟩
        · exact hfirst
        · exact hnext r hr
      simp only [follow, hfetch, bind_some]
      cases hn : (page key size rows c).next with
      | none => rfl
      | some c' =>
        obtain ⟨r, hr, rfl⟩ := map_eq_some_iff.mp hn
        have hmem : r ∈ rows := (mem_filter.mp (mem_of_getElem? hr)).1
        simp only [ih _ (.inr ⟨r, hmem, rfl⟩)]
  exact key none (.inl rfl)

/-- Following the cursors from the first page to the last yields each of `rows` exactly once, in
descending order of the key. -/
def Lossless (key : α → Nat) (fetch : Option Nat → Option (Page α)) (rows : List α) : Prop :=
  ∃ fuel items, follow fetch fuel none = some items ∧ Descending key items ∧ items.Perm rows

/-- **When nothing is lost on the way**: a reader that pages `sorted` as `page` does yields every
row exactly when one page holds them all. -/
theorem lossless_iff {sorted : List α} (hd : Descending key sorted) (hp : sorted.Perm rows)
    (hfirst : fetch none = some (page key size sorted none))
    (hnext : ∀ r ∈ sorted, fetch (some (key r)) = some (page key size sorted (some (key r)))) :
    Lossless key fetch rows ↔ rows.length ≤ size := by
  have hwalk : follow fetch (sorted.length + 1) none = some (kept size sorted) := by
    rw [follow_eq_follow_page hfirst hnext]
    exact follow_page hd size (Nat.lt_succ_self _)
  rw [← hp.length_eq, ← kept_eq_self_iff]
  constructor
  · rintro ⟨fuel, items, hfollow, hdesc, hperm⟩
    have hitems : items = sorted := hdesc.eq_of_perm hd (hperm.trans hp.symm)
    rw [follow_unique hwalk hfollow, hitems]
  · intro hkept
    exact ⟨_, sorted, hkept ▸ hwalk, hd, hp⟩

end Keyset
