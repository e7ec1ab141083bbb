import Mathlib.Data.List.Nodup

/-!
# Walking a list by the last row seen

A list is read page by page.  A page is cut one row later than it is shown, so that the reader knows
whether there is more, and its cursor is made of *the last row shown*; the next page is of the rows
that the cursor selects.

* `page` is one page, `fetch` the reader, `follow` the walk to the last page.
* `follow_eq_iff` says when the walk reads the list: when the cursor of every row that ends a page
  selects the rows behind it, and no others.

Nothing is asked of a cursor but that what it selects is closed upwards in the list, up to rows that
no cursor selects at all.
-/

namespace CursorWalk

open List Option

universe u v

variable {α : Type u} {C : Type v}

/-- What a paged reader answers: the rows of the page, and the cursor of the next one. -/
structure Page (α : Type u) (C : Type v) where
  items : List α
  /-- `none` on the last page. -/
  next : Option C

/-- The first `size` rows, and when there are more the cursor of the last of them. -/
def page (cursor : α → C) (size : Nat) (rows : List α) : Page α C where
  items := rows.take size
  next := if size < rows.length then (rows.take size).getLast?.map cursor else none

/-- Follow the cursors to the last page, collecting the rows.  `none` when the last page is not
among the first `fuel`, or when the reader refuses one of them. -/
def follow (fetch : Option C → Option (Page α C)) : Nat → Option C → Option (List α)
  | 0, _ => none
  | fuel + 1, cursor => (fetch cursor).bind fun p =>
    match p.next with
    | none => some p.items
    | some c => (follow fetch fuel (some c)).map fun more => p.items ++ more

/-- A reader of `rows`; it refuses a cursor that selects nothing it knows of. -/
def fetch (cursor : α → C) (select : C → Option (α → Bool)) (size : Nat) (rows : List α) :
    Option C → Option (Page α C)
  | none => some (page cursor size rows)
  | some c => (select c).map fun p => page cursor size (rows.filter p)

section Walk

variable {cursor : α → C} {select : C → Option (α → Bool)} {size : Nat} {rows : List α}

variable {xs : List α} {fuel : Nat} {c : C} {never : α → Prop}

theorem page_of_le (h : xs.length ≤ size) : page cursor size xs = ⟨xs, none⟩ := by
  rw [page, take_of_length_le h, if_neg (by omega)]

/-- The row that ends a page which is not the last. -/
theorem page_of_lt (cursor : α → C) (hsize : 0 < size) (h : size < xs.length) :
    ∃ r, xs[size - 1]? = some r ∧ page cursor size xs = ⟨xs.take size, some (cursor r)⟩ := by
  have hlt : size - 1 < xs.length := by omega
  refine ⟨xs[size - 1], getElem?_eq_getElem hlt, ?_⟩
  have hlast : (xs.take size).getLast? = some xs[size - 1] := by
    rw [getLast?_eq_getElem?, length_take_of_le (by omega), getElem?_take_of_lt
      (by omega), getElem?_eq_getElem hlt]
  rw [page, if_pos h, hlast, map_some]

/-- Pages of no rows end at once. -/
theorem page_zero (xs : List α) : page cursor 0 xs = ⟨[], none⟩ := by
  rw [page, take_zero]
  split <;> rfl

theorem follow_zero (h : follow (fetch cursor select 0 rows) fuel none = some xs) : xs = [] := by
  cases fuel with
  | zero => cases h
  | succ fuel =>
    rw [follow, fetch, page_zero] at h
    exact (some.inj h).symm

/-- What a walk from a cursor reads is selected by some cursor. -/
theorem follow_selected (h : follow (fetch cursor select size rows) fuel (some c) = some xs) (x : α)
    (hx : x ∈ xs) : ∃ c p, select c = some p ∧ p x = true := by
  induction fuel generalizing c xs with
  | zero => cases h
  | succ fuel ih =>
    obtain ⟨pg, hpg, h⟩ := bind_eq_some_iff.mp h
    obtain ⟨p, hp, rfl⟩ := map_eq_some_iff.mp hpg
    have hitem : x ∈ (page cursor size (rows.filter p)).items → ∃ c p, select c = some p ∧
        p x = true := fun hmem =>
      ⟨c, p, hp, (mem_filter.mp (mem_of_mem_take hmem)).2⟩
    split at h
    · cases h
      exact hitem hx
    · obtain ⟨more, hmore, rfl⟩ := map_eq_some_iff.mp h
      rcases mem_append.mp hx with hx | hx
      · exact hitem hx
      · exact ih hmore hx

/-- Every row that ends a page from the `k`-th on has a cursor that selects what is behind it. -/
def Exact (cursor : α → C) (select : C → Option (α → Bool)) (size : Nat) (rows : List α)
    (k : Nat) : Prop :=
  ∀ j, k ≤ j → (j + 1) * size < rows.length → ∀ r, rows[(j + 1) * size - 1]? = some r →
    ∃ p, select (cursor r) = some p ∧ rows.filter p = rows.drop ((j + 1) * size)

/-- The row that ends the page which starts at the `k`-th. -/
theorem getElem?_page (hsize : 0 < size) (k : Nat) :
    (rows.drop (k * size))[size - 1]? = rows[(k + 1) * size - 1]? := by
  rw [getElem?_drop]
  congr 1
  rw [Nat.succ_mul]
  omega

/-- From a page on whose cursors are exact, the walk reads all there is. -/
theorem follow_of_exact (hsize : 0 < size) (fuel : Nat) {k : Nat} {c : Option C}
    (hfetch : fetch cursor select size rows c = some (page cursor size (rows.drop (k * size))))
    (hexact : Exact cursor select size rows k) (hfuel : (rows.drop (k * size)).length < fuel) :
    follow (fetch cursor select size rows) fuel c = some (rows.drop (k * size)) := by
  induction fuel generalizing k c with
  | zero => omega
  | succ fuel ih =>
    rw [follow, hfetch, bind_some]
    by_cases hlast : (rows.drop (k * size)).length ≤ size
    · rw [page_of_le hlast]
    · obtain ⟨r, hr, hpage⟩ := page_of_lt cursor hsize (Nat.not_le.mp hlast)
      rw [hpage]
      rw [length_drop] at hlast hfuel
      have hmul : (k + 1) * size = k * size + size := Nat.succ_mul k size
      rw [getElem?_page hsize] at hr
      obtain ⟨p, hp, hfilter⟩ := hexact k (Nat.le_refl k) (by omega) r hr
      have hnext : fetch cursor select size rows (some (cursor r)) =
          some (page cursor size (rows.drop ((k + 1) * size))) := by
        rw [fetch, hp, map_some, hfilter]
      have hrest := ih hnext (fun j hj => hexact j (Nat.le_of_succ_le hj))
        (by rw [length_drop]; omega)
      simp only [hrest, map_some]
      rw [hmul, ← drop_drop, take_append_drop]

/-- A walk from a cursor begins with what the cursor selects, and reads nothing when that is
nothing. -/
theorem follow_head (h : follow (fetch cursor select size rows) fuel (some c) = some xs) :
    ∃ p, select c = some p ∧ (∃ more, xs = (rows.filter p).take size ++ more) ∧
      (rows.filter p = [] → xs = []) := by
  cases fuel with
  | zero => cases h
  | succ fuel =>
    obtain ⟨pg, hpg, h⟩ := bind_eq_some_iff.mp h
    obtain ⟨p, hp, rfl⟩ := map_eq_some_iff.mp hpg
    refine ⟨p, hp, ?_, fun hnone => ?_⟩
    · split at h
      · exact ⟨[], by rw [append_nil]; exact (some.inj h).symm⟩
      · obtain ⟨more, -, rfl⟩ := map_eq_some_iff.mp h
        exact ⟨more, rfl⟩
    · rw [hnone, page_of_le (Nat.zero_le _)] at h
      exact (some.inj h).symm

/-- A cursor from which the walk reads the rest of the list selects that rest. -/
theorem filter_eq_drop (hsize : 0 < size) (hnodup : rows.Nodup)
    (hnever : ∀ c p x, select c = some p → never x → p x = false)
    (hupper : ∀ c p, select c = some p →
      rows.Pairwise fun x z => p x = true → p z = true ∨ never z) {start : Nat}
    (hstart : start < rows.length)
    (hfollow : follow (fetch cursor select size rows) fuel (some c) = some (rows.drop start)) :
    ∃ p, select c = some p ∧ rows.filter p = rows.drop start := by
  obtain ⟨p, hp, ⟨more, hmore⟩, hempty⟩ := follow_head hfollow
  refine ⟨p, hp, ?_⟩
  have hcons : rows.drop start = rows[start] :: rows.drop (start + 1) :=
    drop_eq_getElem_cons hstart
  have hsplit : rows.filter p = (rows.take start).filter p ++ (rows.drop start).filter p := by
    rw [← filter_append, take_append_drop]
  -- the first row that is selected is the first of the rest
  obtain ⟨tail, htail⟩ : ∃ tail, rows.filter p = rows[start] :: tail := by
    cases hfilter : rows.filter p with
    | nil =>
      rw [hempty hfilter] at hcons
      cases hcons
    | cons y tail =>
      obtain ⟨n, rfl⟩ : ∃ n, size = n + 1 := ⟨size - 1, by omega⟩
      rw [hfilter, take_succ_cons, hcons] at hmore
      exact ⟨tail, by rw [(List.cons.inj hmore).1]⟩
  have hbefore : (rows.take start).filter p = [] := by
    cases hfilter : (rows.take start).filter p with
    | nil => rfl
    | cons y others =>
      rw [hfilter, htail] at hsplit
      have hy : y = rows[start] := (List.cons.inj hsplit).1.symm
      have htaken : y ∈ rows.take start :=
        (mem_filter.mp (hfilter ▸ mem_cons_self : y ∈ (rows.take start).filter p)).1
      have hdropped : y ∈ rows.drop start := by
        rw [hcons, hy]
        exact mem_cons_self
      exact absurd hdropped (disjoint_take_drop hnodup (Nat.le_refl _) htaken)
  rw [hsplit, hbefore, nil_append, filter_eq_self]
  have hfirst : p rows[start] = true :=
    (mem_filter.mp (htail ▸ mem_cons_self : rows[start] ∈ rows.filter p)).2
  intro z hz
  rw [hcons] at hz
  rcases mem_cons.mp hz with rfl | hz
  · exact hfirst
  · have hpairs := (hupper c p hp).sublist (drop_sublist start rows)
    rw [hcons] at hpairs
    refine ((pairwise_cons.mp hpairs).1 z hz hfirst).resolve_right fun hz' => ?_
    obtain ⟨c', p', hp', hselected⟩ := follow_selected hfollow z (hcons ▸ mem_cons_of_mem _ hz)
    rw [hnever c' p' z hp' hz'] at hselected
    cases hselected

/-- A walk that reads the list goes from exact cursor to exact cursor. -/
theorem exact_of_follow (hsize : 0 < size) (hnodup : rows.Nodup)
    (hnever : ∀ c p x, select c = some p → never x → p x = false)
    (hupper : ∀ c p, select c = some p →
      rows.Pairwise fun x z => p x = true → p z = true ∨ never z) {k : Nat} {c : Option C}
    (hfetch : fetch cursor select size rows c = some (page cursor size (rows.drop (k * size))))
    (hfollow : follow (fetch cursor select size rows) fuel c = some (rows.drop (k * size))) :
    Exact cursor select size rows k := by
  induction fuel generalizing k c with
  | zero => cases hfollow
  | succ fuel ih =>
    have hmul : (k + 1) * size = k * size + size := Nat.succ_mul k size
    rw [follow, hfetch, bind_some] at hfollow
    by_cases hlast : (rows.drop (k * size)).length ≤ size
    · -- this page is the last
      intro j hj hlt
      rw [length_drop] at hlast
      have hle : (k + 1) * size ≤ (j + 1) * size := Nat.mul_le_mul_right _ (by omega)
      omega
    · obtain ⟨r, hr, hpage⟩ := page_of_lt cursor hsize (Nat.not_le.mp hlast)
      rw [hpage] at hfollow
      obtain ⟨more, hmore, heq⟩ := map_eq_some_iff.mp hfollow
      have hsplit : (rows.drop (k * size)).take size ++ more =
          (rows.drop (k * size)).take size ++ rows.drop ((k + 1) * size) := by
        rw [heq, hmul, ← drop_drop, take_append_drop]
      obtain rfl := append_cancel_left hsplit
      rw [length_drop] at hlast
      rw [getElem?_page hsize] at hr
      obtain ⟨p, hp, hfilter⟩ : ∃ p, select (cursor r) = some p ∧
          rows.filter p = rows.drop ((k + 1) * size) :=
        filter_eq_drop hsize hnodup hnever hupper (by omega) hmore
      have hnext : fetch cursor select size rows (some (cursor r)) =
          some (page cursor size (rows.drop ((k + 1) * size))) := by
        rw [fetch, hp, map_some, hfilter]
      intro j hj hlt r' hr'
      rcases Nat.eq_or_lt_of_le hj with rfl | hj
      · obtain rfl := some.inj (hr.symm.trans hr')
        exact ⟨p, hp, hfilter⟩
      · exact ih hnext hmore j hj hlt r' hr'

/-- **When the walk reads the list**: exactly when the cursor of every row that ends a page selects
the rows behind it. -/
theorem follow_eq_iff (hsize : 0 < size) (hnodup : rows.Nodup)
    (hnever : ∀ c p x, select c = some p → never x → p x = false)
    (hupper : ∀ c p, select c = some p →
      rows.Pairwise fun x z => p x = true → p z = true ∨ never z) :
    (∃ fuel, follow (fetch cursor select size rows) fuel none = some rows) ↔
      Exact cursor select size rows 0 := by
  have hfirst : fetch cursor select size rows none =
      some (page cursor size (rows.drop (0 * size))) := by
    rw [Nat.zero_mul, drop_zero]
    rfl
  have hall : rows.drop (0 * size) = rows := by rw [Nat.zero_mul, drop_zero]
  constructor
  · rintro ⟨fuel, hfollow⟩
    exact exact_of_follow hsize hnodup hnever hupper hfirst (hfollow.trans (congrArg some hall.symm))
  · intro hexact
    refine ⟨rows.length + 1, ?_⟩
    have hwalk := follow_of_exact hsize (rows.length + 1) hfirst hexact
      (by rw [hall]; exact Nat.lt_succ_self _)
    rwa [hall] at hwalk

end Walk

end CursorWalk
