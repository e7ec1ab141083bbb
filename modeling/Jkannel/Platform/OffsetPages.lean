import Jkannel.Lib.Pages
import Jkannel.Platform.Grid

/-!
# What the offset pages of a grid show

An offset page is a query of its own.  The rows come in some order that the `ORDER BY` allows, which
need not be the order of another page's query where it ties rows; and the total is a column of the
rows that come back, so that a page without rows has none to read it from.

* `Answers` says what `runOffsetGrid` may answer, whatever the database makes of ties.
* `TotalRight` and `PagesRight` are what a client expects: the number of matching rows, and each
  matching row on one page.
* `offset_pages_iff` says when it gets them.
-/

namespace Jkannel.Platform.Grid

open Pages (IsOrder Arrangement Clean)

variable {R V I : Type} [LinearOrder V]

/-! ## The order of a page -/

/-- The `ORDER BY` of an offset page: what the caller asks for, or the grid's default. -/
def requestedOrder (grid : GridDefinition R V) (query : ParsedListQuery) : R → R → Bool :=
  if query.sort.isEmpty then grid.defaultOrderBy else orderBy grid query.sort

theorem Direction.lt_or_gt {K : Type} [LinearOrder K] (d : Direction) {a b : K} (h : a ≠ b) :
    d.lt a b ∨ d.lt b a :=
  (d.le_total a b).imp (fun hab => d.lt_of_le_of_ne hab h) fun hba => d.lt_of_le_of_ne hba h.symm

/-- A list of sort terms orders rows, by induction on the terms: the first that tells two rows apart
decides. -/
theorem isOrder_orderBy (grid : GridDefinition R V) (sort : List (String × Direction)) :
    IsOrder (orderBy grid sort) := by
  induction sort with
  | nil => exact ⟨fun _ _ => .inl rfl, fun _ _ _ _ _ => rfl⟩
  | cons term rest ih =>
    obtain ⟨field, direction⟩ := term
    cases hlookup : grid.sortColumns.lookup field with
    | none =>
      have heq : ∀ a b, orderBy grid ((field, direction) :: rest) a b = orderBy grid rest a b :=
        fun a b => by rw [orderBy, hlookup]
      refine ⟨fun a b => ?_, fun a b c hab hbc => ?_⟩
      · rw [heq, heq]
        exact ih.total a b
      · rw [heq] at hab hbc ⊢
        exact ih.trans a b c hab hbc
    | some column =>
      have heq : ∀ a b, orderBy grid ((field, direction) :: rest) a b =
          if sortKey column a = sortKey column b then orderBy grid rest a b
          else decide (direction.lt (sortKey column a) (sortKey column b)) := fun a b => by
        rw [orderBy, hlookup]
      refine ⟨fun a b => ?_, fun a b c hab hbc => ?_⟩
      · rw [heq, heq]
        by_cases hkey : sortKey column a = sortKey column b
        · rw [if_pos hkey, if_pos hkey.symm]
          exact ih.total a b
        · rw [if_neg hkey, if_neg (Ne.symm hkey)]
          exact (direction.lt_or_gt hkey).imp decide_eq_true decide_eq_true
      · rw [heq] at hab hbc ⊢
        by_cases hkey : sortKey column a = sortKey column b
        · rw [if_pos hkey] at hab
          rw [hkey]
          by_cases hkey' : sortKey column b = sortKey column c
          · rw [if_pos hkey'] at hbc ⊢
            exact ih.trans a b c hab hbc
          · rw [if_neg hkey'] at hbc ⊢
            exact hbc
        · rw [if_neg hkey] at hab
          have hlt := of_decide_eq_true hab
          have hlt' : direction.lt (sortKey column a) (sortKey column c) := by
            by_cases hkey' : sortKey column b = sortKey column c
            · rw [← hkey']
              exact hlt
            · rw [if_neg hkey'] at hbc
              exact direction.lt_of_lt_of_le hlt (direction.le_of_lt (of_decide_eq_true hbc))
          have hne : sortKey column a ≠ sortKey column c := by
            intro hsame
            rw [hsame] at hlt'
            exact direction.not_lt_iff.mpr (direction.le_refl _) hlt'
          rw [if_neg hne]
          exact decide_eq_true hlt'

theorem isOrder_requestedOrder {grid : GridDefinition R V} (hdefault : IsOrder grid.defaultOrderBy)
    (query : ParsedListQuery) : IsOrder (requestedOrder grid query) := by
  rw [requestedOrder]
  split
  · exact hdefault
  · exact isOrder_orderBy grid query.sort

/-! ## Answers -/

section Answers

variable (text : TextEngine) (source : GridSource R) (grid : GridDefinition R V)

/-- The answer to a query for which the database arranges the selected rows as `rows`: the window
count stands on each row that comes back. -/
def offsetResult (query : ParsedListQuery) (rows : List R) : GridResult R :=
  let items := (rows.drop query.offset).take query.limit
  { items
    total := some (if items.isEmpty then 0 else rows.length)
    limit := query.limit
    offset := some query.offset
    nextCursor := none }

/-- An offset query may be answered so. -/
def Answers (raw : RawQuery) (result : GridResult R) : Prop :=
  ∃ query rows, parseListQuery raw grid = .ok query ∧
    Arrangement (requestedOrder grid query) (selectRows text source grid query) rows ∧
    result = offsetResult query rows

/-- Every answer reports how many rows match. -/
def TotalRight (raw : RawQuery) (query : ParsedListQuery) : Prop :=
  ∀ result, Answers text source grid raw result →
    result.total = some (selectRows text source grid query).length

/-- How many pages there are. -/
def pageCount (rows limit : Nat) : Nat := (rows + limit - 1) / limit

/-- The query for a page, counted from zero. -/
def atPage (raw : RawQuery) (limit k : Nat) : RawQuery :=
  { raw with offset := .number (some (k * limit : Nat)) }

/-- The pages at the offsets 0, `limit`, twice `limit` and so on are admitted, and show each
matching row once, whatever each is answered with. -/
def PagesRight (raw : RawQuery) (query : ParsedListQuery) : Prop :=
  let selected := selectRows text source grid query
  let pages := pageCount selected.length query.limit
  (∀ k < pages, (parseListQuery (atPage raw query.limit k) grid).isOk = true) ∧
  ∀ answers : Nat → GridResult R,
    (∀ k < pages, Answers text source grid (atPage raw query.limit k) (answers k)) →
    ((List.range pages).flatMap fun k => (answers k).items).Perm selected

variable {text} {source} {grid}

variable {raw : RawQuery} {query : ParsedListQuery} {result : GridResult R}

omit [LinearOrder V] in
/-- The query of a page is the query at another offset, when that is admitted. -/
theorem parseListQuery_atPage (hparse : parseListQuery raw grid = .ok query) (limit k : Nat) :
    parseListQuery (atPage raw limit k) grid =
      if k * limit ≤ 5000000 then .ok { query with offset := k * limit }
      else .error (.badRequest "offset must be an integer between 0 and 5000000") := by
  rw [parseListQuery] at hparse ⊢
  cases hsort : parseSort grid raw.sort with
  | error e => rw [hsort] at hparse; cases hparse
  | ok sort =>
    cases hfilters : parseFilters grid raw.filters with
    | error e => rw [hsort, hfilters] at hparse; cases hparse
    | ok filters =>
      cases hlimit : boundedNumber raw.limit (grid.defaultLimit.getD 50) 1
          (grid.maxLimit.getD 500) "limit" with
      | error e => rw [hsort, hfilters, hlimit] at hparse; cases hparse
      | ok bound =>
        cases hoffset : boundedNumber raw.offset 0 0 5000000 "offset" with
        | error e => rw [hsort, hfilters, hlimit, hoffset] at hparse; cases hparse
        | ok offset =>
          rw [hsort, hfilters, hlimit, hoffset] at hparse
          cases hparse
          have hpage : boundedNumber (atPage raw limit k).offset 0 0 5000000 "offset" =
              if k * limit ≤ 5000000 then .ok (k * limit)
              else .error (.badRequest "offset must be an integer between 0 and 5000000") := by
            show (if ((k * limit : Nat) : ℤ) < (0 : ℕ) ∨
              ((5000000 : ℕ) : ℤ) < (k * limit : Nat) then _ else _) = _
            by_cases hle : k * limit ≤ 5000000
            · rw [if_pos hle, if_neg (by omega)]
              rfl
            · rw [if_neg hle, if_pos (by omega)]
              rfl
          show (do
            let sort ← parseSort grid raw.sort
            let filters ← parseFilters grid raw.filters
            let limit' ← boundedNumber raw.limit (grid.defaultLimit.getD 50) 1
              (grid.maxLimit.getD 500) "limit"
            let offset ← boundedNumber (atPage raw limit k).offset 0 0 5000000 "offset"
            return (⟨nonBlank raw.search, sort, filters, limit', offset⟩ : ParsedListQuery)) = _
          rw [hsort, hfilters, hlimit, hpage]
          split
          · rfl
          · rfl

/-- What the grid answers, with the order of the table where the query leaves it open, is one of
the answers. -/
theorem answers_runOffsetGrid (hdefault : IsOrder grid.defaultOrderBy)
    (h : runOffsetGrid text source grid raw = .ok result) : Answers text source grid raw result := by
  rw [runOffsetGrid] at h
  cases hparse : parseListQuery raw grid with
  | error e => rw [hparse] at h; cases h
  | ok query =>
    rw [hparse] at h
    cases h
    have horder := isOrder_requestedOrder hdefault query
    have : Std.Total fun a b => requestedOrder grid query a b = true := ⟨horder.total⟩
    have : IsTrans R fun a b => requestedOrder grid query a b = true := ⟨horder.trans⟩
    refine ⟨query, _, hparse, ⟨List.perm_insertionSort _ _, List.pairwise_insertionSort
      (fun a b => requestedOrder grid query a b = true) _⟩, ?_⟩
    rw [offsetResult, List.length_insertionSort]
    rfl

/-! ## The total -/

/-- **The total is right exactly when a row comes back, or none matches.** -/
theorem totalRight_iff (hdefault : IsOrder grid.defaultOrderBy)
    (hparse : parseListQuery raw grid = .ok query) :
    TotalRight text source grid raw query ↔
      (selectRows text source grid query).length = 0 ∨
        0 < query.limit ∧ query.offset < (selectRows text source grid query).length := by
  have hitems : ∀ rows : List R, rows.length = (selectRows text source grid query).length →
      (((rows.drop query.offset).take query.limit).isEmpty = true ↔ ¬ (0 < query.limit ∧
        query.offset < (selectRows text source grid query).length)) := by
    intro rows hlength
    rw [List.isEmpty_iff_length_eq_zero, List.length_take, List.length_drop, hlength]
    omega
  constructor
  · intro hright
    have harranged := (isOrder_requestedOrder hdefault query).exists_arrangement
      (selectRows text source grid query)
    have htotal := Option.some.inj (hright _ ⟨query, _, hparse, harranged, rfl⟩)
    by_contra hnot
    rw [not_or] at hnot
    rw [if_pos ((hitems _ harranged.length_eq).mpr hnot.2)] at htotal
    exact hnot.1 htotal.symm
  · rintro hrows result ⟨query', rows, hparse', harranged, rfl⟩
    obtain rfl := Except.ok.inj (hparse.symm.trans hparse')
    refine congrArg some ?_
    rw [harranged.length_eq]
    rcases hrows with hrows | hrows
    · rw [hrows, ite_self]
    · exact if_neg fun hempty => (hitems rows harranged.length_eq).mp hempty hrows

/-! ## The pages -/

/-- The rows of a page's answer are the library's page of an arrangement. -/
theorem answers_atPage (hparse : parseListQuery raw grid = .ok query) {k : Nat}
    (hadmitted : k * query.limit ≤ 5000000) :
    Answers text source grid (atPage raw query.limit k) result ↔
      ∃ rows, Arrangement (requestedOrder grid query) (selectRows text source grid query) rows ∧
        result = offsetResult { query with offset := k * query.limit } rows := by
  have hpage := (parseListQuery_atPage hparse query.limit k).trans (if_pos hadmitted)
  constructor
  · rintro ⟨query', rows, hparse', harranged, rfl⟩
    obtain rfl := Except.ok.inj (hpage.symm.trans hparse')
    exact ⟨rows, harranged, rfl⟩
  · rintro ⟨rows, harranged, rfl⟩
    exact ⟨_, rows, hpage, harranged, rfl⟩

theorem pageCount_mul {rows limit : Nat} (hlimit : 0 < limit) :
    rows ≤ pageCount rows limit * limit := by
  have hdiv := Nat.div_add_mod (rows + limit - 1) limit
  have hmod := Nat.mod_lt (rows + limit - 1) hlimit
  rw [pageCount, Nat.mul_comm]
  omega

/-- **Each matching row is on one page exactly when every page's offset is admitted and no tie goes
across the beginning of a page.** -/
theorem pagesRight_iff (hdefault : IsOrder grid.defaultOrderBy) (htable : source.table.Nodup)
    (hparse : parseListQuery raw grid = .ok query) :
    PagesRight text source grid raw query ↔
      ((selectRows text source grid query).length = 0 ∨ 0 < query.limit) ∧
      ∀ k < pageCount (selectRows text source grid query).length query.limit,
        k * query.limit ≤ 5000000 ∧
          (k * query.limit < (selectRows text source grid query).length →
            Clean (requestedOrder grid query) (selectRows text source grid query)
              (k * query.limit)) := by
  have horder := isOrder_requestedOrder hdefault query
  have hnodup : (selectRows text source grid query).Nodup := htable.sublist List.filter_sublist
  have hadmitted : ∀ k, (parseListQuery (atPage raw query.limit k) grid).isOk = true ↔
      k * query.limit ≤ 5000000 := by
    intro k
    rw [parseListQuery_atPage hparse]
    by_cases hle : k * query.limit ≤ 5000000
    · rw [if_pos hle]
      exact iff_of_true rfl hle
    · rw [if_neg hle]
      exact iff_of_false Bool.false_ne_true hle
  rw [PagesRight]
  simp only [hadmitted]
  rcases Nat.eq_zero_or_pos query.limit with hlimit | hlimit
  · -- pages without rows show nothing
    have hpages : pageCount (selectRows text source grid query).length query.limit = 0 := by
      rw [pageCount, hlimit, Nat.div_zero]
    rw [hpages, hlimit]
    constructor
    · rintro ⟨-, hall⟩
      have hperm := hall (fun _ => ⟨[], none, 0, none, none⟩)
        fun k hk => absurd hk k.not_lt_zero
      refine ⟨.inl ?_, fun k hk => absurd hk k.not_lt_zero⟩
      rw [← hperm.length_eq]
      rfl
    · rintro ⟨hrows | hpos, -⟩
      · refine ⟨fun k hk => absurd hk k.not_lt_zero, fun answers _ => ?_⟩
        rw [List.length_eq_zero_iff.mp hrows]
        exact List.Perm.refl _
      · exact absurd hpos (Nat.lt_irrefl 0)
  · have hpages := Pages.pages_perm_iff horder hnodup (pageCount_mul hlimit)
    constructor
    · rintro ⟨hoffsets, hall⟩
      refine ⟨.inr hlimit, fun k hk => ⟨hoffsets k hk, ?_⟩⟩
      refine hpages.mp (fun family hfamily => ?_) k hk
      exact hall (fun k => offsetResult { query with offset := k * query.limit } (family k))
        fun k hk => (answers_atPage hparse (hoffsets k hk)).mpr ⟨family k, hfamily k, rfl⟩
    · rintro ⟨-, hall⟩
      refine ⟨fun k hk => (hall k hk).1, fun answers hanswers => ?_⟩
      have hfamily : ∀ k, ∃ rows, Arrangement (requestedOrder grid query)
          (selectRows text source grid query) rows ∧
          (k < pageCount (selectRows text source grid query).length query.limit →
            (answers k).items = Pages.page query.limit rows k) := by
        intro k
        by_cases hk : k < pageCount (selectRows text source grid query).length query.limit
        · obtain ⟨rows, harranged, hresult⟩ :=
            (answers_atPage hparse (hall k hk).1).mp (hanswers k hk)
          exact ⟨rows, harranged, fun _ => by rw [hresult]; rfl⟩
        · exact ⟨_, horder.exists_arrangement _, fun h => absurd h hk⟩
      choose family harranged hitems using hfamily
      have hperm := hpages.mpr (fun k hk => (hall k hk).2) family harranged
      refine List.Perm.trans (List.Perm.of_eq ?_) hperm
      refine List.flatMap_congr fun k hk => hitems k (List.mem_range.mp hk)

end Answers

/-- **When offset pages are consistent.**  For every grid, source and admitted query: every answer
reports the number of matching rows exactly when its page is not behind the last row, or no row
matches; and the pages at the offsets 0, `limit`, twice `limit` and so on show each matching row
once, whatever order each query brings tied rows in, exactly when these offsets are admitted and no
tie goes across the beginning of a page.  An order without ties never does. -/
theorem offset_pages_iff (text : TextEngine) (source : GridSource R) (grid : GridDefinition R V)
    (raw : RawQuery) (query : ParsedListQuery) (hdefault : IsOrder grid.defaultOrderBy)
    (htable : source.table.Nodup) (hparse : parseListQuery raw grid = .ok query) :
    (TotalRight text source grid raw query ↔
      (selectRows text source grid query).length = 0 ∨
        0 < query.limit ∧ query.offset < (selectRows text source grid query).length) ∧
    (PagesRight text source grid raw query ↔
      ((selectRows text source grid query).length = 0 ∨ 0 < query.limit) ∧
      ∀ k < pageCount (selectRows text source grid query).length query.limit,
        k * query.limit ≤ 5000000 ∧
          (k * query.limit < (selectRows text source grid query).length →
            Clean (requestedOrder grid query) (selectRows text source grid query)
              (k * query.limit))) ∧
    ((∀ a ∈ selectRows text source grid query, ∀ b ∈ selectRows text source grid query,
        requestedOrder grid query a b = true → requestedOrder grid query b a = true → a = b) →
      ∀ place, Clean (requestedOrder grid query) (selectRows text source grid query) place) :=
  ⟨totalRight_iff hdefault hparse, pagesRight_iff hdefault htable hparse,
    Pages.clean_of_no_ties (isOrder_requestedOrder hdefault query)
      (htable.sublist List.filter_sublist)⟩

/-- Two rows, in a grid whose default order is given. -/
def twoRows : GridSource ℕ := ⟨[1, 2], fun _ => true⟩

def orderedGrid (order : ℕ → ℕ → Bool) : GridDefinition ℕ ℕ :=
  ⟨[], [], [], order, none, none⟩

/-- The query for one row from an offset. -/
def oneRow (offset : ℤ) : RawQuery :=
  { limit := .number (some 1), offset := .number (some offset) }

theorem isOrder_le : IsOrder fun a b : ℕ => decide (a ≤ b) :=
  ⟨fun a b => by simpa using Nat.le_total a b, fun a b c hab hbc =>
    decide_eq_true (Nat.le_trans (of_decide_eq_true hab) (of_decide_eq_true hbc))⟩

theorem isOrder_tied : IsOrder fun _ _ : ℕ => true :=
  ⟨fun _ _ => .inl rfl, fun _ _ _ _ _ => rfl⟩

/-- Ordered by a key, two rows on two pages. -/
theorem offset_pages_iff_twoRows :
    TotalRight .ascii twoRows (orderedGrid fun a b => decide (a ≤ b)) (oneRow 1)
        ⟨none, [], [], 1, 1⟩ ∧
      PagesRight .ascii twoRows (orderedGrid fun a b => decide (a ≤ b)) (oneRow 1)
        ⟨none, [], [], 1, 1⟩ := by
  obtain ⟨htotal, hpages, hclean⟩ := offset_pages_iff .ascii twoRows
    (orderedGrid fun a b => decide (a ≤ b)) (oneRow 1) ⟨none, [], [], 1, 1⟩ isOrder_le
    (by decide) rfl
  refine ⟨htotal.mpr (.inr (by decide)), hpages.mpr ⟨.inr (by decide), fun k hk => ?_⟩⟩
  refine ⟨?_, fun _ => ?_⟩
  · have hk : k < 2 := hk
    show k * 1 ≤ 5000000
    omega
  · refine hclean (fun a _ b _ hab hba => ?_) _
    exact Nat.le_antisymm (of_decide_eq_true hab) (of_decide_eq_true hba)

/-- A grid whose order ties all its rows. -/
def tiedGrid : GridDefinition ℕ ℕ := orderedGrid fun _ _ => true

/-- Behind the last row the total is no row, and of two rows that the order ties, on two pages, one
may come twice and the other not at all. -/
theorem offset_loses_rows :
    ¬ TotalRight .ascii twoRows tiedGrid (oneRow 2) ⟨none, [], [], 1, 2⟩ ∧
      ¬ PagesRight .ascii twoRows tiedGrid (oneRow 0) ⟨none, [], [], 1, 0⟩ := by
  have htotal : TotalRight .ascii twoRows tiedGrid (oneRow 2) ⟨none, [], [], 1, 2⟩ ↔ _ :=
    totalRight_iff isOrder_tied rfl
  have hpages : PagesRight .ascii twoRows tiedGrid (oneRow 0) ⟨none, [], [], 1, 0⟩ ↔ _ :=
    pagesRight_iff isOrder_tied (by decide) rfl
  refine ⟨fun h => ?_, fun h => ?_⟩
  · have hreached := htotal.mp h
    revert hreached
    decide
  · have hclean := ((hpages.mp h).2 1 (by decide)).2 (by decide)
    revert hclean
    decide

end Jkannel.Platform.Grid
