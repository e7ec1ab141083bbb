import Jkannel.Engine.Sqlbox
import Jkannel.Lib.Keyset

/-!
# What following the cursors reads

Both grids hand out a cursor while there is more to read, and a client follows it until there is
none.  The pages are the library's `Keyset.page` over the selected rows in descending order of the
key: the cursor is the key of the first row that did *not* fit on the page, and the next page asks
for keys strictly below it.

* `list_eq_page` and `listQueue_eq_page` are that connection, for any cursor a page can hand out.
* `list_lossless_iff` and `queue_lossless_iff` say when nothing is lost on the way: when one page
  holds everything there is.
* `queue_walk` counts what is lost otherwise.
-/

namespace Jkannel.Engine

open List

/-! ## Predicates and the cursor -/

theorem clause_some {β : Type} (b : β) (pred : β → SqlboxRow → Bool) :
    clause (some b) pred = [pred b] := rfl

theorem cursorClause_none : cursorClause none = [] := rfl

theorem cursorClause_some {c : Nat} (h : 0 < c) :
    cursorClause (some c) = [fun row => decide (row.sqlId < c)] := by
  have : (some c).filter (· ≠ 0) = some c := by simp [Option.filter]; omega
  simp only [cursorClause, this, clause_some]

/-- A predicate in the middle of a list of them is a selection of its own. -/
theorem whereAll_middle (before after : List (SqlboxRow → Bool)) (pred : SqlboxRow → Bool)
    (rows : List SqlboxRow) :
    whereAll (before ++ ([pred] ++ after)) rows =
      (whereAll (before ++ ([] ++ after)) rows).filter pred := by
  simp only [whereAll, filter_filter]
  congr 1
  funext row
  simp only [all_append, all_cons, all_nil, Bool.and_true]
  cases pred row <;> simp

theorem whereAll_filters_cursor (env : TextEngine) (o : SqlboxListOptions) {c : Nat} (h : 0 < c)
    (rows : List SqlboxRow) :
    whereAll (filters env { o with cursor := some c }) rows =
      (whereAll (filters env { o with cursor := none }) rows).filter
        fun row => decide (row.sqlId < c) := by
  simp only [filters, cursorClause_some h, cursorClause_none, append_assoc]
  exact whereAll_middle _ _ _ _

theorem whereAll_queueFilters_cursor (env : TextEngine) (o : SqlboxListOptions) {c : Nat}
    (h : 0 < c) (rows : List SqlboxRow) :
    whereAll (queueFilters env { o with cursor := some c }) rows =
      (whereAll (queueFilters env { o with cursor := none }) rows).filter
        fun row => decide (row.sqlId < c) := by
  simp only [queueFilters, cursorClause_some h, cursorClause_none, append_assoc]
  exact whereAll_middle _ _ _ _

/-! ## The log -/

/-- The key the cursor is taken from. -/
def ClassifiedRow.key (c : ClassifiedRow) : Nat := c.row.sqlId

/-- A caller's options ask for the order the cursor can page: no sort or one descending by the
key, no offset, and the first page. -/
def FromFirstPage (o : SqlboxListOptions) : Prop :=
  (∃ terms, parseSqlboxSort o.sort = .ok terms ∧ isDefaultSort terms = true) ∧
    o.offset = none ∧ o.cursor = none

/-- The rows of the log that match a caller's options and one of `statuses`, wherever the paging
has got to. -/
def matchingRows (env : TextEngine) (t : EngineTable) (o : SqlboxListOptions)
    (statuses : Option (List DeliveryStatus)) : List ClassifiedRow :=
  let rows := (whereAll (filters env { o with cursor := none }) t.rows).map
    (classify o.deliveryReport t.rows)
  match statuses with
  | none => rows
  | some wanted => rows.filter fun c => wanted.contains c.deliveryStatus

/-- The rows of the log that match a caller's options, whose status expression must make sense. -/
def matchingList (env : TextEngine) (t : EngineTable) (o : SqlboxListOptions) :
    Except SqlboxError (List ClassifiedRow) :=
  (resolveDeliveryStatuses env (statusExpr o)).map (matchingRows env t o)

/-- The page of the log behind a cursor, as a client following the cursors asks for it. -/
def fetchList (env : TextEngine) (t : EngineTable) (o : SqlboxListOptions) (cursor : Option Nat) :
    Option (Keyset.Page ClassifiedRow) :=
  (list env t.rows { o with cursor := cursor }).toOption.map fun p => ⟨p.items, p.nextCursor⟩

/-- Following the cursors of the log yields every matching row exactly once, the newest first. -/
def ListLossless (env : TextEngine) (t : EngineTable) (o : SqlboxListOptions) : Prop :=
  ∃ rows, matchingList env t o = .ok rows ∧
    Keyset.Lossless ClassifiedRow.key (fetchList env t o) rows

variable {terms : List SqlboxSortTerm} {cursor : Option Nat}

theorem orderBy_default {env : TextEngine} (h : isDefaultSort terms = true) (a b : ClassifiedRow) :
    orderBy env terms a b = true ↔ b.key ≤ a.key := by
  have hkey : ((compare a.row.sqlId b.row.sqlId).swap).isLE = true ↔ b.row.sqlId ≤ a.row.sqlId := by
    rw [Nat.compare_swap, Nat.isLE_compare]
  match terms, h with
  | [], _ => simpa [orderBy, ClassifiedRow.key] using hkey
  | [⟨column, descending⟩], h =>
    obtain ⟨rfl, rfl⟩ : column = .sqlId ∧ descending = true := by
      simpa [isDefaultSort] using h
    simp only [orderBy, ClassifiedRow.key, map_cons, map_nil, foldr_cons,
      foldr_nil, compareColumn, if_true]
    rw [← hkey]
    cases (compare a.row.sqlId b.row.sqlId).swap <;> rfl

theorem default_not_inherited (h : isDefaultSort terms = true) :
    terms.any (·.column = .inherited) = false := by
  match terms, h with
  | [], _ => rfl
  | [⟨column, descending⟩], h =>
    obtain ⟨rfl, rfl⟩ : column = .sqlId ∧ descending = true := by
      simpa [isDefaultSort] using h
    rfl

section Log

variable {env : TextEngine} {t : EngineTable} {o : SqlboxListOptions}
  {statuses : Option (List DeliveryStatus)}

/-- The rows that match are rows of the table, each once. -/
theorem matchingRows_keys :
    ((matchingRows env t o statuses).map ClassifiedRow.key).Sublist (t.rows.map SqlboxRow.sqlId) := by
  have hall : (((whereAll (filters env { o with cursor := none }) t.rows).map
      (classify o.deliveryReport t.rows)).map ClassifiedRow.key).Sublist
        (t.rows.map SqlboxRow.sqlId) := by
    rw [map_map]
    exact filter_sublist.map _
  cases statuses with
  | none => exact hall
  | some wanted => exact (filter_sublist.map _).trans hall

theorem matchingRows_nodup : ((matchingRows env t o statuses).map ClassifiedRow.key).Nodup :=
  t.distinct.sublist matchingRows_keys

theorem matchingRows_serial {c : ClassifiedRow} (h : c ∈ matchingRows env t o statuses) :
    0 < c.key ∧ c.key ≤ MAX_SAFE_INTEGER := by
  have hmem : c.key ∈ t.rows.map SqlboxRow.sqlId :=
    matchingRows_keys.subset (mem_map_of_mem h)
  obtain ⟨r, hr, hkey⟩ := mem_map.mp hmem
  rw [← hkey]
  exact t.serial r hr

/-- Without a cursor the log selects everything that matches; with one, what of it lies strictly
below. -/
theorem selectList_cursor (hc : ∀ c, cursor = some c → 0 < c) (hdef : isDefaultSort terms = true) :
    selectList env t.rows { o with cursor := cursor } terms statuses =
      ((matchingRows env t o statuses).insertionSort (orderBy env terms · ·)).filter
        fun x => Keyset.below cursor x.key := by
  rw [← Keyset.insertionSort_filter (orderBy_default hdef) matchingRows_nodup]
  cases cursor with
  | none =>
    simp only [Keyset.below_none, filter_true]
    cases statuses <;> rfl
  | some c =>
    simp only [selectList, whereAll_filters_cursor env o (hc c rfl), matchingRows, Keyset.below]
    cases statuses with
    | none => simp only [filter_map]; rfl
    | some wanted =>
      rw [filter_comm, filter_map (p := fun x : ClassifiedRow => decide (x.key < c))]
      rfl

/-- What `list` answers when it pages by key. -/
theorem list_keyset (sent : List SqlboxRow) (hparse : parseSqlboxSort o.sort = .ok terms)
    (hdef : isDefaultSort terms = true) (hoff : o.offset = none)
    (hres : resolveDeliveryStatuses env (statusExpr o) = .ok statuses) :
    list env sent o = .ok {
      items := (selectList env sent o terms statuses).take (pageSize o.limit)
      nextCursor := ((selectList env sent o terms statuses)[pageSize o.limit]?).map
        fun c => toNumber c.row.sqlId
      total := none
      limit := pageSize o.limit
      offset := none } := by
  simp [list, hparse, hdef, hoff, hres, default_not_inherited hdef, bind, Except.bind, pure,
    Except.pure, take_take]

/-- The page a client fetches, for the first page and for any cursor that is a key. -/
theorem list_eq_page (hparse : parseSqlboxSort o.sort = .ok terms)
    (hdef : isDefaultSort terms = true) (hoff : o.offset = none)
    (hres : resolveDeliveryStatuses env (statusExpr o) = .ok statuses) (cursor : Option Nat)
    (hc : ∀ c, cursor = some c → 0 < c) :
    fetchList env t o cursor = some (Keyset.page ClassifiedRow.key (pageSize o.limit)
      ((matchingRows env t o statuses).insertionSort (orderBy env terms · ·)) cursor) := by
  have hlist := list_keyset (o := { o with cursor := cursor }) t.rows hparse hdef hoff hres
  simp only [fetchList, hlist, selectList_cursor hc hdef, Keyset.page, Except.toOption,
    Option.map_some, Option.some.injEq, Keyset.Page.mk.injEq, true_and]
  refine Option.map_congr fun c hget => toNumber_of_safe ?_
  have hmem := (mem_filter.mp (mem_of_getElem? hget)).1
  exact (matchingRows_serial ((perm_insertionSort _ _).mem_iff.mp hmem)).2

/-- **What the log's cursors yield everything of**: the rows of a single page. -/
theorem list_lossless_iff (h : FromFirstPage o) :
    ListLossless env t o ↔
      ∃ rows, matchingList env t o = .ok rows ∧ rows.length ≤ pageSize o.limit := by
  obtain ⟨⟨terms, hparse, hdef⟩, hoff, -⟩ := h
  refine exists_congr fun rows => and_congr_right fun hrows => ?_
  obtain ⟨statuses, hres, rfl⟩ : ∃ statuses,
      resolveDeliveryStatuses env (statusExpr o) = .ok statuses ∧
        matchingRows env t o statuses = rows := by
    rw [matchingList] at hrows
    cases hres : resolveDeliveryStatuses env (statusExpr o) with
    | error e => rw [hres] at hrows; cases hrows
    | ok statuses =>
      rw [hres] at hrows
      exact ⟨statuses, rfl, Except.ok.inj hrows⟩
  have hpage := list_eq_page (t := t) hparse hdef hoff hres
  refine Keyset.lossless_iff (Keyset.descending_insertionSort (orderBy_default hdef)
    matchingRows_nodup) (perm_insertionSort _ _) (hpage none (by simp)) fun c hc => hpage _ ?_
  intro n hn
  obtain rfl : c.key = n := by simpa using hn
  exact (matchingRows_serial ((perm_insertionSort _ _).mem_iff.mp hc)).1

end Log

/-! ## The spool -/

/-- The rows of the spool that match a caller's options, wherever the paging has got to. -/
def matchingQueue (env : TextEngine) (t : EngineTable) (o : SqlboxListOptions) :
    List SqlboxRow :=
  whereAll (queueFilters env { o with cursor := none }) t.rows

/-- The page of the spool behind a cursor. -/
def fetchQueue (env : TextEngine) (t : EngineTable) (o : SqlboxListOptions) (cursor : Option Nat) :
    Option (Keyset.Page SqlboxRow) :=
  let p := listQueue env t.rows { o with cursor := cursor }
  some ⟨p.items, p.nextCursor⟩

/-- Following the cursors of the spool yields every matching row exactly once, the newest first. -/
def QueueLossless (env : TextEngine) (t : EngineTable) (o : SqlboxListOptions) : Prop :=
  Keyset.Lossless SqlboxRow.sqlId (fetchQueue env t o) (matchingQueue env t o)

section Queue

variable {env : TextEngine} {t : EngineTable} {o : SqlboxListOptions}

theorem bySqlIdDesc_iff (a b : SqlboxRow) : bySqlIdDesc a b = true ↔ b.sqlId ≤ a.sqlId := by
  simp [bySqlIdDesc]

theorem matchingQueue_nodup : ((matchingQueue env t o).map SqlboxRow.sqlId).Nodup :=
  t.distinct.sublist (filter_sublist.map _)

theorem selectQueue_cursor (hc : ∀ c, cursor = some c → 0 < c) :
    selectQueue env t.rows { o with cursor := cursor } =
      ((matchingQueue env t o).insertionSort (bySqlIdDesc · ·)).filter
        fun r => Keyset.below cursor r.sqlId := by
  rw [← Keyset.insertionSort_filter bySqlIdDesc_iff matchingQueue_nodup]
  cases cursor with
  | none =>
    simp only [Keyset.below_none, filter_true]
    rfl
  | some c =>
    simp only [selectQueue, whereAll_queueFilters_cursor env o (hc c rfl), Keyset.below]
    rfl

theorem listQueue_eq_page (hc : ∀ c, cursor = some c → 0 < c) :
    fetchQueue env t o cursor = some (Keyset.page SqlboxRow.sqlId (pageSize o.limit)
      ((matchingQueue env t o).insertionSort (bySqlIdDesc · ·)) cursor) := by
  have htake (rows : List SqlboxRow) :
      (rows.take (pageSize o.limit + 1))[pageSize o.limit]? = rows[pageSize o.limit]? := by
    rw [getElem?_take, if_pos (Nat.lt_succ_self _)]
  simp only [fetchQueue, listQueue, selectQueue_cursor hc, Keyset.page, Option.some.injEq,
    Keyset.Page.mk.injEq, htake, take_take, Nat.min_eq_left (Nat.le_succ _), true_and]
  refine Option.map_congr fun r hget => toNumber_of_safe ?_
  have hmem := (mem_filter.mp (mem_of_getElem? hget)).1
  have hrow := (perm_insertionSort _ _).mem_iff.mp hmem
  exact (t.serial r (mem_filter.mp hrow).1).2

/-- **What the spool's cursors yield everything of**: the rows of a single page. -/
theorem queue_lossless_iff :
    QueueLossless env t o ↔ (matchingQueue env t o).length ≤ pageSize o.limit := by
  refine Keyset.lossless_iff (Keyset.descending_insertionSort bySqlIdDesc_iff matchingQueue_nodup)
    (perm_insertionSort _ _) (listQueue_eq_page (by simp)) fun r hr => listQueue_eq_page ?_
  intro n hn
  obtain rfl : r.sqlId = n := by simpa using hn
  exact (t.serial r (mem_filter.mp ((perm_insertionSort _ _).mem_iff.mp hr)).1).1

/-- **What the spool's cursors lose**: the walk ends, reads no row twice and the newest first, and
leaves out one row for every one that did not fit on a page. -/
theorem queue_walk (env : TextEngine) (t : EngineTable) (o : SqlboxListOptions) :
    let n := (matchingQueue env t o).length
    ∃ items, Keyset.follow (fetchQueue env t o) (n + 1) none = some items ∧
      Keyset.Descending SqlboxRow.sqlId items ∧ items ⊆ matchingQueue env t o ∧
      items.length = n - n / (pageSize o.limit + 1) := by
  intro n
  have hperm := perm_insertionSort (bySqlIdDesc · ·) (matchingQueue env t o)
  have hdesc : Keyset.Descending SqlboxRow.sqlId
      ((matchingQueue env t o).insertionSort (bySqlIdDesc · ·)) :=
    Keyset.descending_insertionSort bySqlIdDesc_iff matchingQueue_nodup
  have hkept := Keyset.kept_sublist (pageSize o.limit)
    ((matchingQueue env t o).insertionSort (bySqlIdDesc · ·))
  refine ⟨_, ?_, hdesc.sublist hkept, fun r hr => hperm.mem_iff.mp (hkept.subset hr), ?_⟩
  · rw [Keyset.follow_eq_follow_page (listQueue_eq_page (by simp)) fun r hr => ?_]
    · exact Keyset.follow_page hdesc _ (hperm.length_eq ▸ Nat.lt_succ_self n)
    · refine listQueue_eq_page fun k hk => ?_
      obtain rfl : r.sqlId = k := by simpa using hk
      exact (t.serial r (mem_filter.mp (hperm.mem_iff.mp hr)).1).1
  · rw [Keyset.length_kept, hperm.length_eq]

end Queue

/-! ## Both grids -/

/-- **Keyset paging is lossless exactly on a single page**, in the log and in the spool alike: a
second page starts strictly below the row the first one left out. -/
theorem keyset_paging_lossless_iff {env : TextEngine} {sent spool : EngineTable}
    {o q : SqlboxListOptions} (h : FromFirstPage o) :
    (ListLossless env sent o ↔
      ∃ rows, matchingList env sent o = .ok rows ∧ rows.length ≤ pageSize o.limit) ∧
    (QueueLossless env spool q ↔ (matchingQueue env spool q).length ≤ pageSize q.limit) :=
  ⟨list_lossless_iff h, queue_lossless_iff⟩

/-- A message out, numbered. -/
def plainRow (sqlId : Nat) : SqlboxRow where
  sqlId := sqlId
  momt := some "MT"
  sender := some "7077"
  receiver := some "+256700000001"
  msgdata := some "hello"
  time := some 1700000000
  smscId := some "bind-a"
  dlrMask := some 31
  foreignId := none

/-- A table of two messages. -/
def twoRows : EngineTable where
  rows := [plainRow 1, plainRow 2]
  distinct := by decide
  serial := by decide

theorem keyset_paging_lossless_iff_twoRows :
    (ListLossless .ascii twoRows {} ↔
      ∃ rows, matchingList .ascii twoRows {} = .ok rows ∧ rows.length ≤ pageSize none) ∧
    (QueueLossless .ascii twoRows { limit := some 1 } ↔
      (matchingQueue .ascii twoRows { limit := some 1 }).length ≤ pageSize (some 1)) :=
  keyset_paging_lossless_iff ⟨⟨[], rfl, rfl⟩, rfl, rfl⟩

/-- Two messages, one to a page: the walk reads the newer one and never the older. -/
theorem keyset_paging_loses_a_row :
    ¬ ListLossless .ascii twoRows { limit := some 1 } ∧
      ¬ QueueLossless .ascii twoRows { limit := some 1 } := by
  constructor
  · rintro ⟨rows, hrows, fuel, items, hfollow, -, hperm⟩
    have hwalk : Keyset.follow (fetchList .ascii twoRows { limit := some 1 }) 3 none =
        some [⟨plainRow 2, none, none, .pending⟩] := by decide
    have hlen : rows.length = 2 := by
      cases hrows
      decide
    have hitems := Keyset.follow_unique hwalk hfollow
    rw [← hperm.length_eq, ← hitems] at hlen
    exact absurd hlen (by decide)
  · rintro ⟨fuel, items, hfollow, -, hperm⟩
    have hwalk : Keyset.follow (fetchQueue .ascii twoRows { limit := some 1 }) 3 none =
        some [plainRow 2] := by decide
    have hlen := hperm.length_eq
    rw [← Keyset.follow_unique hwalk hfollow] at hlen
    exact absurd hlen (by decide)

end Jkannel.Engine
