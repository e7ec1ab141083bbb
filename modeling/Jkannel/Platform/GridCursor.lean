import Jkannel.Platform.Grid
import Jkannel.Lib.CursorWalk

/-!
# What following a grid's cursors reads

A client follows `nextCursor` until there is none.  The pages are the library's `CursorWalk.page`
over the selected rows in the order of the sort value and the id; what a cursor selects is strictly
behind the place that the database reads out of it.

* `fetchPage_eq` is that connection.
* `cursor_walk_lossless_iff` says when the walk reads every selected row once, in order: the place
  read out of the cursor of each row that ends a page lies between that row and the next, and no
  row behind it has a NULL sort value.
  A timestamp counts microseconds, and what JavaScript and JSON bring back of it milliseconds.
-/

namespace Jkannel.Platform.Grid

open List

variable {R V I : Type} [LinearOrder V] [LinearOrder I] {p : R → Bool}

/-! ## Sorted rows -/

section Sorted

variable {K : Type} [LinearOrder K] {key : R → K} {d : Direction}

/-- Rows in strict order of their keys. -/
def Strict (key : R → K) (d : Direction) (rows : List R) : Prop :=
  rows.Pairwise fun a b => d.lt (key a) (key b)

theorem lt_asymm_of {a b : K} (hab : d.lt a b) (hba : d.lt b a) : False := by
  cases d
  · exact lt_asymm hab hba
  · exact lt_asymm hab hba

/-- Rows in strict order are determined by which they are. -/
theorem Strict.eq_of_perm {xs ys : List R} (hx : Strict key d xs) (hy : Strict key d ys)
    (hp : xs.Perm ys) : xs = ys :=
  hp.eq_of_pairwise (fun _ _ _ _ hab hba => (lt_asymm_of hab hba).elim) hx hy

variable {rows : List R} {never : R → Prop}

/-- Sorting rows with distinct keys makes the order strict. -/
theorem strict_insertionSort (hd : (rows.map key).Nodup) :
    Strict key d (rows.insertionSort fun a b => d.le (key a) (key b)) := by
  have : Std.Total fun a b : R => d.le (key a) (key b) := ⟨fun a b => d.le_total _ _⟩
  have : IsTrans R fun a b => d.le (key a) (key b) := ⟨fun a b c => d.le_trans⟩
  have hsorted := List.pairwise_insertionSort (fun a b => d.le (key a) (key b)) rows
  have hdist : (rows.insertionSort fun a b => d.le (key a) (key b)).Pairwise
      fun a b => key a ≠ key b := by
    rw [← pairwise_map (R := fun x y => x ≠ y)]
    exact ((perm_insertionSort _ rows).map key).nodup_iff.mpr hd
  exact (hsorted.and hdist).imp fun h => d.lt_of_le_of_ne h.1 h.2

/-- Selecting rows and sorting them is sorting them and selecting. -/
theorem insertionSort_filter (hd : (rows.map key).Nodup) (p : R → Bool) :
    (rows.filter p).insertionSort (fun a b => d.le (key a) (key b)) =
      (rows.insertionSort fun a b => d.le (key a) (key b)).filter p := by
  have hsub : ((rows.filter p).map key).Nodup := hd.sublist (filter_sublist.map key)
  refine Strict.eq_of_perm (strict_insertionSort hsub)
    (List.Pairwise.sublist filter_sublist (strict_insertionSort hd)) ?_
  exact (perm_insertionSort _ _).trans ((perm_insertionSort _ rows).filter p).symm

/-- What is selected strictly behind a mark, rows apart that are never selected, is closed upwards
in the order. -/
theorem Strict.upper (h : Strict key d rows) {mark : K}
    (hp : ∀ z, p z = true ↔ ¬ never z ∧ d.lt mark (key z)) :
    rows.Pairwise fun x z => p x = true → p z = true ∨ never z :=
  h.imp fun {x z} hxz hx => by
    by_cases hz : never z
    · exact .inr hz
    · exact .inl ((hp z).mpr ⟨hz, d.lt_of_lt_of_le ((hp x).mp hx).2 (d.le_of_lt hxz)⟩)

/-- **The rows behind a row**: a mark selects them and no others exactly when it lies between the
row and the next, and every row behind can be selected. -/
theorem Strict.filter_eq_drop_iff (h : Strict key d rows)
    {mark : K} (hp : ∀ z, p z = true ↔ ¬ never z ∧ d.lt mark (key z)) {n : ℕ} {r next : R}
    (hr : rows[n]? = some r) (hnext : rows[n + 1]? = some next) (hsome : ¬ never r) :
    rows.filter p = rows.drop (n + 1) ↔
      d.le (key r) mark ∧ d.lt mark (key next) ∧ ∀ z ∈ rows.drop (n + 1), ¬ never z := by
  obtain ⟨hn, rfl⟩ := List.getElem?_eq_some_iff.mp hr
  obtain ⟨hn', rfl⟩ := List.getElem?_eq_some_iff.mp hnext
  have hdrop : rows.drop (n + 1) = rows[n + 1] :: rows.drop (n + 2) := drop_eq_getElem_cons hn'
  have htake : rows.take (n + 1) = rows.take n ++ [rows[n]] := by
    rw [take_add_one, hr, Option.toList_some]
  have hsplit : rows.filter p = (rows.take (n + 1)).filter p ++ (rows.drop (n + 1)).filter p := by
    rw [← filter_append, take_append_drop]
  have hparts := h
  rw [Strict, ← take_append_drop (n + 1) rows, pairwise_append] at hparts
  obtain ⟨hbefore, hafter, hacross⟩ := hparts
  constructor
  · intro heq
    have hnil : (rows.take (n + 1)).filter p = [] := by
      refine filter_eq_nil_iff.mpr fun z hz hpz => ?_
      have hmem : z ∈ rows.drop (n + 1) := by
        rw [← heq, hsplit]
        exact mem_append_left _ (mem_filter.mpr ⟨hz, hpz⟩)
      exact lt_asymm_of (hacross z hz z hmem) (hacross z hz z hmem)
    have hall : ∀ z ∈ rows.drop (n + 1), p z = true := by
      rw [hsplit, hnil, nil_append] at heq
      exact filter_eq_self.mp heq
    have hrow : ¬ p rows[n] = true :=
      filter_eq_nil_iff.mp hnil _ (htake ▸ mem_append_right _ mem_cons_self)
    refine ⟨d.not_lt_iff.mp fun hlt => hrow ((hp _).mpr ⟨hsome, hlt⟩), ?_, fun z hz =>
      ((hp z).mp (hall z hz)).1⟩
    exact ((hp _).mp (hall _ (hdrop ▸ mem_cons_self))).2
  · rintro ⟨hle, hlt, hnot⟩
    have hnil : (rows.take (n + 1)).filter p = [] := by
      refine filter_eq_nil_iff.mpr fun z hz hpz => ?_
      have hz' : d.le (key z) (key rows[n]) := by
        rw [htake] at hz hbefore
        rcases mem_append.mp hz with hz | hz
        · exact d.le_of_lt ((pairwise_append.mp hbefore).2.2 z hz _ mem_cons_self)
        · obtain rfl := mem_singleton.mp hz
          exact d.le_refl _
      exact d.not_lt_iff.mpr (d.le_trans hz' hle) ((hp z).mp hpz).2
    rw [hsplit, hnil, nil_append, filter_eq_self]
    intro z hz
    refine (hp z).mpr ⟨hnot z hz, ?_⟩
    rw [hdrop] at hz hafter
    rcases mem_cons.mp hz with rfl | hz
    · exact hlt
    · exact d.lt_of_lt_of_le hlt (d.le_of_lt ((pairwise_cons.mp hafter).1 z hz))

end Sorted

/-! ## The pages of a walk -/

/-- What a client that walks makes of an answer. -/
def toPage (page : GridResult R) : CursorWalk.Page R Cursor := ⟨page.items, page.nextCursor⟩

/-- The page behind a cursor, as a client that follows the cursors asks for it. -/
def fetchPage (text : TextEngine) (source : GridSource R) (grid : GridDefinition R V)
    (options : GridRunnerOptions R I) (raw : RawQuery) (cursor : Option Cursor) :
    Option (CursorWalk.Page R Cursor) :=
  (runGrid text source grid options { raw with cursor := cursor }).toOption.map toPage

/-- A client's first request: a cursor page, from the beginning. -/
structure Starts (grid : GridDefinition R V) (options : GridRunnerOptions R I) (raw : RawQuery)
    (id : IdExpr R I) (parsed : ParsedCursorQuery R V) (list : ParsedListQuery) : Prop where
  mode : raw.paginate = some "cursor"
  cursor : raw.cursor = none
  idExpr : options.idExpr = some id
  parsed : pageQuery raw grid options = .ok parsed
  list : parseListQuery { raw with sort := none, limit := .absent } grid = .ok list

/-- Following the cursors ends, and yields the rows that the filters select, each once and in the
order of the sort value and the id. -/
def Lossless (text : TextEngine) (source : GridSource R) (grid : GridDefinition R V)
    (options : GridRunnerOptions R I) (raw : RawQuery) (id : IdExpr R I)
    (parsed : ParsedCursorQuery R V) (list : ParsedListQuery) : Prop :=
  ∃ fuel items, CursorWalk.follow (fetchPage text source grid options raw) fuel none = some items ∧
    items.Perm (selectRows text source grid list) ∧
    Strict (place parsed.column id) parsed.direction items

/-- The selected rows in the order of a cursor page. -/
def sortedRows (text : TextEngine) (source : GridSource R) (grid : GridDefinition R V)
    (id : IdExpr R I) (parsed : ParsedCursorQuery R V) (list : ParsedListQuery) : List R :=
  (selectRows text source grid list).insertionSort fun a b =>
    parsed.direction.le (place parsed.column id a) (place parsed.column id b)

/-- What a cursor selects, when the request that carries it is not refused. -/
def selects (parsed : ParsedCursorQuery R V) (id : IdExpr R I) (cursor : Cursor) :
    Option (R → Bool) :=
  (decodeCursor cursor).toOption.bind fun payload =>
    (buildCursorSql { parsed with after := some payload } id).toOption

section Pages

variable {text : TextEngine} {source : GridSource R} {grid : GridDefinition R V}
  {options : GridRunnerOptions R I} {raw : RawQuery} {id : IdExpr R I}
  {parsed : ParsedCursorQuery R V} {list : ParsedListQuery}

omit [LinearOrder V] [LinearOrder I] in
theorem place_nodup (hunique : (source.table.map id.expr).Nodup) :
    ((selectRows text source grid list).map (place parsed.column id)).Nodup := by
  have hids : ((selectRows text source grid list).map id.expr).Nodup :=
    hunique.sublist (filter_sublist.map id.expr)
  refine List.Nodup.of_map (fun p : WithTop V ×ₗ I => (ofLex p).2) ?_
  rwa [map_map]

theorem strict_sortedRows (hunique : (source.table.map id.expr).Nodup) :
    Strict (place parsed.column id) parsed.direction
      (sortedRows text source grid id parsed list) :=
  strict_insertionSort (place_nodup hunique)

theorem sortedRows_perm :
    (sortedRows text source grid id parsed list).Perm (selectRows text source grid list) :=
  perm_insertionSort _ _

/-- The page cut out of the sorted rows is the library's. -/
theorem buildCursorPage_eq (hunique : (source.table.map id.expr).Nodup)
    (parsed : ParsedCursorQuery R V) (list : ParsedListQuery) (after : Option CursorPayload)
    (p : R → Bool) :
    buildCursorPage { parsed with after := after } id
        ((((selectRows text source grid list).filter p).insertionSort fun a b =>
          parsed.direction.le (place parsed.column id a) (place parsed.column id b)).take
            (parsed.limit + 1)) =
      let page := CursorWalk.page (rowCursor parsed.column id) parsed.limit
        ((sortedRows text source grid id parsed list).filter p)
      ⟨page.items, none, parsed.limit, none, page.next⟩ := by
  rw [insertionSort_filter (place_nodup hunique), ← sortedRows]
  generalize (sortedRows text source grid id parsed list).filter p = rows
  have hlen : parsed.limit < (rows.take (parsed.limit + 1)).length ↔ parsed.limit < rows.length := by
    rw [length_take]
    omega
  have htake : (rows.take (parsed.limit + 1)).take parsed.limit = rows.take parsed.limit := by
    rw [take_take, Nat.min_eq_left (Nat.le_succ _)]
  by_cases h : parsed.limit < rows.length
  · simp only [buildCursorPage, CursorWalk.page, hlen, htake, if_pos h]
  · have hall : rows.take (parsed.limit + 1) = rows := take_of_length_le (by omega)
    have hall' : rows.take parsed.limit = rows := take_of_length_le (by omega)
    simp only [buildCursorPage, CursorWalk.page, if_neg h, hall, hall']

omit [LinearOrder V] [LinearOrder I] in
/-- The query behind a cursor is the first query, with what the cursor carries. -/
theorem pageQuery_cursor (hstart : Starts grid options raw id parsed list)
    (cursor : Option Cursor) :
    pageQuery { raw with cursor := cursor } grid options =
      (decodeAfter cursor).map fun after => { parsed with after := after } := by
  have hparsed := hstart.parsed
  rw [pageQuery] at hparsed ⊢
  cases hdefault : defaultSort grid options with
  | error e => rw [hdefault] at hparsed; cases hparsed
  | ok default =>
    rw [hdefault] at hparsed
    change parseCursorQuery raw grid default = _ at hparsed
    change parseCursorQuery _ grid default = _
    rw [parseCursorQuery] at hparsed ⊢
    generalize cursorSort raw.sort default = sort at hparsed ⊢
    obtain ⟨field, direction⟩ := sort
    cases hcolumn : grid.sortColumns.lookup field with
    | none =>
      simp only [hcolumn] at hparsed
      cases hparsed
    | some column =>
      simp only [hcolumn] at hparsed ⊢
      cases hlimit : boundedLimit raw.limit (grid.defaultLimit.getD 50) (grid.maxLimit.getD 500) with
      | error e => rw [hlimit] at hparsed; cases hparsed
      | ok limit =>
        rw [hlimit, hstart.cursor] at hparsed
        cases hparsed
        cases decodeAfter cursor <;> rfl

/-- What a cursor page answers. -/
theorem runCursorGrid_ok {q : ParsedCursorQuery R V} (hquery : pageQuery raw grid options = .ok q)
    (hlist : parseListQuery { raw with sort := none, limit := .absent } grid = .ok list) :
    runCursorGrid text source grid options id raw = (buildCursorSql q id).map fun behind =>
      buildCursorPage q id ((((selectRows text source grid list).filter behind).insertionSort
        fun a b => q.direction.le (place q.column id a) (place q.column id b)).take
          (q.limit + 1)) := by
  rw [runCursorGrid, hquery, hlist]
  simp only [bind, Except.bind]
  cases buildCursorSql q id <;> rfl

/-- A cursor page is a page of the sorted rows, cut down to what is behind the cursor. -/
theorem runGrid_cursor (hstart : Starts grid options raw id parsed list)
    (hunique : (source.table.map id.expr).Nodup) (cursor : Option Cursor) :
    fetchPage text source grid options raw cursor =
      ((decodeAfter cursor).toOption.bind fun after =>
        (buildCursorSql { parsed with after := after } id).toOption).map fun behind =>
          CursorWalk.page (rowCursor parsed.column id) parsed.limit
            ((sortedRows text source grid id parsed list).filter behind) := by
  have huses : usesCursor { raw with cursor := cursor } = true := by
    rw [usesCursor, hstart.mode]
    exact Bool.or_true _
  have hrun : runGrid text source grid options { raw with cursor := cursor } =
      runCursorGrid text source grid options id { raw with cursor := cursor } := by
    rw [runGrid, if_pos huses, hstart.idExpr]
  have hquery := pageQuery_cursor hstart cursor
  rw [fetchPage, hrun]
  cases hafter : decodeAfter cursor with
  | error e =>
    rw [hafter] at hquery
    rw [runCursorGrid, hquery]
    rfl
  | ok after =>
    rw [hafter] at hquery
    rw [runCursorGrid_ok hquery hstart.list]
    change _ = ((buildCursorSql { parsed with after := after } id).toOption).map _
    cases buildCursorSql { parsed with after := after } id with
    | error e => rfl
    | ok behind =>
      exact congrArg (fun page => some (toPage page))
        (buildCursorPage_eq hunique parsed list after behind)

/-- **The pages of a grid are the library's**. -/
theorem fetchPage_eq (hstart : Starts grid options raw id parsed list)
    (hunique : (source.table.map id.expr).Nodup) :
    fetchPage text source grid options raw = CursorWalk.fetch (rowCursor parsed.column id)
      (selects parsed id) parsed.limit (sortedRows text source grid id parsed list) := by
  funext cursor
  rw [runGrid_cursor hstart hunique]
  cases cursor with
  | none =>
    change some (CursorWalk.page _ _ (List.filter (fun _ => true) _)) = some _
    rw [filter_true]
  | some cursor =>
    rw [CursorWalk.fetch, selects, decodeAfter]
    cases decodeCursor cursor <;> rfl

/-! ## What is read out of a cursor -/

/-- What JSON carries of a sort value. -/
def carried : CursorValue → CursorValue
  | .number none => .null
  | value => value

theorem decodeCursor_encodeCursor {v : CursorValue} {i : String} (hi : i ≠ "") :
    decodeCursor (encodeCursor ⟨v, i⟩) = .ok ⟨carried v, i⟩ := by
  simp only [encodeCursor, decodeCursor, if_neg hi]
  cases v with
  | number value => cases value <;> rfl
  | _ => rfl

theorem decodeCursor_empty (v : CursorValue) :
    decodeCursor (encodeCursor ⟨v, ""⟩) = .error malformed := rfl

/-- The sort value that the database reads out of a row's cursor: what the driver hands over, as
JSON carries it, back through the bind parameter.  `none` for a NULL and for a refusal. -/
def readValue (column : SortColumn R V) (row : R) : Option V :=
  if carried (sortVal column row) = .null then none
  else column.param (carried (sortVal column row))

/-- The id that the database reads out of a row's cursor; a cursor without an id is malformed. -/
def readId (id : IdExpr R I) (row : R) : Option I :=
  if id.text (id.expr row) = "" then none else id.param (id.text (id.expr row))

/-- What a row's cursor says lies between the row, included, and the next, excluded. -/
def Between (column : SortColumn R V) (id : IdExpr R I) (d : Direction) (r next : R) : Prop :=
  ∃ w i, readValue column r = some w ∧ readId id r = some i ∧
    d.le (place column id r) (toLex ((w : WithTop V), i)) ∧
    d.lt (toLex ((w : WithTop V), i)) (place column id next)

variable {column : SortColumn R V} {row r : R} {d : Direction} {w : V} {i : I}

omit [LinearOrder V] [LinearOrder I] in
theorem place_some {v : V} (h : column.expr row = some v) :
    place column id row = toLex ((v : WithTop V), id.expr row) := by
  rw [place, sortKey, h]
  rfl

theorem lt_toLex {v : V} {j : I} :
    d.lt (toLex ((w : WithTop V), i)) (toLex ((v : WithTop V), j)) ↔
      d.lt w v ∨ v = w ∧ d.lt i j := by
  cases d with
  | ASC =>
    change toLex ((w : WithTop V), i) < toLex ((v : WithTop V), j) ↔ _
    rw [Prod.Lex.toLex_lt_toLex, WithTop.coe_lt_coe, WithTop.coe_inj, @eq_comm _ w]
    rfl
  | DESC =>
    change toLex ((v : WithTop V), j) < toLex ((w : WithTop V), i) ↔ _
    rw [Prod.Lex.toLex_lt_toLex, WithTop.coe_lt_coe, WithTop.coe_inj]
    rfl

/-- The keyset predicate is TRUE of the rows without a NULL that are strictly behind its mark. -/
theorem keysetPredicate_iff :
    keysetPredicate column id d (some w) i row = true ↔
      ¬ column.expr row = none ∧ d.lt (toLex ((w : WithTop V), i)) (place column id row) := by
  cases hexpr : column.expr row with
  | none => simp [keysetPredicate, hexpr]
  | some v =>
    rw [place_some hexpr, lt_toLex]
    simp [keysetPredicate, hexpr]

theorem keysetPredicate_null {value : Option V} (h : column.expr row = none) :
    keysetPredicate column id d value i row = false := by
  cases value <;> simp [keysetPredicate, h]

/-- What a cursor selects is a keyset predicate. -/
theorem selects_cases {cursor : Cursor} (h : selects parsed id cursor = some p) :
    ∃ value boundary, p = keysetPredicate parsed.column id parsed.direction value boundary := by
  obtain ⟨payload, -, h⟩ := Option.bind_eq_some_iff.mp h
  simp only [buildCursorSql] at h
  cases hvalue : bindValue parsed.column payload.v with
  | error e =>
    rw [hvalue] at h
    cases h
  | ok value =>
    cases hboundary : bindId id payload.i with
    | error e =>
      rw [hvalue, hboundary] at h
      cases h
    | ok boundary =>
      rw [hvalue, hboundary] at h
      exact ⟨value, boundary, (Option.some.inj h).symm⟩

omit [LinearOrder V] in
theorem bindValue_eq_some :
    bindValue column (carried (sortVal column r)) = .ok (some w) ↔ readValue column r = some w := by
  rw [bindValue, readValue]
  split
  · exact ⟨fun h => (by cases h), fun h => (by cases h)⟩
  · cases column.param (carried (sortVal column r)) with
    | none => exact ⟨fun h => (by cases h), fun h => (by cases h)⟩
    | some v => exact ⟨fun h => Except.ok.inj h, fun h => congrArg Except.ok h⟩

omit [LinearOrder I] in
theorem bindId_eq_ok {text : String} : bindId id text = .ok i ↔ id.param text = some i := by
  rw [bindId]
  cases id.param text with
  | none => exact ⟨fun h => (by cases h), fun h => (by cases h)⟩
  | some j => exact ⟨fun h => congrArg some (Except.ok.inj h), fun h => congrArg Except.ok
      (Option.some.inj h)⟩

/-- A row's cursor that can be used selects what is behind the place read out of it. -/
theorem selects_rowCursor (hw : readValue parsed.column r = some w) (hi : readId id r = some i) :
    selects parsed id (rowCursor parsed.column id r) =
      some (keysetPredicate parsed.column id parsed.direction (some w) i) := by
  rw [readId] at hi
  split at hi
  · cases hi
  · rename_i hempty
    have hvalue := bindValue_eq_some.mpr hw
    have hboundary := bindId_eq_ok.mpr hi
    rw [selects, rowCursor, decodeCursor_encodeCursor hempty]
    simp only [buildCursorSql, Except.toOption, Option.bind_some, hvalue, hboundary]
    rfl

/-- A row's cursor that selects something can be used. -/
theorem reads_of_selects {z : R}
    (h : selects parsed id (rowCursor parsed.column id r) = some p) (hz : p z = true) :
    ∃ w i, readValue parsed.column r = some w ∧ readId id r = some i := by
  rw [selects, rowCursor] at h
  by_cases hempty : id.text (id.expr r) = ""
  · rw [hempty, decodeCursor_empty] at h
    cases h
  rw [decodeCursor_encodeCursor hempty] at h
  simp only [buildCursorSql, Except.toOption, Option.bind_some] at h
  cases hvalue : bindValue parsed.column (carried (sortVal parsed.column r)) with
  | error e =>
    rw [hvalue] at h
    cases h
  | ok value =>
    cases hboundary : bindId id (id.text (id.expr r)) with
    | error e =>
      rw [hvalue, hboundary] at h
      cases h
    | ok boundary =>
      rw [hvalue, hboundary] at h
      cases h
      cases value with
      | none => cases hz
      | some w =>
        refine ⟨w, boundary, bindValue_eq_some.mp hvalue, ?_⟩
        rw [readId, if_neg hempty]
        exact bindId_eq_ok.mp hboundary

/-! ## When the walk is lossless -/

/-- The walk yields the sorted rows, or nothing that will do. -/
theorem lossless_iff_follow (hunique : (source.table.map id.expr).Nodup) :
    Lossless text source grid options raw id parsed list ↔
      ∃ fuel, CursorWalk.follow (fetchPage text source grid options raw) fuel none =
        some (sortedRows text source grid id parsed list) := by
  constructor
  · rintro ⟨fuel, items, hfollow, hperm, hstrict⟩
    have hsame := hstrict.eq_of_perm (strict_sortedRows hunique) (hperm.trans sortedRows_perm.symm)
    exact ⟨fuel, hsame ▸ hfollow⟩
  · rintro ⟨fuel, hfollow⟩
    exact ⟨fuel, _, hfollow, sortedRows_perm, strict_sortedRows hunique⟩

/-- A row that ends a page, and the next: the cursor lies between, and no NULL is behind it. -/
def GoodEnd (column : SortColumn R V) (id : IdExpr R I) (d : Direction) (rows : List R) (n : ℕ) :
    Prop :=
  ∀ r next, rows[n]? = some r → rows[n + 1]? = some next →
    Between column id d r next ∧ ∀ z ∈ rows.drop (n + 1), column.expr z ≠ none

/-- The cursor of a row selects the rows behind it exactly when the row is a good end of a page. -/
theorem exact_iff_goodEnd {rows : List R}
    (hstrict : Strict (place parsed.column id) parsed.direction rows) {n : ℕ} {next : R}
    (hr : rows[n]? = some r) (hnext : rows[n + 1]? = some next) :
    (∃ p, selects parsed id (rowCursor parsed.column id r) = some p ∧
        rows.filter p = rows.drop (n + 1)) ↔
      Between parsed.column id parsed.direction r next ∧
        ∀ z ∈ rows.drop (n + 1), parsed.column.expr z ≠ none := by
  have hsome : ∀ w, readValue parsed.column r = some w → ¬ parsed.column.expr r = none := by
    intro w hw hnull
    rw [readValue, sortVal, hnull] at hw
    cases hw
  constructor
  · rintro ⟨p, hp, hfilter⟩
    have hmem : next ∈ rows.drop (n + 1) := by
      refine mem_of_getElem? (i := 0) ?_
      rw [getElem?_drop]
      exact hnext
    rw [← hfilter] at hmem
    obtain ⟨w, i, hw, hi⟩ := reads_of_selects hp (mem_filter.mp hmem).2
    obtain rfl := Option.some.inj ((selects_rowCursor hw hi).symm.trans hp)
    obtain ⟨hle, hlt, hnot⟩ := (hstrict.filter_eq_drop_iff (fun z => keysetPredicate_iff) hr hnext
      (hsome w hw)).mp hfilter
    exact ⟨⟨w, i, hw, hi, hle, hlt⟩, hnot⟩
  · rintro ⟨⟨w, i, hw, hi, hle, hlt⟩, hnot⟩
    exact ⟨_, selects_rowCursor hw hi, (hstrict.filter_eq_drop_iff (fun z => keysetPredicate_iff)
      hr hnext (hsome w hw)).mpr ⟨hle, hlt, hnot⟩⟩

/-- A walk over pages of no rows is lossless when there are none. -/
theorem lossless_zero (hstart : Starts grid options raw id parsed list)
    (hunique : (source.table.map id.expr).Nodup) (hzero : parsed.limit = 0) :
    Lossless text source grid options raw id parsed list ↔ selectRows text source grid list = [] := by
  rw [lossless_iff_follow hunique, fetchPage_eq hstart hunique, hzero]
  constructor
  · rintro ⟨fuel, hfollow⟩
    exact (CursorWalk.follow_zero hfollow ▸ sortedRows_perm).symm.eq_nil
  · intro hnil
    have hsorted : (sortedRows text source grid id parsed list).Perm
        (selectRows text source grid list) := sortedRows_perm
    rw [hnil] at hsorted
    refine ⟨1, ?_⟩
    rw [hsorted.eq_nil, CursorWalk.follow, CursorWalk.fetch, CursorWalk.page_zero]
    rfl

/-- A walk is lossless when every page that is not the last has a good end. -/
theorem lossless_pos (hstart : Starts grid options raw id parsed list)
    (hunique : (source.table.map id.expr).Nodup) (hsize : 0 < parsed.limit) :
    Lossless text source grid options raw id parsed list ↔
      ∀ k, GoodEnd parsed.column id parsed.direction
        (sortedRows text source grid id parsed list) ((k + 1) * parsed.limit - 1) := by
  have hnodup : (sortedRows text source grid id parsed list).Nodup :=
    sortedRows_perm.nodup_iff.mpr ((hunique.of_map _).sublist filter_sublist)
  have hnever : ∀ c p x, selects parsed id c = some p → parsed.column.expr x = none →
      p x = false := by
    intro c p x hp hx
    obtain ⟨value, boundary, rfl⟩ := selects_cases hp
    exact keysetPredicate_null hx
  have hupper : ∀ c p, selects parsed id c = some p →
      (sortedRows text source grid id parsed list).Pairwise fun x z =>
        p x = true → p z = true ∨ parsed.column.expr z = none := by
    intro c p hp
    obtain ⟨value, boundary, rfl⟩ := selects_cases hp
    cases value with
    | none => exact pairwise_of_forall fun _ _ h => by cases h
    | some w => exact (strict_sortedRows hunique).upper fun z => keysetPredicate_iff
  have hend : ∀ k, (k + 1) * parsed.limit - 1 + 1 = (k + 1) * parsed.limit := fun k =>
    Nat.sub_add_cancel (Nat.mul_pos (Nat.succ_pos k) hsize)
  rw [lossless_iff_follow hunique, fetchPage_eq hstart hunique,
    CursorWalk.follow_eq_iff hsize hnodup hnever hupper]
  constructor
  · intro hexact k r next hr hnext
    refine (exact_iff_goodEnd (strict_sortedRows hunique) hr hnext).mp ?_
    rw [hend k] at hnext ⊢
    exact hexact k (Nat.zero_le _) (List.getElem?_eq_some_iff.mp hnext).1 r hr
  · intro hgood j _ hlt r hr
    obtain ⟨next, hnext⟩ : ∃ next, (sortedRows text source grid id parsed list)[
        (j + 1) * parsed.limit]? = some next := ⟨_, getElem?_eq_getElem hlt⟩
    rw [← hend j] at hnext ⊢
    exact (exact_iff_goodEnd (strict_sortedRows hunique) hr hnext).mpr (hgood j r next hr hnext)

/-- **When following a grid's cursors is lossless**: exactly when each row that ends a page with more
rows behind it has a cursor out of which the database reads a place between that row and the next,
and no row behind it has a NULL sort value.  Pages of no rows lose what there is. -/
theorem cursor_walk_lossless_iff (hstart : Starts grid options raw id parsed list)
    (hunique : (source.table.map id.expr).Nodup) :
    Lossless text source grid options raw id parsed list ↔
      (parsed.limit = 0 → selectRows text source grid list = []) ∧
        ∀ k, GoodEnd parsed.column id parsed.direction
          (sortedRows text source grid id parsed list) ((k + 1) * parsed.limit - 1) := by
  by_cases hzero : parsed.limit = 0
  · rw [lossless_zero hstart hunique hzero]
    refine ⟨fun hnil => ⟨fun _ => hnil, fun k r next hr => ?_⟩, fun h => h.1 hzero⟩
    have hmem := sortedRows_perm.mem_iff.mp (mem_of_getElem? hr)
    rw [hnil] at hmem
    cases hmem
  · rw [lossless_pos hstart hunique (Nat.pos_of_ne_zero hzero),
      and_iff_right fun h => absurd h hzero]

end Pages

section Truncated

variable {column : SortColumn R ℤ} {id : IdExpr R I} {r next : R} {v v' : ℤ}

theorem between_of_read {w : ℤ} {d : Direction} (hread : readValue column r = some w)
    (hid : readId id r = some (id.expr r)) :
    Between column id d r next ↔ d.le (place column id r) (toLex ((w : WithTop ℤ), id.expr r)) ∧
      d.lt (toLex ((w : WithTop ℤ), id.expr r)) (place column id next) := by
  constructor
  · rintro ⟨w', i, hw, hi, hle, hlt⟩
    obtain rfl := Option.some.inj (hread.symm.trans hw)
    obtain rfl := Option.some.inj (hid.symm.trans hi)
    exact ⟨hle, hlt⟩
  · rintro ⟨hle, hlt⟩
    exact ⟨w, id.expr r, hread, hid, hle, hlt⟩

/-- **A timestamp in ascending order**: it counts microseconds and comes back cut to milliseconds, so
a page that ends in it ends well only when nothing was cut off. -/
theorem between_truncated_ASC (hv : column.expr r = some v)
    (hread : readValue column r = some (v / 1000 * 1000)) (hid : readId id r = some (id.expr r))
    (hnext : Direction.ASC.lt (place column id r) (place column id next)) :
    Between column id .ASC r next ↔ v % 1000 = 0 := by
  have hle : Direction.ASC.le (place column id r)
      (toLex (((v / 1000 * 1000 : ℤ) : WithTop ℤ), id.expr r)) ↔ v % 1000 = 0 := by
    rw [← Direction.not_lt_iff, place_some hv, lt_toLex]
    have hlt : ¬ Direction.ASC.lt (id.expr r) (id.expr r) := lt_irrefl (id.expr r)
    change ¬ (v / 1000 * 1000 < v ∨ _) ↔ _
    simp only [hlt, and_false, or_false]
    omega
  rw [between_of_read hread hid, hle]
  refine and_iff_left_of_imp fun hexact => ?_
  have hsame : v / 1000 * 1000 = v := by omega
  rwa [hsame, ← place_some hv]

/-- **A timestamp in descending order**: a page that ends in one that was cut ends well when the next
row is behind what is left of it. -/
theorem between_truncated_DESC (hv : column.expr r = some v) (hv' : column.expr next = some v')
    (hread : readValue column r = some (v / 1000 * 1000)) (hid : readId id r = some (id.expr r)) :
    Between column id .DESC r next ↔
      v' < v / 1000 * 1000 ∨ v' = v / 1000 * 1000 ∧ id.expr next < id.expr r := by
  have hle : Direction.DESC.le (place column id r)
      (toLex (((v / 1000 * 1000 : ℤ) : WithTop ℤ), id.expr r)) := by
    rw [← Direction.not_lt_iff, place_some hv, lt_toLex]
    rintro (hlt | ⟨-, hlt⟩)
    · change v < v / 1000 * 1000 at hlt
      omega
    · exact lt_irrefl (id.expr r) hlt
  rw [between_of_read hread hid, and_iff_right hle, place_some hv', lt_toLex]
  rfl

end Truncated

/-! ## The grid of jobs -/

/-- The number that decimal digits make. -/
def decimal (digits : List Char) : Option ℕ :=
  if digits ≠ [] ∧ digits.all Char.isDigit then
    some (digits.foldl (fun n c => 10 * n + (c.toNat - 48)) 0)
  else none

/-- The day, counted from the epoch, of a year, month and day. -/
def civilDay (year : ℤ) (month day : ℕ) : ℤ :=
  let shifted := if month ≤ 2 then year - 1 else year
  let era := shifted.fdiv 400
  let yearOfEra := (shifted.fmod 400).toNat
  let dayOfYear := (153 * (if month ≤ 2 then month + 9 else month - 3) + 2) / 5 + day - 1
  era * 146097 + ((yearOfEra * 365 + yearOfEra / 4 - yearOfEra / 100 + dayOfYear : ℕ) : ℤ) - 719468

/-- How the database reads the text of a `Date` of a four-digit year: in microseconds. -/
def readTimestamp (text : List Char) : Option ℤ := do
  let year ← decimal (text.take 4)
  let month ← decimal ((text.drop 5).take 2)
  let day ← decimal ((text.drop 8).take 2)
  let hour ← decimal ((text.drop 11).take 2)
  let minute ← decimal ((text.drop 14).take 2)
  let second ← decimal ((text.drop 17).take 2)
  let ms ← decimal ((text.drop 20).take 3)
  if text.drop 23 = ['Z'] then
    return ((civilDay year month day * 86400 + hour * 3600 + minute * 60 + second) * 1000 + ms) * 1000
  else none

/-- A `timestamptz` column, in microseconds. -/
def timestamptz {R : Type} (expr : R → Option ℤ) : SortColumn R ℤ where
  expr
  js v := .date (v.fdiv 1000)
  param
    | .string text => readTimestamp text.toList
    | _ => none

/-- A uuid; they are ordered as the numbers they spell. -/
abbrev Uuid := Fin (2 ^ 128)

def uuidText (id : Uuid) : String :=
  let digits := Nat.toDigits 16 id
  let hex := List.replicate (32 - digits.length) '0' ++ digits
  String.ofList (hex.take 8 ++ '-' :: (hex.drop 8).take 4 ++ '-' :: (hex.drop 12).take 4 ++
    '-' :: (hex.drop 16).take 4 ++ '-' :: hex.drop 20)

/-- What the database reads as a uuid: 32 digits, in letters of either case, with their hyphens. -/
def readUuid (text : String) : Option Uuid :=
  let digits := text.toList.filter (· ≠ '-')
  if digits.length = 32 then
    (digits.mapM fun c => "0123456789abcdef".toList.idxOf? c.toLower).map fun values =>
      Fin.ofNat _ (values.foldl (fun id value => 16 * id + value) 0)
  else none

/-- A row of `api_jobs`, as far as its timestamps go. -/
structure JobRow where
  id : Uuid
  created_at : ℤ
  completed_at : Option ℤ
  deriving DecidableEq

def createdAt : SortColumn JobRow ℤ := timestamptz fun row => some row.created_at

def completedAt : SortColumn JobRow ℤ := timestamptz JobRow.completed_at

def jobsGrid : GridDefinition JobRow ℤ where
  searchColumns := []
  sortColumns := [("createdAt", createdAt), ("completedAt", completedAt)]
  filterColumns := []
  defaultOrderBy a b := b.created_at ≤ a.created_at
  maxLimit := some 500
  defaultLimit := some 50

def jobId : IdExpr JobRow Uuid where
  expr := JobRow.id
  text := uuidText
  param := readUuid

def jobsOptions : GridRunnerOptions JobRow Uuid where
  idExpr := some jobId
  cursorDefaultSort := some ("createdAt", some .DESC)

def completeJob : JobRow := ⟨1, 1788220800000100, some 1788220801000000⟩

def runningJob : JobRow := ⟨2, 1788220800000900, none⟩

/-- Two jobs created 800 microseconds apart. -/
def twoJobs : GridSource JobRow where
  table := [completeJob, runningJob]
  fixed _ := true

def oneByOne (sort : String) : RawQuery where
  sort := some sort
  limit := .number (some 1)
  paginate := some "cursor"

def everything : ParsedListQuery := ⟨none, [], [], 50, 0⟩

def byField (field : String) (column : SortColumn JobRow ℤ) (d : Direction) :
    ParsedCursorQuery JobRow ℤ := ⟨field, column, d, 1, none⟩

example : readTimestamp (toISOString 1788220800123).toList = some 1788220800123000 := by
  decide +kernel

theorem jobs_start_ASC : Starts jobsGrid jobsOptions (oneByOne "createdAt") jobId
    (byField "createdAt" createdAt .ASC) everything :=
  ⟨rfl, rfl, rfl, rfl, rfl⟩

theorem jobs_start_DESC : Starts jobsGrid jobsOptions (oneByOne "-createdAt") jobId
    (byField "createdAt" createdAt .DESC) everything :=
  ⟨rfl, rfl, rfl, rfl, rfl⟩

theorem jobs_start_completed : Starts jobsGrid jobsOptions (oneByOne "completedAt") jobId
    (byField "completedAt" completedAt .ASC) everything :=
  ⟨rfl, rfl, rfl, rfl, rfl⟩

theorem cursor_walk_lossless_iff_jobs :
    Lossless .ascii twoJobs jobsGrid jobsOptions (oneByOne "createdAt") jobId
        (byField "createdAt" createdAt .ASC) everything ↔
      (1 = 0 → selectRows .ascii twoJobs jobsGrid everything = []) ∧
        ∀ k, GoodEnd createdAt jobId .ASC (sortedRows .ascii twoJobs jobsGrid jobId
          (byField "createdAt" createdAt .ASC) everything) ((k + 1) * 1 - 1) :=
  cursor_walk_lossless_iff jobs_start_ASC (by decide)

/-- Two jobs of one millisecond, one to a page.  In ascending order the cursor of the first row lies
before it, and the walk reads it for ever; in descending order the cursor lies before the second
row too, which is never read; and a job that is not complete is behind no cursor at all. -/
theorem cursor_walk_loses_a_job :
    ¬ Lossless .ascii twoJobs jobsGrid jobsOptions (oneByOne "createdAt") jobId
        (byField "createdAt" createdAt .ASC) everything ∧
      ¬ Lossless .ascii twoJobs jobsGrid jobsOptions (oneByOne "-createdAt") jobId
        (byField "createdAt" createdAt .DESC) everything ∧
      ¬ Lossless .ascii twoJobs jobsGrid jobsOptions (oneByOne "completedAt") jobId
        (byField "completedAt" completedAt .ASC) everything := by
  have hids : (twoJobs.table.map jobId.expr).Nodup := by decide
  refine ⟨fun h => ?_, fun h => ?_, fun h => ?_⟩
  · have hend := (lossless_pos jobs_start_ASC hids Nat.one_pos).mp h 0 completeJob runningJob
      (by decide +kernel) (by decide +kernel)
    have hread : readValue createdAt completeJob = some (1788220800000100 / 1000 * 1000) := by
      decide +kernel
    have hid : readId jobId completeJob = some 1 := by decide +kernel
    have hnext : Direction.ASC.lt (place createdAt jobId completeJob)
        (place createdAt jobId runningJob) := by decide +kernel
    exact absurd ((between_truncated_ASC rfl hread hid hnext).mp hend.1) (by decide)
  · have hend := (lossless_pos jobs_start_DESC hids Nat.one_pos).mp h 0 runningJob completeJob
      (by decide +kernel) (by decide +kernel)
    have hread : readValue createdAt runningJob = some (1788220800000900 / 1000 * 1000) := by
      decide +kernel
    have hid : readId jobId runningJob = some 2 := by decide +kernel
    exact absurd ((between_truncated_DESC rfl rfl hread hid).mp hend.1) (by decide)
  · have hend := (lossless_pos jobs_start_completed hids Nat.one_pos).mp h 0 completeJob runningJob
      (by decide +kernel) (by decide +kernel)
    exact hend.2 runningJob (by decide +kernel) rfl

end Jkannel.Platform.Grid
