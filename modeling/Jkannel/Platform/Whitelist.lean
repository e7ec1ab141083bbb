import Jkannel.Engine.Sqlbox
import Jkannel.Lib.PreparedText
import Jkannel.Platform.Grid

/-!
# The statements of a grid

A list endpoint names its columns, and the caller names the columns to sort and filter by.  What the
caller may name is looked up by indexing the definition's objects, and an object answers to more
names than its own: every object inherits some.

* `property` is that lookup, and `Property.truthy` the test on what it finds.
* `parseListQuery`, `parseCursorQuery` and `parseSqlboxSort` are the parsers over query objects with
  any keys and values; `buildGridWhere`, `buildGridSql` and `buildCursorSql` the texts, in pieces.
* `ListClosed`, `CursorClosed` and `SqlboxClosed` say of a query that the parsers accept the
  definition's own names and no others, and that the texts are made of the definition's own
  expressions, fixed words and references that the parameters keep.
* `whitelists_closed_iff` says which names a query may ask for without breaking that.
-/

namespace Jkannel.Platform.Whitelist

open List
open Grid (Direction Failure QueryNumber CursorPayload CursorValue Cursor ParsedListQuery nonBlank
  sortToken boundedNumber boundedLimit unsupportedSort unsupportedFilter)
open PreparedText (Piece Closed closed_nil closed_cons closed_append closed_intercalate closed_ref
  closed_keyword closed_expr)

/-! ## Looking a name up in an object -/

/-- What indexing an object of strings finds. -/
inductive Property where
  | own (expression : String)
  /-- A property every object inherits. -/
  | inherited (name : String)
  | missing

/-- `columns[field]`. -/
def property (columns : List (String × String)) (field : String) : Property :=
  match columns.lookup field with
  | some expression => .own expression
  | none => if field ∈ Engine.inheritedKeys then .inherited field else .missing

/-- Whether the lookup counts as found. -/
def Property.truthy : Property → Bool
  | .own expression => expression ≠ ""
  | .inherited _ => true
  | .missing => false

/-- What a template makes of the lookup. -/
def Property.text : Property → String
  | .own expression => expression
  | .inherited name =>
    if name = "constructor" then "function Object() \x7b [native code] \x7d"
    else if name = "__proto__" then "[object Object]"
    else "function " ++ name ++ "() \x7b [native code] \x7d"
  | .missing => "undefined"

/-! ## Queries -/

/-- A value of a query object, by what the code asks of it: the string that it is, and the number
that `Number` makes of it. -/
structure QueryValue where
  text : Option String
  number : QueryNumber

/-- The own properties of a query object, in their order. -/
abbrev QueryObject := List (String × QueryValue)

def QueryObject.text (raw : QueryObject) (key : String) : Option String :=
  (raw.lookup key).bind QueryValue.text

def QueryObject.number (raw : QueryObject) (key : String) : QueryNumber :=
  ((raw.lookup key).map QueryValue.number).getD .absent

/-- What a list may be asked, as SQL. -/
structure GridDefinition where
  searchColumns : List String
  sortColumns : List (String × String)
  filterColumns : List (String × String)
  defaultOrderBy : String
  maxLimit : Option Nat
  defaultLimit : Option Nat

/-- The fields of a sort expression with their directions. -/
def sortTokens (sort : Option String) : List (String × Direction) :=
  match nonBlank sort with
  | none => []
  | some _ =>
    (((Text.split ',' (sort.getD "")).map Text.trim).filter (· ≠ "")).map sortToken

/-- The field behind `filter.`. -/
def filterField (key : String) : Option String :=
  if "filter.".toList.isPrefixOf key.toList then some (String.ofList (key.toList.drop 7)) else none

/-- The filters of a query object with their strings. -/
def filterEntries (raw : QueryObject) : List (String × Option String) :=
  raw.filterMap fun (key, value) => (filterField key).map fun field => (field, value.text)

/-- Look a sort token up. -/
def checkSort (columns : List (String × String)) (token : String × Direction) :
    Except Failure (String × Direction) :=
  if (property columns token.1).truthy then .ok token
  else .error (unsupportedSort token.1 columns)

/-- Look a filter up, and keep its value when it is a string that is not blank. -/
def checkFilter (columns : List (String × String)) (entry : String × Option String) :
    Except Failure (Option (String × String)) :=
  if (property columns entry.1).truthy then
    .ok ((nonBlank entry.2).map fun value => (entry.1, value))
  else .error (unsupportedFilter entry.1 columns)

def parseListQuery (raw : QueryObject) (grid : GridDefinition) :
    Except Failure ParsedListQuery := do
  let sort ← (sortTokens (raw.text "sort")).mapM (checkSort grid.sortColumns)
  let filters ← (filterEntries raw).mapM (checkFilter grid.filterColumns)
  let limit ← boundedNumber (raw.number "limit") (grid.defaultLimit.getD 50) 1
    (grid.maxLimit.getD 500) "limit"
  let offset ← boundedNumber (raw.number "offset") 0 0 5000000 "offset"
  return { search := nonBlank (raw.text "search"), sort, filters := filters.filterMap id,
           limit, offset }

/-- How a cursor query is parsed. -/
structure CursorParseOptions where
  grid : GridDefinition
  defaultSortField : String
  defaultDirection : Option Direction
  maxLimit : Option Nat
  defaultLimit : Option Nat

/-- The query of a cursor page. -/
structure ParsedCursorQuery where
  field : String
  /-- The expression that was found. -/
  sqlExpr : Property
  direction : Direction
  limit : Nat
  after : Option CursorPayload

/-- The field of a keyset: the first of the sort expression, or the default. -/
def cursorSort (raw : QueryObject) (options : CursorParseOptions) : String × Direction :=
  match nonBlank (raw.text "sort") with
  | none => (options.defaultSortField, options.defaultDirection.getD .ASC)
  | some _ => sortToken (Text.trim ((Text.split ',' ((raw.text "sort").getD "")).headD ""))

/-- The limit of a cursor page. -/
def cursorLimit (raw : QueryObject) (options : CursorParseOptions) : Except Failure Nat :=
  boundedLimit (raw.number "limit")
    (options.defaultLimit.getD (options.grid.defaultLimit.getD 50))
    (options.maxLimit.getD (options.grid.maxLimit.getD 500))

/-- The boundary of a cursor page.  `read` is what base64 and `JSON.parse` make of a cursor. -/
def cursorAfter (read : String → Cursor) (raw : QueryObject) :
    Except Failure (Option CursorPayload) :=
  match nonBlank (raw.text "cursor") with
  | none => .ok none
  | some cursor => (Grid.decodeCursor (read cursor)).map some

def parseCursorQuery (read : String → Cursor) (raw : QueryObject) (options : CursorParseOptions) :
    Except Failure ParsedCursorQuery :=
  let found := cursorSort raw options
  let sqlExpr := property options.grid.sortColumns found.1
  if sqlExpr.truthy then do
    let limit ← cursorLimit raw options
    let after ← cursorAfter read raw
    return { field := found.1, sqlExpr, direction := found.2, limit, after }
  else .error (unsupportedSort found.1 options.grid.sortColumns)

/-! ## The sort of the engine's tables -/

/-- The whitelisted columns of the message grids. -/
def SQLBOX_SORT_COLUMNS : List (String × String) :=
  [("time", "q.time"), ("timestamp", "q.time"), ("sql_id", "q.sql_id"), ("id", "q.sql_id"),
   ("sender", "q.sender"), ("receiver", "q.receiver"), ("smscId", "q.smsc_id"),
   ("direction", "q.momt"), ("deliveryStatus", "q.delivery_status"),
   ("externalRef", "q.foreign_id")]

/-- A sort parameter, which a client that repeats it makes a list of. -/
inductive SortValue where
  | absent
  | text (value : String)
  | entries (values : List String)

/-- The tokens of a sort parameter: the pieces between the commas of a text, the entries of a
list. -/
def sqlboxTokens : SortValue → List String
  | .absent => []
  | .text value =>
    if Text.trim value = "" then []
    else ((Text.split ',' value).map Text.trim).filter (· ≠ "")
  | .entries values =>
    if Text.trim (",".intercalate values) = "" then []
    else (values.map Text.trim).filter (· ≠ "")

/-- The field and the direction of a token: a sign before it is not part of the name. -/
def sqlboxToken (token : String) : String × Direction :=
  match token.toList with
  | '-' :: field => (String.ofList field, .DESC)
  | '+' :: field => (String.ofList field, .ASC)
  | _ => (token, .ASC)

def parseSqlboxSort (value : SortValue) : Except Failure (List (String × Direction)) :=
  (sqlboxTokens value).mapM fun token => checkSort SQLBOX_SORT_COLUMNS (sqlboxToken token)

/-! ## Texts -/

/-- A parameter of a grid's statement; `existing` are those of the fixed predicate. -/
inductive Param (A : Type) where
  | existing (value : A)
  | text (value : String)
  | number (value : Nat)
  | value (value : CursorValue)

section Building

variable {A : Type}

/-- A text in pieces. -/
abbrev Sql (A : Type) := List (Piece Property (Param A))

def DirectionWord : Direction → String
  | .ASC => "ASC"
  | .DESC => "DESC"

/-- The conditions and their parameters. -/
structure GridWhere (A : Type) where
  andWhere : Sql A
  params : List (Param A)

/-- The clause of the search, which binds one parameter and refers to it once a column. -/
def searchClause (columns : List String) (reference : Piece Property (Param A)) : Sql A :=
  [.keyword "("] ++
    [Piece.keyword " OR "].intercalate
      (columns.map fun column => [.expr (.own column), .keyword "::text ILIKE ", reference]) ++
    [.keyword ")"]

/-- The clauses of the filters, each with a parameter of its own. -/
def filterClauses (columns : List (String × String)) :
    List (String × String) → List (Param A) → List (Sql A) × List (Param A)
  | [], params => ([], params)
  | (field, value) :: filters, params =>
    let params := params ++ [.text value]
    let (clauses, all) := filterClauses columns filters params
    ([.expr (property columns field), .keyword "::text = ", .ref params.length (.text value)] ::
      clauses, all)

/-- The clause of the search with its parameter, when there is something to search. -/
def searchClauses (query : ParsedListQuery) (grid : GridDefinition) (params : List (Param A)) :
    List (Sql A) × List (Param A) :=
  match query.search with
  | none => ([], params)
  | some search =>
    if search = "" ∨ grid.searchColumns = [] then ([], params)
    else
      let value := Param.text ("%" ++ search ++ "%")
      let params := params ++ [value]
      ([searchClause grid.searchColumns (.ref params.length value)], params)

/-- A predicate behind the fixed one: nothing, or `AND` and the clauses. -/
def andAll (clauses : List (Sql A)) : Sql A :=
  if clauses = [] then [] else [.keyword " AND "] ++ [Piece.keyword " AND "].intercalate clauses

def buildGridWhere (query : ParsedListQuery) (grid : GridDefinition)
    (existingParams : List (Param A)) : GridWhere A :=
  let searched := searchClauses query grid existingParams
  let filtered := filterClauses grid.filterColumns query.filters searched.2
  { andWhere := andAll (searched.1 ++ filtered.1), params := filtered.2 }

/-- The parts of an offset query. -/
structure GridSql (A : Type) where
  andWhere : Sql A
  orderBy : Sql A
  limitOffset : Sql A
  params : List (Param A)

/-- Everything a statement of the grid is made of besides the source's own text. -/
def GridSql.fragments {A : Type} (sql : GridSql A) : Sql A :=
  sql.andWhere ++ sql.orderBy ++ sql.limitOffset

def orderByClause (query : ParsedListQuery) (grid : GridDefinition) : Sql A :=
  if query.sort = [] then [.keyword "ORDER BY ", .expr (.own grid.defaultOrderBy)]
  else [.keyword "ORDER BY "] ++ [Piece.keyword ", "].intercalate (query.sort.map fun entry =>
    [.expr (property grid.sortColumns entry.1), .keyword " ", .keyword (DirectionWord entry.2)])

/-- The parts of an offset query. -/
def buildGridSql (query : ParsedListQuery) (grid : GridDefinition)
    (existingParams : List (Param A)) : GridSql A :=
  let found := buildGridWhere query grid existingParams
  let limited := found.params ++ [.number query.limit]
  let params := limited ++ [.number query.offset]
  { andWhere := found.andWhere
    orderBy := orderByClause query grid
    limitOffset :=
      [.keyword "LIMIT ", .ref limited.length (.number query.limit), .keyword " ",
        .keyword "OFFSET ", .ref params.length (.number query.offset)]
    params }

/-- The parts of a cursor query. -/
structure CursorSql (A : Type) where
  andWhere : Sql A
  orderBy : Sql A
  limit : Sql A
  params : List (Param A)
  fetchLimit : Nat

def CursorSql.fragments {A : Type} (sql : CursorSql A) : Sql A :=
  sql.andWhere ++ sql.orderBy ++ sql.limit

/-- The word of the keyset's comparison. -/
def comparisonWord : Direction → String
  | .ASC => ">"
  | .DESC => "<"

/-- The keyset's predicate with its two parameters, of which the first is referred to twice. -/
def keysetClauses (query : ParsedCursorQuery) (idExpr : String) (params : List (Param A)) :
    List (Sql A) × List (Param A) :=
  match query.after with
  | none => ([], params)
  | some after =>
    let valued := params ++ [.value after.v]
    let all := valued ++ [.text after.i]
    let valueRef := Piece.ref valued.length (.value after.v)
    let idRef := Piece.ref all.length (.text after.i)
    let cmp := Piece.keyword (comparisonWord query.direction)
    ([[.keyword "(", .expr query.sqlExpr, .keyword " ", cmp, .keyword " ", valueRef,
        .keyword " OR (", .expr query.sqlExpr, .keyword " = ", valueRef, .keyword " AND ",
        .expr (.own idExpr), .keyword " ", cmp, .keyword " ", idRef, .keyword "))"]], all)

/-- The parts of a cursor query. -/
def buildCursorSql (query : ParsedCursorQuery) (idExpr : String)
    (existingParams : List (Param A)) : CursorSql A :=
  let keyset := keysetClauses query idExpr existingParams
  let fetchLimit := query.limit + 1
  let params := keyset.2 ++ [.number fetchLimit]
  { andWhere := andAll keyset.1
    orderBy := [.keyword "ORDER BY ", .expr query.sqlExpr, .keyword " ",
      .keyword (DirectionWord query.direction), .keyword ", ", .expr (.own idExpr), .keyword " ",
      .keyword (DirectionWord query.direction)]
    limit := [.keyword "LIMIT ", .ref params.length (.number fetchLimit)]
    params
    fetchLimit }

end Building

/-! ## Which fields are accepted -/

/-- The test the parsers put a field to. -/
def accepts (columns : List (String × String)) (field : String) : Bool :=
  (property columns field).truthy

/-- A name under which the lookup finds one of the object's own expressions or nothing: none that is
inherited, and none whose expression is empty. -/
structure Ordinary (columns : List (String × String)) (field : String) : Prop where
  expression : ∀ text, columns.lookup field = some text → text ≠ ""
  inherited : columns.lookup field = none → field ∉ Engine.inheritedKeys

section Accepting

variable {columns : List (String × String)} {field : String}

theorem lookup_eq_none_iff : columns.lookup field = none ↔ field ∉ columns.map Prod.fst := by
  rw [← Option.not_isSome_iff_eq_none, lookup_isSome_iff, mem_map]
  refine not_congr ⟨?_, ?_⟩
  · rintro ⟨pair, hpair, hfield⟩
    exact ⟨pair, hpair, (beq_iff_eq.mp hfield).symm⟩
  · rintro ⟨pair, hpair, rfl⟩
    exact ⟨pair, hpair, beq_self_eq_true _⟩

/-- **A field is accepted exactly when it is the definition's own, exactly on ordinary names.** -/
theorem accepts_iff_own_iff : (accepts columns field = true ↔ field ∈ columns.map Prod.fst) ↔
    Ordinary columns field := by
  have howned : columns.lookup field = none ↔ field ∉ columns.map Prod.fst := lookup_eq_none_iff
  rw [accepts, property]
  cases hlookup : columns.lookup field with
  | some expression =>
    have hmem : field ∈ columns.map Prod.fst := by
      by_contra hnot
      rw [howned.mpr hnot] at hlookup
      cases hlookup
    constructor
    · intro h
      refine ⟨fun text htext => ?_, fun hnone => by rw [hlookup] at hnone; cases hnone⟩
      obtain rfl := Option.some.inj (hlookup.symm.trans htext)
      exact of_decide_eq_true (h.mpr hmem)
    · intro h
      exact iff_of_true (decide_eq_true (h.expression expression hlookup)) hmem
  | none =>
    have hnot := howned.mp hlookup
    by_cases hinherited : field ∈ Engine.inheritedKeys
    · rw [if_pos hinherited]
      exact iff_of_false (fun h => hnot (h.mp rfl)) fun h => h.inherited hlookup hinherited
    · rw [if_neg hinherited]
      refine iff_of_true (iff_of_false (by decide) hnot) ⟨fun text htext => ?_, fun _ => ?_⟩
      · rw [hlookup] at htext
        cases htext
      · exact hinherited

/-- The definition's own name stands for one of its own expressions. -/
theorem property_of_own (h : field ∈ columns.map Prod.fst) :
    ∃ expression ∈ columns.map Prod.snd, property columns field = .own expression := by
  cases hlookup : columns.lookup field with
  | none => exact absurd h (lookup_eq_none_iff.mp hlookup)
  | some expression =>
    obtain ⟨before, after, rfl, -⟩ := lookup_eq_some_iff.mp hlookup
    refine ⟨expression, mem_map.mpr ⟨(field, expression), by simp, rfl⟩, ?_⟩
    rw [property, hlookup]

end Accepting

/-! ## What the parsers accept -/

section Parsing

variable {α β ε : Type} {l : List α} {f : α → Except ε β}

/-- Checking a list succeeds with a list exactly when each check does with its element. -/
theorem mapM_eq_ok_iff {l' : List β} :
    l.mapM f = .ok l' ↔ List.Forall₂ (fun a b => f a = .ok b) l l' := by
  induction l generalizing l' with
  | nil =>
    rw [mapM_nil, forall₂_nil_left_iff]
    exact ⟨fun h => (Except.ok.inj h).symm, fun h => h ▸ rfl⟩
  | cons a l ih =>
    rw [mapM_cons, forall₂_cons_left_iff]
    cases ha : f a with
    | error e => exact iff_of_false (fun h => by cases h) fun ⟨b, rest, h, _⟩ => by cases h
    | ok b =>
      cases hl : l.mapM f with
      | error e =>
        refine iff_of_false (fun h => by cases h) ?_
        rintro ⟨b', rest, -, hrest, -⟩
        rw [← ih, hl] at hrest
        cases hrest
      | ok rest =>
        constructor
        · intro h
          exact ⟨b, rest, rfl, ih.mp hl, (Except.ok.inj h).symm⟩
        · rintro ⟨b', rest', hb, hrest, rfl⟩
          rw [← ih, hl] at hrest
          rw [Except.ok.inj hb, Except.ok.inj hrest]
          rfl

theorem isOk_mapM_iff :
    (l.mapM f).isOk = true ↔ ∀ a ∈ l, (f a).isOk = true := by
  induction l with
  | nil => exact iff_of_true rfl fun a ha => by cases ha
  | cons a l ih =>
    rw [mapM_cons, forall_mem_cons, ← ih]
    cases f a with
    | error e => exact iff_of_false Bool.false_ne_true fun h => by cases h.1
    | ok b =>
      cases l.mapM f with
      | error e => exact iff_of_false Bool.false_ne_true fun h => by cases h.2
      | ok rest => exact iff_of_true rfl ⟨rfl, rfl⟩

end Parsing

variable {columns : List (String × String)} {raw : QueryObject} {grid : GridDefinition}
  {read : String → Cursor} {options : CursorParseOptions} {idExpr : String}
  {entry : String × Option String} {value : SortValue}

theorem isOk_checkSort {token : String × Direction} :
    (checkSort columns token).isOk = accepts columns token.1 := by
  rw [checkSort, accepts]
  cases (property columns token.1).truthy with
  | true | false => rfl

theorem isOk_checkFilter :
    (checkFilter columns entry).isOk = accepts columns entry.1 := by
  rw [checkFilter, accepts]
  cases (property columns entry.1).truthy with
  | true | false => rfl

/-- The numbers of a list query are in their bounds. -/
def NumbersOk (raw : QueryObject) (grid : GridDefinition) : Prop :=
  (boundedNumber (raw.number "limit") (grid.defaultLimit.getD 50) 1 (grid.maxLimit.getD 500)
    "limit").isOk = true ∧
  (boundedNumber (raw.number "offset") 0 0 5000000 "offset").isOk = true

/-- A list query is accepted when its numbers are in their bounds and each of its fields is. -/
theorem isOk_parseListQuery :
    (parseListQuery raw grid).isOk = true ↔ NumbersOk raw grid ∧
      (∀ token ∈ sortTokens (raw.text "sort"), accepts grid.sortColumns token.1 = true) ∧
      ∀ entry ∈ filterEntries raw, accepts grid.filterColumns entry.1 = true := by
  have hsort : ((sortTokens (raw.text "sort")).mapM (checkSort grid.sortColumns)).isOk = true ↔
      ∀ token ∈ sortTokens (raw.text "sort"), (checkSort grid.sortColumns token).isOk = true :=
    isOk_mapM_iff
  have hfilters : ((filterEntries raw).mapM (checkFilter grid.filterColumns)).isOk = true ↔
      ∀ entry ∈ filterEntries raw, (checkFilter grid.filterColumns entry).isOk = true :=
    isOk_mapM_iff
  simp only [isOk_checkSort, isOk_checkFilter] at hsort hfilters
  rw [← hsort, ← hfilters, NumbersOk, parseListQuery]
  cases (sortTokens (raw.text "sort")).mapM (checkSort grid.sortColumns) with
  | error e => exact iff_of_false Bool.false_ne_true fun h => by cases h.2.1
  | ok sort =>
    cases (filterEntries raw).mapM (checkFilter grid.filterColumns) with
    | error e => exact iff_of_false Bool.false_ne_true fun h => by cases h.2.2
    | ok filters =>
      cases boundedNumber (raw.number "limit") (grid.defaultLimit.getD 50) 1
          (grid.maxLimit.getD 500) "limit" with
      | error e => exact iff_of_false Bool.false_ne_true fun h => by cases h.1.1
      | ok limit =>
        cases boundedNumber (raw.number "offset") 0 0 5000000 "offset" with
        | error e => exact iff_of_false Bool.false_ne_true fun h => by cases h.1.2
        | ok offset => exact iff_of_true rfl ⟨⟨rfl, rfl⟩, rfl, rfl⟩

theorem exists_of_forall₂ {α β : Type} {r : α → β → Prop} {l : List α} {l' : List β}
    (h : List.Forall₂ r l l') {b : β} (hb : b ∈ l') : ∃ a ∈ l, r a b := by
  induction h with
  | nil => cases hb
  | @cons a b' l l' hr _ ih =>
    rcases mem_cons.mp hb with rfl | hb
    · exact ⟨a, mem_cons_self, hr⟩
    · obtain ⟨a', ha', hr'⟩ := ih hb
      exact ⟨a', mem_cons_of_mem _ ha', hr'⟩

theorem checkSort_eq_ok {token found : String × Direction}
    (h : checkSort columns token = .ok found) : token = found := by
  rw [checkSort] at h
  split at h
  · exact Except.ok.inj h
  · cases h

theorem checkFilter_eq_some {filter : String × String}
    (h : checkFilter columns entry = .ok (some filter)) : entry.1 = filter.1 := by
  rw [checkFilter] at h
  split at h
  · obtain ⟨value, -, rfl⟩ := Option.map_eq_some_iff.mp (Except.ok.inj h)
    rfl
  · cases h

/-- What a list query comes out as: its sort tokens, and filters by fields it asked for. -/
theorem parsed_of_parseListQuery {parsed : ParsedListQuery}
    (h : parseListQuery raw grid = .ok parsed) :
    parsed.sort = sortTokens (raw.text "sort") ∧
      ∀ filter ∈ parsed.filters, ∃ entry ∈ filterEntries raw, entry.1 = filter.1 := by
  rw [parseListQuery] at h
  cases hsort : (sortTokens (raw.text "sort")).mapM (checkSort grid.sortColumns) with
  | error e => rw [hsort] at h; cases h
  | ok sort =>
    cases hfilters : (filterEntries raw).mapM (checkFilter grid.filterColumns) with
    | error e => rw [hsort, hfilters] at h; cases h
    | ok filters =>
      rw [hsort, hfilters] at h
      cases hlimit : boundedNumber (raw.number "limit") (grid.defaultLimit.getD 50) 1
          (grid.maxLimit.getD 500) "limit" with
      | error e => rw [hlimit] at h; cases h
      | ok limit =>
        rw [hlimit] at h
        cases hoffset : boundedNumber (raw.number "offset") 0 0 5000000 "offset" with
        | error e => rw [hoffset] at h; cases h
        | ok offset =>
          rw [hoffset] at h
          cases h
          refine ⟨?_, fun filter hfilter => ?_⟩
          · have hsame := (mapM_eq_ok_iff.mp hsort).imp fun _ _ => checkSort_eq_ok
            rw [forall₂_eq_eq_eq] at hsame
            exact hsame.symm
          · obtain ⟨found, hfound, heq⟩ := mem_filterMap.mp hfilter
            obtain rfl : found = some filter := heq
            obtain ⟨entry, hentry, hcheck⟩ :=
              exists_of_forall₂ (mapM_eq_ok_iff.mp hfilters) hfound
            exact ⟨entry, hentry, checkFilter_eq_some hcheck⟩

/-! ## The texts are closed -/

/-- The fixed words of the texts. -/
def KEYWORDS : List String :=
  [" AND ", " OR ", "(", ")", "))", " OR (", " ", ", ", "::text ILIKE ", "::text = ", " = ", "<",
   ">", "ORDER BY ", "LIMIT ", "OFFSET ", "ASC", "DESC"]

/-- The expressions that the definition's author wrote. -/
def GridDefinition.expressions (grid : GridDefinition) : List String :=
  grid.searchColumns ++ grid.sortColumns.map Prod.snd ++ grid.filterColumns.map Prod.snd ++
    [grid.defaultOrderBy]

/-- An expression of a list of them. -/
def Written (expressions : List String) (found : Property) : Prop :=
  ∃ expression ∈ expressions, found = .own expression

section Texts

variable {A : Type} {expressions : List String} {params : List (Param A)}

theorem closed_andAll {clauses : List (Sql A)}
    (h : ∀ clause ∈ clauses, Closed KEYWORDS (Written expressions) params clause) :
    Closed KEYWORDS (Written expressions) params (andAll clauses) := by
  have hand : Closed KEYWORDS (Written expressions) params
      ([.keyword " AND "] : Sql A) :=
    closed_keyword (by decide) closed_nil
  rw [andAll]
  split
  · exact closed_nil
  · exact closed_append.mpr ⟨hand, closed_intercalate hand h⟩

/-- The clause of the search: every reference is to the one parameter it binds. -/
theorem closed_searchClause {columns : List String} {reference : Piece Property (Param A)}
    (hcolumns : ∀ column ∈ columns, column ∈ expressions)
    (href : reference.Closed KEYWORDS (Written expressions) params) :
    Closed KEYWORDS (Written expressions) params (searchClause columns reference) := by
  rw [searchClause]
  refine closed_append.mpr ⟨closed_append.mpr ⟨?_, ?_⟩, ?_⟩
  · exact closed_keyword (by decide) closed_nil
  · refine closed_intercalate (closed_keyword (by decide) closed_nil) fun list hlist => ?_
    obtain ⟨column, hcolumn, rfl⟩ := mem_map.mp hlist
    refine closed_expr ⟨column, hcolumns column hcolumn, rfl⟩ (closed_keyword (by decide) ?_)
    exact closed_cons.mpr ⟨href, closed_nil⟩
  · exact closed_keyword (by decide) closed_nil

variable {query : ParsedListQuery}

theorem closed_searchClauses (hcolumns : ∀ column ∈ grid.searchColumns, column ∈ expressions) :
    params <+: (searchClauses query grid params).2 ∧
      ∀ clause ∈ (searchClauses query grid params).1,
        Closed KEYWORDS (Written expressions) (searchClauses query grid params).2 clause := by
  rw [searchClauses]
  cases query.search with
  | none => exact ⟨prefix_rfl, fun _ h => by cases h⟩
  | some search =>
    by_cases hnothing : search = "" ∨ grid.searchColumns = []
    · simp only [if_pos hnothing]
      exact ⟨prefix_rfl, fun _ h => by cases h⟩
    · simp only [if_neg hnothing]
      refine ⟨prefix_append _ _, fun clause hclause => ?_⟩
      rw [mem_singleton.mp hclause]
      exact closed_searchClause hcolumns (closed_ref _)

/-- The clauses of the filters, by induction on the filters: each one's reference is the number its
parameter got, and later filters only append. -/
theorem closed_filterClauses {columns : List (String × String)}
    (hcolumns : ∀ expression ∈ columns.map Prod.snd, expression ∈ expressions)
    (filters : List (String × String)) (params : List (Param A))
    (hown : ∀ filter ∈ filters, filter.1 ∈ columns.map Prod.fst) :
    params <+: (filterClauses columns filters params).2 ∧
      ∀ clause ∈ (filterClauses columns filters params).1,
        Closed KEYWORDS (Written expressions) (filterClauses columns filters params).2 clause := by
  induction filters generalizing params with
  | nil => exact ⟨prefix_rfl, fun _ h => by cases h⟩
  | cons filter filters ih =>
    obtain ⟨field, value⟩ := filter
    have hrest := ih (params ++ [.text value]) fun other hother =>
      hown other (mem_cons_of_mem _ hother)
    refine ⟨(prefix_append _ _).trans hrest.1, fun clause hclause => ?_⟩
    rcases mem_cons.mp hclause with rfl | hclause
    · obtain ⟨expression, hexpression, hproperty⟩ :=
        property_of_own (hown (field, value) mem_cons_self)
      have hclosed : Closed KEYWORDS (Written expressions) (params ++ [Param.text value])
          ([.expr (property columns field), .keyword "::text = ",
            .ref (params ++ [Param.text value]).length (.text value)] : Sql A) :=
        closed_expr ⟨expression, hcolumns expression hexpression, hproperty⟩
          (closed_keyword (by decide) (closed_cons.mpr ⟨closed_ref _, closed_nil⟩))
      exact hclosed.mono hrest.1
    · exact hrest.2 clause hclause

/-- A list query all of whose fields are the definition's own. -/
def OwnFields (grid : GridDefinition) (query : ParsedListQuery) : Prop :=
  (∀ entry ∈ query.sort, entry.1 ∈ grid.sortColumns.map Prod.fst) ∧
    ∀ filter ∈ query.filters, filter.1 ∈ grid.filterColumns.map Prod.fst

/-- **The predicate of a grid's statement**, on top of any parameters. -/
theorem closed_buildGridWhere (hown : OwnFields grid query) (existing : List (Param A)) :
    existing <+: (buildGridWhere query grid existing).params ∧
      Closed KEYWORDS (Written grid.expressions) (buildGridWhere query grid existing).params
        (buildGridWhere query grid existing).andWhere := by
  have hsearch : existing <+: (searchClauses query grid existing).2 ∧
      ∀ clause ∈ (searchClauses query grid existing).1, Closed KEYWORDS
        (Written grid.expressions) (searchClauses query grid existing).2 clause :=
    closed_searchClauses fun column hcolumn => by
      simp only [GridDefinition.expressions, mem_append]
      exact .inl (.inl (.inl hcolumn))
  have hexpressions : ∀ expression ∈ grid.filterColumns.map Prod.snd,
      expression ∈ grid.expressions := fun expression hexpression => by
    simp only [GridDefinition.expressions, mem_append]
    exact .inl (.inr hexpression)
  have hfilters := closed_filterClauses hexpressions query.filters
    (searchClauses query grid existing).2 hown.2
  refine ⟨hsearch.1.trans hfilters.1, closed_andAll fun clause hclause => ?_⟩
  rcases mem_append.mp hclause with hclause | hclause
  · exact (hsearch.2 clause hclause).mono hfilters.1
  · exact hfilters.2 clause hclause

theorem directionWord_mem (direction : Direction) : DirectionWord direction ∈ KEYWORDS := by
  cases direction with
  | ASC | DESC => decide

theorem comparisonWord_mem (direction : Direction) : comparisonWord direction ∈ KEYWORDS := by
  cases direction with
  | ASC | DESC => decide

theorem closed_orderByClause (hown : OwnFields grid query) :
    Closed KEYWORDS (Written grid.expressions) params (orderByClause query grid : Sql A) := by
  rw [orderByClause]
  split
  · refine closed_keyword (by decide) (closed_expr ⟨grid.defaultOrderBy, ?_, rfl⟩ closed_nil)
    exact mem_append_right _ (mem_singleton.mpr rfl)
  · refine closed_append.mpr ⟨closed_keyword (by decide) closed_nil, ?_⟩
    refine closed_intercalate (closed_keyword (by decide) closed_nil) fun list hlist => ?_
    obtain ⟨entry, hentry, rfl⟩ := mem_map.mp hlist
    obtain ⟨expression, hexpression, hproperty⟩ := property_of_own (hown.1 entry hentry)
    refine closed_expr ⟨expression, ?_, hproperty⟩ (closed_keyword (by decide)
      (closed_keyword (directionWord_mem _) closed_nil))
    simp only [GridDefinition.expressions, mem_append]
    exact .inl (.inl (.inr hexpression))

/-- **The texts of an offset page.** -/
theorem closed_buildGridSql (hown : OwnFields grid query) (existing : List (Param A)) :
    existing <+: (buildGridSql query grid existing).params ∧
      Closed KEYWORDS (Written grid.expressions) (buildGridSql query grid existing).params
        (buildGridSql query grid existing).fragments := by
  obtain ⟨hprefixed, hwhere⟩ := closed_buildGridWhere hown existing
  have hlimited : (buildGridWhere query grid existing).params <+:
      (buildGridSql query grid existing).params :=
    (prefix_append _ _).trans (prefix_append _ _)
  refine ⟨hprefixed.trans hlimited, closed_append.mpr ⟨closed_append.mpr
    ⟨hwhere.mono hlimited, closed_orderByClause hown⟩, ?_⟩⟩
  have hlimit : Closed KEYWORDS (Written grid.expressions)
      ((buildGridWhere query grid existing).params ++ [.number query.limit])
      ([.ref ((buildGridWhere query grid existing).params ++ [Param.number query.limit]).length
        (.number query.limit)] : Sql A) :=
    closed_cons.mpr ⟨closed_ref _, closed_nil⟩
  refine closed_keyword (by decide) ?_
  refine closed_cons.mpr ⟨(hlimit.mono (prefix_append _ _)) _ mem_cons_self, ?_⟩
  refine closed_keyword (by decide) (closed_keyword (by decide) ?_)
  exact closed_cons.mpr ⟨closed_ref _, closed_nil⟩

theorem closed_keysetClauses {query : ParsedCursorQuery} (hsort : Written expressions query.sqlExpr)
    (hid : idExpr ∈ expressions) (existing : List (Param A)) :
    existing <+: (keysetClauses query idExpr existing).2 ∧
      ∀ clause ∈ (keysetClauses query idExpr existing).1,
        Closed KEYWORDS (Written expressions) (keysetClauses query idExpr existing).2 clause := by
  rw [keysetClauses]
  cases query.after with
  | none => exact ⟨prefix_rfl, fun _ h => by cases h⟩
  | some after =>
    refine ⟨(prefix_append _ _).trans (prefix_append _ _), fun clause hclause => ?_⟩
    rw [mem_singleton.mp hclause]
    have hvalue : (Piece.ref (existing ++ [Param.value after.v]).length (.value after.v) :
        Piece Property (Param A)).Closed KEYWORDS (Written expressions)
          (existing ++ [.value after.v] ++ [.text after.i]) := by
      have hone : Closed KEYWORDS (Written expressions) (existing ++ [Param.value after.v])
          ([.ref (existing ++ [Param.value after.v]).length (.value after.v)] : Sql A) :=
        closed_cons.mpr ⟨closed_ref _, closed_nil⟩
      exact (hone.mono (prefix_append _ _)) _ mem_cons_self
    refine closed_keyword (by decide) (closed_expr hsort (closed_keyword (by decide)
      (closed_keyword (comparisonWord_mem _) (closed_keyword (by decide) ?_))))
    refine closed_cons.mpr ⟨hvalue, closed_keyword (by decide) (closed_expr hsort
      (closed_keyword (by decide) ?_))⟩
    refine closed_cons.mpr ⟨hvalue, closed_keyword (by decide) (closed_expr ⟨idExpr, hid, rfl⟩
      (closed_keyword (by decide) (closed_keyword (comparisonWord_mem _)
        (closed_keyword (by decide) ?_))))⟩
    exact closed_cons.mpr ⟨closed_ref _, closed_keyword (by decide) closed_nil⟩

/-- **The texts of a cursor page.** -/
theorem closed_buildCursorSql {query : ParsedCursorQuery}
    (hsort : Written expressions query.sqlExpr) (hid : idExpr ∈ expressions)
    (existing : List (Param A)) :
    existing <+: (buildCursorSql query idExpr existing).params ∧
      Closed KEYWORDS (Written expressions) (buildCursorSql query idExpr existing).params
        (buildCursorSql query idExpr existing).fragments := by
  obtain ⟨hprefixed, hkeyset⟩ := closed_keysetClauses hsort hid existing
  have hlimited : (keysetClauses query idExpr existing).2 <+:
      (buildCursorSql query idExpr existing).params := prefix_append _ _
  refine ⟨hprefixed.trans hlimited, closed_append.mpr ⟨closed_append.mpr
    ⟨closed_andAll fun clause hclause => (hkeyset clause hclause).mono hlimited, ?_⟩, ?_⟩⟩
  · exact closed_keyword (by decide) (closed_expr hsort (closed_keyword (by decide)
      (closed_keyword (directionWord_mem _) (closed_keyword (by decide)
        (closed_expr ⟨idExpr, hid, rfl⟩ (closed_keyword (by decide)
          (closed_keyword (directionWord_mem _) closed_nil)))))))
  · exact closed_keyword (by decide) (closed_cons.mpr ⟨closed_ref _, closed_nil⟩)

end Texts

/-! ## Queries that keep the whitelists closed -/

/-- A list query: it is accepted when its numbers are in bounds and its fields are accepted, a field
is accepted exactly when it is the definition's own, and the texts are closed. -/
structure ListClosed (A : Type) (raw : QueryObject) (grid : GridDefinition) : Prop where
  accepted : (parseListQuery raw grid).isOk = true ↔ NumbersOk raw grid ∧
    (∀ token ∈ sortTokens (raw.text "sort"), accepts grid.sortColumns token.1 = true) ∧
    ∀ entry ∈ filterEntries raw, accepts grid.filterColumns entry.1 = true
  sorts : ∀ token ∈ sortTokens (raw.text "sort"),
    (accepts grid.sortColumns token.1 = true ↔ token.1 ∈ grid.sortColumns.map Prod.fst)
  filters : ∀ entry ∈ filterEntries raw,
    (accepts grid.filterColumns entry.1 = true ↔ entry.1 ∈ grid.filterColumns.map Prod.fst)
  predicate : ∀ parsed, parseListQuery raw grid = .ok parsed → ∀ existing : List (Param A),
    existing <+: (buildGridWhere parsed grid existing).params ∧
    Closed KEYWORDS (Written grid.expressions) (buildGridWhere parsed grid existing).params
      (buildGridWhere parsed grid existing).andWhere
  statement : ∀ parsed, parseListQuery raw grid = .ok parsed → ∀ existing : List (Param A),
    existing <+: (buildGridSql parsed grid existing).params ∧
    Closed KEYWORDS (Written grid.expressions) (buildGridSql parsed grid existing).params
      (buildGridSql parsed grid existing).fragments

/-- A cursor query, the same. -/
structure CursorClosed (A : Type) (read : String → Cursor) (raw : QueryObject)
    (options : CursorParseOptions) (idExpr : String) : Prop where
  accepted : (parseCursorQuery read raw options).isOk = true ↔
    accepts options.grid.sortColumns (cursorSort raw options).1 = true ∧
    (cursorLimit raw options).isOk = true ∧ (cursorAfter read raw).isOk = true
  sorts : accepts options.grid.sortColumns (cursorSort raw options).1 = true ↔
    (cursorSort raw options).1 ∈ options.grid.sortColumns.map Prod.fst
  statement : ∀ parsed, parseCursorQuery read raw options = .ok parsed →
    ∀ existing : List (Param A),
      existing <+: (buildCursorSql parsed idExpr existing).params ∧
      Closed KEYWORDS (Written (idExpr :: options.grid.expressions))
        (buildCursorSql parsed idExpr existing).params
        (buildCursorSql parsed idExpr existing).fragments

/-- A sort of the engine's tables, the same. -/
structure SqlboxClosed (value : SortValue) : Prop where
  accepted : (parseSqlboxSort value).isOk = true ↔
    ∀ token ∈ sqlboxTokens value, accepts SQLBOX_SORT_COLUMNS (sqlboxToken token).1 = true
  sorts : ∀ token ∈ sqlboxTokens value,
    (accepts SQLBOX_SORT_COLUMNS (sqlboxToken token).1 = true ↔
      (sqlboxToken token).1 ∈ SQLBOX_SORT_COLUMNS.map Prod.fst)

/-- **A list query keeps the whitelists closed exactly when the names it asks for are ordinary.** -/
theorem listClosed_iff {A : Type} :
    ListClosed A raw grid ↔
      (∀ token ∈ sortTokens (raw.text "sort"), Ordinary grid.sortColumns token.1) ∧
      ∀ entry ∈ filterEntries raw, Ordinary grid.filterColumns entry.1 := by
  constructor
  · intro h
    exact ⟨fun token htoken => accepts_iff_own_iff.mp (h.sorts token htoken),
      fun entry hentry => accepts_iff_own_iff.mp (h.filters entry hentry)⟩
  · rintro ⟨hsorts, hfilters⟩
    have hown : ∀ parsed, parseListQuery raw grid = .ok parsed → OwnFields grid parsed := by
      intro parsed hparsed
      have hok : (parseListQuery raw grid).isOk = true := by rw [hparsed]; rfl
      obtain ⟨-, hacceptedSorts, hacceptedFilters⟩ := isOk_parseListQuery.mp hok
      obtain ⟨hsort, hfilter⟩ := parsed_of_parseListQuery hparsed
      refine ⟨fun entry hentry => ?_, fun filter hmem => ?_⟩
      · rw [hsort] at hentry
        exact (accepts_iff_own_iff.mpr (hsorts entry hentry)).mp (hacceptedSorts entry hentry)
      · obtain ⟨entry, hentry, heq⟩ := hfilter filter hmem
        rw [← heq]
        exact (accepts_iff_own_iff.mpr (hfilters entry hentry)).mp (hacceptedFilters entry hentry)
    exact
      { accepted := isOk_parseListQuery
        sorts := fun token htoken => accepts_iff_own_iff.mpr (hsorts token htoken)
        filters := fun entry hentry => accepts_iff_own_iff.mpr (hfilters entry hentry)
        predicate := fun parsed hparsed existing => closed_buildGridWhere (hown parsed hparsed) _
        statement := fun parsed hparsed existing => closed_buildGridSql (hown parsed hparsed) _ }

theorem isOk_parseCursorQuery : (parseCursorQuery read raw options).isOk = true ↔
      accepts options.grid.sortColumns (cursorSort raw options).1 = true ∧
      (cursorLimit raw options).isOk = true ∧ (cursorAfter read raw).isOk = true := by
  rw [parseCursorQuery, accepts]
  by_cases htruthy : (property options.grid.sortColumns (cursorSort raw options).1).truthy = true
  · rw [if_pos htruthy]
    cases cursorLimit raw options with
    | error e => exact iff_of_false Bool.false_ne_true fun h => by cases h.2.1
    | ok limit =>
      cases cursorAfter read raw with
      | error e => exact iff_of_false Bool.false_ne_true fun h => by cases h.2.2
      | ok after => exact iff_of_true rfl ⟨htruthy, rfl, rfl⟩
  · rw [if_neg htruthy]
    exact iff_of_false Bool.false_ne_true fun h => htruthy h.1

theorem sqlExpr_of_parseCursorQuery {parsed : ParsedCursorQuery}
    (h : parseCursorQuery read raw options = .ok parsed) :
    parsed.sqlExpr = property options.grid.sortColumns (cursorSort raw options).1 := by
  rw [parseCursorQuery] at h
  by_cases htruthy : (property options.grid.sortColumns (cursorSort raw options).1).truthy = true
  · rw [if_pos htruthy] at h
    cases hlimit : cursorLimit raw options with
    | error e => rw [hlimit] at h; cases h
    | ok limit =>
      rw [hlimit] at h
      cases hafter : cursorAfter read raw with
      | error e => rw [hafter] at h; cases h
      | ok after =>
        rw [hafter] at h
        cases h
        rfl
  · rw [if_neg htruthy] at h
    cases h

/-- **A cursor query keeps them closed exactly when the name it sorts by is ordinary.** -/
theorem cursorClosed_iff {A : Type} :
    CursorClosed A read raw options idExpr ↔
      Ordinary options.grid.sortColumns (cursorSort raw options).1 := by
  constructor
  · intro h
    exact accepts_iff_own_iff.mp h.sorts
  · intro hordinary
    refine
      { accepted := isOk_parseCursorQuery
        sorts := accepts_iff_own_iff.mpr hordinary
        statement := fun parsed hparsed existing => closed_buildCursorSql ?_ mem_cons_self _ }
    have hok : (parseCursorQuery read raw options).isOk = true := by rw [hparsed]; rfl
    obtain ⟨expression, hexpression, hproperty⟩ := property_of_own
      ((accepts_iff_own_iff.mpr hordinary).mp (isOk_parseCursorQuery.mp hok).1)
    refine ⟨expression, mem_cons_of_mem _ ?_, (sqlExpr_of_parseCursorQuery hparsed).trans hproperty⟩
    simp only [GridDefinition.expressions, mem_append]
    exact .inl (.inl (.inr hexpression))

theorem isOk_parseSqlboxSort : (parseSqlboxSort value).isOk = true ↔
    ∀ token ∈ sqlboxTokens value, accepts SQLBOX_SORT_COLUMNS (sqlboxToken token).1 = true := by
  rw [parseSqlboxSort, isOk_mapM_iff]
  simp only [isOk_checkSort]

/-- The columns of the message grids have expressions, and none has an inherited name. -/
theorem ordinary_sqlbox_iff {field : String} :
    Ordinary SQLBOX_SORT_COLUMNS field ↔ field ∉ Engine.inheritedKeys := by
  constructor
  · intro h hinherited
    refine h.inherited (lookup_eq_none_iff.mpr fun hmem => ?_) hinherited
    have hdisjoint : ∀ key ∈ SQLBOX_SORT_COLUMNS.map Prod.fst,
        key ∉ Engine.inheritedKeys := by decide
    exact hdisjoint field hmem hinherited
  · intro h
    refine ⟨fun text htext => ?_, fun _ => h⟩
    have hexpressions : ∀ expression ∈ SQLBOX_SORT_COLUMNS.map Prod.snd, expression ≠ "" := by
      decide
    obtain ⟨before, after, heq, -⟩ := lookup_eq_some_iff.mp htext
    exact hexpressions text (mem_map.mpr ⟨(field, text), by rw [heq]; simp, rfl⟩)

theorem sqlboxClosed_iff :
    SqlboxClosed value ↔
      ∀ token ∈ sqlboxTokens value, (sqlboxToken token).1 ∉ Engine.inheritedKeys := by
  constructor
  · intro h token htoken
    exact ordinary_sqlbox_iff.mp (accepts_iff_own_iff.mp (h.sorts token htoken))
  · intro h
    exact ⟨isOk_parseSqlboxSort, fun token htoken =>
      accepts_iff_own_iff.mpr (ordinary_sqlbox_iff.mpr (h token htoken))⟩

/-- **Which queries keep the whitelists closed.**  For every grid, list query, cursor query and sort
of the engine's tables: the parsers accept a field exactly when it is one of the definition's own
names, and whatever is built of a query that is accepted, on top of any parameters, consists of the
definition's own expressions, fixed words and references that the parameters keep, exactly when the
names asked for are ordinary: an own name has an expression that is not empty, and any other is not
one that every object inherits. -/
theorem whitelists_closed_iff (A : Type) (read : String → Cursor) (raw : QueryObject)
    (grid : GridDefinition) (cursorRaw : QueryObject) (options : CursorParseOptions)
    (idExpr : String) (value : SortValue) :
    (ListClosed A raw grid ↔
      (∀ token ∈ sortTokens (raw.text "sort"), Ordinary grid.sortColumns token.1) ∧
      ∀ entry ∈ filterEntries raw, Ordinary grid.filterColumns entry.1) ∧
    (CursorClosed A read cursorRaw options idExpr ↔
      Ordinary options.grid.sortColumns (cursorSort cursorRaw options).1) ∧
    (SqlboxClosed value ↔
      ∀ token ∈ sqlboxTokens value, (sqlboxToken token).1 ∉ Engine.inheritedKeys) :=
  ⟨listClosed_iff, cursorClosed_iff, sqlboxClosed_iff⟩

/-- A grid of names, which can be sorted by name and filtered by state. -/
def nameGrid : GridDefinition where
  searchColumns := ["name"]
  sortColumns := [("name", "name")]
  filterColumns := [("state", "state")]
  defaultOrderBy := "name ASC"
  maxLimit := none
  defaultLimit := none

/-- The query `?sort=constructor`. -/
def sortByConstructor : QueryObject := [("sort", ⟨some "constructor", .number none⟩)]

theorem sortByConstructor_tokens :
    sortTokens (sortByConstructor.text "sort") = [("constructor", .ASC)] := by decide

example : PreparedText.render Property.text
    (orderByClause ⟨none, [("constructor", .ASC)], [], 50, 0⟩ nameGrid : Sql Unit) =
      "ORDER BY function Object() { [native code] } ASC" := by decide

/-- The name `constructor` is accepted, although the grid has no such column. -/
theorem constructor_is_sortable : ¬ ListClosed Unit sortByConstructor nameGrid := by
  intro h
  have hmem : ("constructor", Direction.ASC) ∈ sortTokens (sortByConstructor.text "sort") := by
    rw [sortByConstructor_tokens]
    exact mem_cons_self
  have hown := (h.sorts _ hmem).mp (by decide)
  revert hown
  decide

end Jkannel.Platform.Whitelist
