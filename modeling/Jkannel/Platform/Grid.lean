import Jkannel.Text
import Mathlib.Data.List.Sort
import Mathlib.Data.Prod.Lex
import Mathlib.Order.WithBot
import Mathlib.Data.Rat.Defs

/-!
# The grid runner

Every list endpoint answers through one runner, by offset or by cursor.  This file has both, over a
table of rows `R` with sort values `V` and ids `I`.

* `parseListQuery` and `buildGridWhere` read the search and the filters, which both modes share.
* `runOffsetGrid` sorts by what the caller asks for and skips.
* `parseCursorQuery`, `keyset` and `buildCursorPage` are the keyset pages of `runCursorGrid`: the
  cursor is the sort value of the last row shown, as the driver hands it to JavaScript and JSON
  carries it, and the row's id.

An SQL expression is what it computes from a row.  A column knows how its values come out of the
driver (`js`) and how a bind parameter is read as one of them (`param`).  The cursor's base64 and
JSON text is left out; that JSON has no infinite number is not.
-/

namespace Jkannel.Platform.Grid

/-! ## Directions -/

inductive Direction
  | ASC
  | DESC
  deriving DecidableEq

namespace Direction

variable {K : Type} [LinearOrder K]

/-- The comparison of a keyset predicate. -/
def lt : Direction → K → K → Prop
  | ASC, a, b => a < b
  | DESC, a, b => b < a

/-- The order of an `ORDER BY`. -/
def le : Direction → K → K → Prop
  | ASC, a, b => a ≤ b
  | DESC, a, b => b ≤ a

instance (d : Direction) (a b : K) : Decidable (d.lt a b) := by
  cases d <;> exact inferInstanceAs (Decidable (_ < _))

instance (d : Direction) (a b : K) : Decidable (d.le a b) := by
  cases d <;> exact inferInstanceAs (Decidable (_ ≤ _))

variable {a b : K}

section

variable (d : Direction)
include d

theorem not_lt_iff : ¬ d.lt a b ↔ d.le b a := by
  cases d <;> exact not_lt

theorem le_refl (a : K) : d.le a a := by
  cases d <;> exact Std.le_refl a

theorem le_trans {c : K} (hab : d.le a b) (hbc : d.le b c) : d.le a c := by
  cases d
  · exact Std.le_trans hab hbc
  · exact Std.le_trans hbc hab

theorem lt_of_lt_of_le {c : K} (hab : d.lt a b) (hbc : d.le b c) : d.lt a c := by
  cases d
  · exact Std.lt_of_lt_of_le hab hbc
  · exact Std.lt_of_le_of_lt hbc hab

theorem le_of_lt (h : d.lt a b) : d.le a b := by
  cases d <;> exact Std.le_of_lt h

theorem lt_of_le_of_ne (h : d.le a b) (hne : a ≠ b) : d.lt a b := by
  cases d
  · exact Std.lt_of_le_of_ne h hne
  · exact Std.lt_of_le_of_ne h hne.symm

theorem le_total (a b : K) : d.le a b ∨ d.le b a := by
  cases d
  · exact Std.le_total
  · exact Std.le_total

end

end Direction

/-! ## Values on their way through a cursor -/

/-- A column's value as the PostgreSQL driver hands it to JavaScript. -/
inductive JsValue
  | null
  | string (text : String)
  /-- `none` is a NaN or an infinity. -/
  | number (value : Option ℚ)
  | boolean (value : Bool)
  /-- A `Date`, which holds whole milliseconds since the epoch. -/
  | date (ms : ℤ)
  /-- Anything else, by what `String(value)` makes of it. -/
  | other (text : String)

/-- The sort value in a cursor. -/
inductive CursorValue
  | null
  | string (text : String)
  | number (value : Option ℚ)
  | boolean (value : Bool)
  deriving DecidableEq

/-- A decimal number with leading zeros. -/
def padded (width n : ℕ) : String :=
  let digits := Nat.toDigits 10 n
  String.ofList (List.replicate (width - digits.length) '0' ++ digits)

/-- The year, month and day of a day counted from the epoch. -/
def civilDate (day : ℤ) : ℤ × ℕ × ℕ :=
  let z := day + 719468
  let era := z.fdiv 146097
  let dayOfEra := (z.fmod 146097).toNat
  let yearOfEra := (dayOfEra - dayOfEra / 1460 + dayOfEra / 36524 - dayOfEra / 146096) / 365
  let dayOfYear := dayOfEra - (365 * yearOfEra + yearOfEra / 4 - yearOfEra / 100)
  let shifted := (5 * dayOfYear + 2) / 153
  let month := if shifted < 10 then shifted + 3 else shifted - 9
  let year := era * 400 + yearOfEra
  (if month ≤ 2 then year + 1 else year, month, dayOfYear - (153 * shifted + 2) / 5 + 1)

/-- `Date.prototype.toISOString`. -/
def toISOString (ms : ℤ) : String :=
  let (year, month, day) := civilDate (ms.fdiv 86400000)
  let time := (ms.fmod 86400000).toNat
  let years :=
    if year < 0 then "-" ++ padded 6 year.natAbs
    else if 9999 < year then "+" ++ padded 6 year.natAbs
    else padded 4 year.natAbs
  years ++ "-" ++ padded 2 month ++ "-" ++ padded 2 day ++ "T" ++ padded 2 (time / 3600000) ++ ":" ++
    padded 2 (time / 60000 % 60) ++ ":" ++ padded 2 (time / 1000 % 60) ++ "." ++
    padded 3 (time % 1000) ++ "Z"

def normaliseCursorValue : JsValue → CursorValue
  | .date ms => .string (toISOString ms)
  | .null => .null
  | .string text => .string text
  | .number value => .number value
  | .boolean value => .boolean value
  | .other text => .string text

/-- What a cursor says. -/
structure CursorPayload where
  v : CursorValue
  i : String

/-- A member of a parsed JSON object. -/
inductive Json
  | null
  | string (text : String)
  | number (value : ℚ)
  | boolean (value : Bool)
  /-- An array or an object. -/
  | compound

/-- A cursor as a client sends it, by what base64 and `JSON.parse` make of it. -/
inductive Cursor
  /-- Not JSON, or JSON that is not an object. -/
  | unreadable
  | object (v i : Option Json)

/-- `JSON.stringify` of a sort value: a number that is not finite becomes `null`. -/
def stringify : CursorValue → Json
  | .null => .null
  | .string text => .string text
  | .number none => .null
  | .number (some value) => .number value
  | .boolean value => .boolean value

/-- The cursor handed out. -/
def encodeCursor (payload : CursorPayload) : Cursor :=
  .object (some (stringify payload.v)) (some (.string payload.i))

/-- What a request ends in when it does not answer. -/
inductive Failure
  /-- A `BadRequestException`. -/
  | badRequest (message : String)
  /-- The database refuses the statement. -/
  | database

def malformed : Failure := .badRequest "Malformed cursor"

/-- The cursor read back. -/
def decodeCursor : Cursor → Except Failure CursorPayload
  | .unreadable => throw malformed
  | .object v i =>
    match i with
    | some (.string i) =>
      if i = "" then throw malformed
      else match v with
        | some .null => return ⟨.null, i⟩
        | some (.string text) => return ⟨.string text, i⟩
        | some (.number value) => return ⟨.number (some value), i⟩
        | some (.boolean value) => return ⟨.boolean value, i⟩
        | some .compound => throw malformed
        | none => throw malformed
    | _ => throw malformed

/-! ## Grids -/

/-- A whitelisted sort expression: what it computes, NULL being `none`, how the driver hands its
values to JavaScript, and how the database reads a bind parameter that is compared with it. -/
structure SortColumn (R V : Type) where
  expr : R → Option V
  js : V → JsValue
  /-- `none` when the parameter is not one of the column's values and the statement is refused. -/
  param : CursorValue → Option V

/-- What a list may be asked. -/
structure GridDefinition (R V : Type) where
  /-- The expressions searched, as `::text`. -/
  searchColumns : List (R → Option String)
  sortColumns : List (String × SortColumn R V)
  /-- The expressions filtered by, as `::text`. -/
  filterColumns : List (String × (R → Option String))
  /-- Applied when no sort is requested. -/
  defaultOrderBy : R → R → Bool
  maxLimit : Option ℕ
  defaultLimit : Option ℕ

/-- The expression for the row id, a tiebreaker and never NULL. -/
structure IdExpr (R I : Type) where
  expr : R → I
  /-- `String(row.__cursor_id)`. -/
  text : I → String
  /-- `none` when the parameter is not an id and the statement is refused. -/
  param : String → Option I

/-- How a list is run. -/
structure GridRunnerOptions (R I : Type) where
  /-- Supplying it enables cursors on this grid. -/
  idExpr : Option (IdExpr R I)
  cursorDefaultSort : Option (String × Option Direction)

/-- A table with the fixed predicate of the source. -/
structure GridSource (R : Type) where
  table : List R
  fixed : R → Bool

/-- A numeric parameter of the query string, by what `Number` makes of it. -/
inductive QueryNumber
  | absent
  /-- `none` is no integer. -/
  | number (value : Option ℤ)

structure RawQuery where
  search : Option String := none
  sort : Option String := none
  /-- The parameters `filter.<field>`; `none` is a value that is no string. -/
  filters : List (String × Option String) := []
  limit : QueryNumber := .absent
  offset : QueryNumber := .absent
  cursor : Option Cursor := none
  paginate : Option String := none

/-- The text after trimming, when it is not blank. -/
def nonBlank (value : Option String) : Option String :=
  (value.map Text.trim).filter (· ≠ "")

/-- `Object.keys(columns).join(', ')`. -/
def allowed {α : Type} (columns : List (String × α)) : String :=
  ", ".intercalate (columns.map Prod.fst)

def unsupportedSort {α : Type} (field : String) (columns : List (String × α)) : Failure :=
  .badRequest ("Unsupported sort field \"" ++ field ++ "\" (allowed: " ++ allowed columns ++ ")")

def unsupportedFilter {α : Type} (field : String) (columns : List (String × α)) : Failure :=
  .badRequest ("Unsupported filter field \"" ++ field ++ "\" (allowed: " ++ allowed columns ++ ")")

def boundedNumber (value : QueryNumber) (fallback min max : ℕ) (name : String) :
    Except Failure ℕ :=
  let refused : Failure := .badRequest
    (name ++ " must be an integer between " ++ toString min ++ " and " ++ toString max)
  match value with
  | .absent => return fallback
  | .number none => throw refused
  | .number (some n) => if n < min ∨ max < n then throw refused else return n.toNat

/-- `boundedNumber` from 1 on, for the limit of a cursor page. -/
def boundedLimit (value : QueryNumber) (fallback max : ℕ) : Except Failure ℕ :=
  boundedNumber value fallback 1 max "limit"

/-- The field and the direction of a sort token: a minus sign asks for `DESC`. -/
def sortToken (token : String) : String × Direction :=
  match token.toList with
  | '-' :: field => (String.ofList field, .DESC)
  | _ => (token, .ASC)

/-- The query of an offset page. -/
structure ParsedListQuery where
  search : Option String
  sort : List (String × Direction)
  filters : List (String × String)
  limit : ℕ
  offset : ℕ

section Parsing

variable {R V I : Type}

def parseSort (grid : GridDefinition R V) (raw : Option String) :
    Except Failure (List (String × Direction)) :=
  match nonBlank raw with
  | none => return []
  | some text =>
    (((Text.split ',' text).map Text.trim).filter (· ≠ "")).mapM fun token =>
      let (field, direction) := sortToken token
      match grid.sortColumns.lookup field with
      | none => throw (unsupportedSort field grid.sortColumns)
      | some _ => return (field, direction)

def parseFilters (grid : GridDefinition R V) (raw : List (String × Option String)) :
    Except Failure (List (String × String)) := do
  let filters ← raw.mapM fun (field, value) =>
    match grid.filterColumns.lookup field with
    | none => throw (unsupportedFilter field grid.filterColumns)
    | some _ => return (nonBlank value).map fun value => (field, value)
  return filters.filterMap id

def parseListQuery (raw : RawQuery) (grid : GridDefinition R V) :
    Except Failure ParsedListQuery := do
  let sort ← parseSort grid raw.sort
  let filters ← parseFilters grid raw.filters
  let limit ← boundedNumber raw.limit (grid.defaultLimit.getD 50) 1 (grid.maxLimit.getD 500) "limit"
  let offset ← boundedNumber raw.offset 0 0 5000000 "offset"
  return { search := nonBlank raw.search, sort, filters, limit, offset }

/-- The search and the filters, which cursor pages share with offset pages. -/
def buildGridWhere (text : TextEngine) (query : ParsedListQuery) (grid : GridDefinition R V)
    (row : R) : Bool :=
  (match query.search with
    | none => true
    | some search => grid.searchColumns.isEmpty ||
        grid.searchColumns.any fun column => text.ilike ("%" ++ search ++ "%") (column row)) &&
  query.filters.all fun (field, value) =>
    match grid.filterColumns.lookup field with
    | none => true
    | some column => column row = some value

/-- The rows a list query selects. -/
def selectRows (text : TextEngine) (source : GridSource R) (grid : GridDefinition R V)
    (query : ParsedListQuery) : List R :=
  source.table.filter fun row => source.fixed row && buildGridWhere text query grid row

/-! ## Offset pages -/

structure GridResult (R : Type) where
  items : List R
  total : Option ℕ
  limit : ℕ
  offset : Option ℕ
  nextCursor : Option Cursor

section Sorting

variable [LinearOrder V] [LinearOrder I]

/-- The place of a value in the database's order, where a NULL comes behind every value. -/
def sortKey (column : SortColumn R V) (row : R) : WithTop V := column.expr row

/-- `ORDER BY` of an offset page.  Rows it does not tell apart keep the table's order, which is one
of those the database may choose. -/
def orderBy (grid : GridDefinition R V) : List (String × Direction) → R → R → Bool
  | [] => fun _ _ => true
  | (field, direction) :: rest => fun a b =>
    match grid.sortColumns.lookup field with
    | none => orderBy grid rest a b
    | some column =>
      if sortKey column a = sortKey column b then orderBy grid rest a b
      else direction.lt (sortKey column a) (sortKey column b)

/-- A page by its offset. -/
def runOffsetGrid (text : TextEngine) (source : GridSource R) (grid : GridDefinition R V)
    (raw : RawQuery) : Except Failure (GridResult R) := do
  let parsed ← parseListQuery raw grid
  let selected := selectRows text source grid parsed
  let order := if parsed.sort.isEmpty then grid.defaultOrderBy else orderBy grid parsed.sort
  let items := ((selected.insertionSort (order · ·)).drop parsed.offset).take parsed.limit
  return {
    items
    total := some (if items.isEmpty then 0 else selected.length)
    limit := parsed.limit
    offset := some parsed.offset
    nextCursor := none }

/-! ## Cursor pages -/

/-- The query of a cursor page. -/
structure ParsedCursorQuery (R V : Type) where
  field : String
  column : SortColumn R V
  direction : Direction
  limit : ℕ
  after : Option CursorPayload

/-- Keyset pagination orders by a single key: the first token of the sort, or the default. -/
def cursorSort (raw : Option String) (default : String × Direction) : String × Direction :=
  match nonBlank raw with
  | none => default
  | some _ => sortToken (Text.trim ((Text.split ',' (raw.getD "")).headD ""))

def decodeAfter : Option Cursor → Except Failure (Option CursorPayload)
  | none => return none
  | some cursor => (decodeCursor cursor).map some

def parseCursorQuery (raw : RawQuery) (grid : GridDefinition R V)
    (default : String × Direction) : Except Failure (ParsedCursorQuery R V) := do
  let (field, direction) := cursorSort raw.sort default
  match grid.sortColumns.lookup field with
  | none => throw (unsupportedSort field grid.sortColumns)
  | some column =>
    let limit ← boundedLimit raw.limit (grid.defaultLimit.getD 50) (grid.maxLimit.getD 500)
    let after ← decodeAfter raw.cursor
    return { field, column, direction, limit, after }

/-- The sort of a cursor page when the caller does not ask for one. -/
def defaultSort (grid : GridDefinition R V) (options : GridRunnerOptions R I) :
    Except Failure (String × Direction) :=
  match options.cursorDefaultSort with
  | some (field, direction) => return (field, direction.getD .DESC)
  | none =>
    match grid.sortColumns with
    | [] => throw (.badRequest "This grid defines no sortable field, so it cannot be cursored.")
    | (field, _) :: _ => return (field, .DESC)

/-- The query of a cursor page. -/
def pageQuery (raw : RawQuery) (grid : GridDefinition R V) (options : GridRunnerOptions R I) :
    Except Failure (ParsedCursorQuery R V) := do
  parseCursorQuery raw grid (← defaultSort grid options)

/-- The place of a row in the order of a cursor page. -/
def place (column : SortColumn R V) (id : IdExpr R I) (row : R) : WithTop V ×ₗ I :=
  toLex (sortKey column row, id.expr row)

/-- The predicate of a keyset page: strictly behind the boundary, and TRUE of no row when one of the
two sort values is NULL. -/
def keysetPredicate (column : SortColumn R V) (id : IdExpr R I) (direction : Direction)
    (value : Option V) (boundary : I) (row : R) : Bool :=
  match value with
  | none => false
  | some w =>
    match column.expr row with
    | none => false
    | some v => direction.lt w v || decide (v = w) && direction.lt boundary (id.expr row)

/-- A sort value as a bind parameter; the database may refuse it. -/
def bindValue (column : SortColumn R V) (value : CursorValue) : Except Failure (Option V) :=
  if value = .null then return none
  else match column.param value with
    | none => throw .database
    | some v => return some v

/-- An id as a bind parameter. -/
def bindId (id : IdExpr R I) (text : String) : Except Failure I :=
  match id.param text with
  | none => throw .database
  | some boundary => return boundary

/-- `buildCursorSql`: what the cursor adds to the statement's predicate. -/
def buildCursorSql (query : ParsedCursorQuery R V) (id : IdExpr R I) :
    Except Failure (R → Bool) :=
  match query.after with
  | none => return fun _ => true
  | some after => do
    let value ← bindValue query.column after.v
    let boundary ← bindId id after.i
    return keysetPredicate query.column id query.direction value boundary

/-- A row's `__cursor_sort`, as JavaScript has it. -/
def sortVal (column : SortColumn R V) (row : R) : CursorValue :=
  match column.expr row with
  | none => .null
  | some v => normaliseCursorValue (column.js v)

/-- The cursor made of a row. -/
def rowCursor (column : SortColumn R V) (id : IdExpr R I) (row : R) : Cursor :=
  encodeCursor ⟨sortVal column row, id.text (id.expr row)⟩

/-- Trims the rows, of which one too many was fetched, to the page. -/
def buildCursorPage (query : ParsedCursorQuery R V) (id : IdExpr R I) (rows : List R) :
    GridResult R :=
  let hasMore := query.limit < rows.length
  let items := if hasMore then rows.take query.limit else rows
  { items
    total := none
    limit := query.limit
    offset := none
    nextCursor :=
      if hasMore then items.getLast?.map (rowCursor query.column id) else none }

/-- A page by its cursor. -/
def runCursorGrid (text : TextEngine) (source : GridSource R) (grid : GridDefinition R V)
    (options : GridRunnerOptions R I) (id : IdExpr R I) (raw : RawQuery) :
    Except Failure (GridResult R) := do
  let parsed ← pageQuery raw grid options
  let list ← parseListQuery { raw with sort := none, limit := .absent } grid
  let behind ← buildCursorSql parsed id
  let rows := (selectRows text source grid list).filter behind
  let sorted := rows.insertionSort fun a b =>
    parsed.direction.le (place parsed.column id a) (place parsed.column id b)
  return buildCursorPage parsed id (sorted.take (parsed.limit + 1))

/-- True when the caller opted into cursor pagination. -/
def usesCursor (raw : RawQuery) : Bool := raw.cursor.isSome || raw.paginate = some "cursor"

/-- A page, by cursor where one is asked for. -/
def runGrid (text : TextEngine) (source : GridSource R) (grid : GridDefinition R V)
    (options : GridRunnerOptions R I) (raw : RawQuery) : Except Failure (GridResult R) :=
  if usesCursor raw then
    match options.idExpr with
    | none => throw (.badRequest
        "Cursor pagination is not available on this endpoint; use limit/offset instead.")
    | some id => runCursorGrid text source grid options id raw
  else runOffsetGrid text source grid raw

end Sorting

end Parsing

end Jkannel.Platform.Grid
