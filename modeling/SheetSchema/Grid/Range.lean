import SheetSchema.Json.Access

/-!
# Regions of a sheet

A region of a sheet is a span of rows and a span of columns. A `Span` starts at an index, includes
it, and stops before another one or goes on without end; its start is not negative and it is never
empty, and its type says so. `GridRange.ofBounds` checks the four bounds and names the first that is
wrong: a negative start before a reversed span of rows, and that before a reversed span of columns.
An index is any number, kept as it was given; what is no number is neither negative nor reversed.

As JSON a region has the keys of the sheet service, which leaves out the stop of an endless span and
may leave out a start of zero (`GridRange.toJson`, `GridRange.ofJson`).
-/

namespace SheetSchema

/-- A span of indices: from `start` up to but without `stop?`, or without end. -/
structure Span where
  start : Number
  stop? : Option Number
  start_nonneg : start.lt (.whole 0) = false
  start_lt : ∀ stop ∈ stop?, stop.le start = false
deriving DecidableEq

/-- The index lies in the span. -/
def Span.Contains (span : Span) (i : Int) : Prop :=
  span.start.le (.whole i) = true ∧ ∀ stop ∈ span.stop?, Number.lt (.whole i) stop = true

/-- A region of the sheet with the id `sheet`. -/
structure GridRange where
  sheet : Json
  rows : Span
  columns : Span
deriving DecidableEq

namespace GridRange

/-- The region has no last row. -/
def isWholeColumn (r : GridRange) : Bool := r.rows.stop?.isNone

/-- The region has no last column. -/
def isWholeRow (r : GridRange) : Bool := r.columns.stop?.isNone

/-- An index that is not negative. -/
abbrev Start := { x : Number // x.lt (.whole 0) = false }

/-- A start must not be negative. -/
def startOf (x : Number) : Except Error Start :=
  if h : x.lt (.whole 0) = false then .ok ⟨x, h⟩ else .error .negativeStart

/-- A span must not be reversed; `reversed` is the refusal. -/
def spanOf (start : Start) (reversed : Error) (stop? : Option Number) : Except Error Span :=
  if h : ∀ stop ∈ stop?, stop.le start.val = false then .ok ⟨start, stop?, start.property, h⟩
  else .error reversed

/-- The region between these bounds. -/
def ofBounds (sheet : Json) (startRow : Number) (endRow? : Option Number) (startColumn : Number)
    (endColumn? : Option Number) : Except Error GridRange := do
  let startRow ← startOf startRow
  let startColumn ← startOf startColumn
  let rows ← spanOf startRow .rowsReversed endRow?
  let columns ← spanOf startColumn .columnsReversed endColumn?
  return ⟨sheet, rows, columns⟩

/-- The region between bounds that are whole numbers. -/
def ofIndices (sheet : Json) (startRow : Int) (endRow? : Option Int) (startColumn : Int)
    (endColumn? : Option Int) : Except Error GridRange :=
  ofBounds sheet (.whole startRow) (endRow?.map .whole) (.whole startColumn)
    (endColumn?.map .whole)

/-! ## Reading and writing -/

/-- An index is a number. -/
def indexOf (value : Json) : Except Error Number :=
  match Number.ofJson? value with
  | some x => .ok x
  | none => .error .wrongKind

/-- A stop is an index or `null`. -/
def stopOf : Json → Except Error (Option Number)
  | .null => .ok none
  | value => (indexOf value).map some

/-- Read a region. Absent starts and an absent sheet are zero. -/
def ofJson (data : Json) : Except Error GridRange := do
  let sheet ← data.memberD "sheetId" (.int 0)
  let startRow ← startOf (← indexOf (← data.memberD "startRowIndex" (.int 0)))
  let startColumn ← startOf (← indexOf (← data.memberD "startColumnIndex" (.int 0)))
  let rows ← spanOf startRow .rowsReversed (← stopOf (← data.memberD "endRowIndex" .null))
  let columns ←
    spanOf startColumn .columnsReversed (← stopOf (← data.memberD "endColumnIndex" .null))
  return ⟨sheet, rows, columns⟩

/-- The entry of a stop, if the span has one. -/
def stopEntry (key : String) (span : Span) : List (String × Json) :=
  match span.stop? with
  | some stop => [(key, stop.toJson)]
  | none => []

/-- The region in the terms of the sheet service. -/
def toJson (r : GridRange) : Json :=
  .obj ([("sheetId", r.sheet), ("startRowIndex", r.rows.start.toJson)] ++
    stopEntry "endRowIndex" r.rows ++ [("startColumnIndex", r.columns.start.toJson)] ++
    stopEntry "endColumnIndex" r.columns)

end GridRange

end SheetSchema
