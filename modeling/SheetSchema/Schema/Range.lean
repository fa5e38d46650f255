import SheetSchema.A1.Qualified
import SheetSchema.Schema.Basic

/-!
# The ranges of a schema

The headers of a schema stand in one row between its first and its last column, and its data stand
below, as far as the sheet goes. Both ranges are always computed from the fields. With `quote` the
sheet name is quoted as the sheet service wants it.
-/

namespace SheetSchema.Schema

/-- The letters of the first and the last column. -/
def columnBounds (s : Schema) : Except Error (String × String) :=
  match s.columnSpan? with
  | none => .error .noFields
  | some (first, last) => .ok (Column.letters first.toNat, Column.letters last.toNat)

/-- The range of the header cells. -/
def headerRange (s : Schema) (quote : Bool) : Except Error String := do
  s.validate
  let (first, last) ← s.columnBounds
  let row ← s.headerRow.written
  return A1.range (A1.sheetPart s.sheetName quote) (first ++ row) (last ++ row)

/-- The range of the cells below the headers. -/
def dataRange (s : Schema) (quote : Bool) : Except Error String := do
  s.validate
  let (first, last) ← s.columnBounds
  A1.rangeOf s.sheetName first (s.headerRow.value + 1) last none quote

end SheetSchema.Schema
