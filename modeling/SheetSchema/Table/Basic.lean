import SheetSchema.A1.Qualified
import SheetSchema.A1.Range
import SheetSchema.Schema.Range
import SheetSchema.Service.Sheets
import SheetSchema.Table.Frame
import SheetSchema.Table.Row

/-!
# Tables

A `Table` is a schema with fields together with the spreadsheet that holds its sheet. Its rows are
read into frames and appended from frames, and its header cells can be given a format. The rows
whose first cell is blank are no entities and are skipped. A row with too many cells is not written.
-/

namespace SheetSchema

/-- The rows of a schema in a spreadsheet. -/
structure Table where
  spreadsheet : Json
  schema : Schema
  fields_ne_nil : schema.fields ≠ []

namespace Table

variable {σ : Type}

/-- The table of a schema, which must have fields. -/
def ofSchema (spreadsheet : Json) (schema : Schema) : Except Error Table :=
  if h : schema.fields = [] then .error .tableWithoutFields else .ok ⟨spreadsheet, schema, h⟩

/-- The attributes in canonical order. -/
def columns (t : Table) : List String := t.schema.ordered.map (·.name)

/-- The record in a row. -/
def decodeRow (t : Table) (row : Json) : Except Error (Entries Json) := do
  let cells ← row.sequence
  t.schema.checkFormats
  return t.schema.decodeRow cells

/-- The row of a record. -/
def encodeRecord (t : Table) (record : Entries Json) : Except Error (List Json) := do
  if Schema.maxWidth < t.schema.width then throw .rowTooLong
  t.schema.checkFormats
  return t.schema.encodeRecord record

/-- The row holds an entity: it has a first cell, which is not blank. -/
def isEntity (row : Json) : Except Error Bool :=
  if row.truthy then do
    return match ← row.sequence with
      | cell :: _ => !isBlankText cell.text
      | [] => false
  else .ok false

/-- The records in the rows that hold entities. -/
def decodeRows (t : Table) : List Json → Except Error (List (Entries Json))
  | [] => .ok []
  | row :: rows => do
    if ← isEntity row then
      let record ← t.decodeRow row
      return record :: (← t.decodeRows rows)
    else t.decodeRows rows

/-- The values of a record in the order of the columns. -/
def valuesOf (t : Table) (record : Entries Json) : List Json :=
  t.columns.map fun name => (record.get? name).getD .null

/-- The frame of all entities. -/
def readFrame (t : Table) : Session σ Frame := do
  let range ← Session.ofExcept (t.schema.dataRange true)
  let rows ← Sheets.values t.spreadsheet (.str range)
  Session.ofExcept do
    let records ← t.decodeRows (← rows.elements)
    Frame.ofRows (t.columns.map .str) (records.map t.valuesOf) false

/-- The rows of a frame. Columns that it lacks are written as missing. -/
def toRows (t : Table) (frame : Frame) : Except Error (List (List Json)) :=
  frame.records.mapM t.encodeRecord

/-- Append the rows of a frame, and count them. -/
def appendFrame (t : Table) (frame : Frame) : Session σ Nat := do
  let rows ← Session.ofExcept (t.toRows frame)
  if !rows.isEmpty then
    let range ← Session.ofExcept (t.schema.dataRange true)
    let _ ← Sheets.append t.spreadsheet (.str range) (.arr (rows.map .arr))
  return rows.length

/-- Bold text. -/
def bold : Json := .obj [("textFormat", .obj [("bold", .bool true)])]

/-- Give the header cells a format, bold text if none is given. -/
def formatHeader (t : Table) (format : Json) : Session σ Change := do
  let (title, cells) ← Session.ofExcept (t.schema.headerRange true >>= A1.split)
  let metadata ← Sheets.metadata t.spreadsheet
  match metadata.findSheet? (.str title) with
  | none => Session.throw (.sheetNotFound title)
  | some sheet =>
    let range ← Session.ofExcept (A1.parseRange cells sheet.id)
    let change := Change.repeatCellFormat range (if format.truthy then format else bold)
    let _ ← Sheets.batchUpdate t.spreadsheet [change]
    return change

end Table

end SheetSchema
