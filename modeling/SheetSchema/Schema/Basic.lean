import SheetSchema.Schema.Field

/-!
# Schemas

A `Schema` is the list of fields of one sheet. The order of declaration carries no meaning: the
canonical order is that of the columns (`Schema.ordered`, fields of one column keep their order),
and its first field is the natural key. All fields have to share one header row
(`Schema.validate`); rows are compared by their number. The name of the sheet is not blank.
-/

namespace SheetSchema

/-- The fields of one sheet. -/
structure Schema where
  fields : List Field
  sheetName : String
  /-- The spreadsheet that holds the sheet, if known. -/
  spreadsheetId : Json := .null
  /-- The name of the data range, if it has one. -/
  rangeName : Json := .null
  sheetName_given : isBlankText sheetName = false
deriving DecidableEq

namespace Schema

/-- Insert an item before the first one that is not to its left. -/
def insertByColumn {α : Type} (column : α → Int) (f : α) : List α → List α
  | [] => [f]
  | g :: rest =>
    if column f ≤ column g then f :: g :: rest else g :: insertByColumn column f rest

/-- Items by ascending column; those of one column keep their order. -/
def sortByColumn {α : Type} (column : α → Int) : List α → List α
  | [] => []
  | f :: rest => insertByColumn column f (sortByColumn column rest)

/-- The least and the greatest of some columns. -/
def spanOf? : List Int → Option (Int × Int)
  | [] => none
  | i :: rest => some (rest.foldl min i, rest.foldl max i)

/-- The fields in canonical order. -/
def ordered (s : Schema) : List Field := sortByColumn Field.columnIndex s.fields

/-- The fields in canonical order with their distance from the first column. -/
def positioned (s : Schema) : List (Int × Field) :=
  match s.ordered with
  | [] => []
  | first :: _ => s.ordered.map fun f => (f.columnIndex - first.columnIndex, f)

/-- The name of the key of a schema without fields. -/
def defaultKey : String := "id"

/-- The name of the first field in canonical order. -/
def naturalKey (s : Schema) : String :=
  match s.ordered with
  | f :: _ => f.name
  | [] => defaultKey

/-- The row of the headers. -/
def headerRow (s : Schema) : HeaderRow :=
  match s.fields with
  | f :: _ => f.row
  | [] => .first

/-- The first field of this name. -/
def getField? (s : Schema) (name : String) : Option Field := s.fields.find? (·.name == name)

/-- All fields have the row of the first. -/
def sharesRow (s : Schema) : Bool := s.fields.all (·.row.value == s.headerRow.value)

/-- All fields must share one row. -/
def validate (s : Schema) : Except Error Unit :=
  if s.sharesRow then .ok () else .error .rowsDiffer

/-- All storage formats of boolean fields must be texts. -/
def checkFormats (s : Schema) : Except Error Unit := s.fields.forM Field.checkFormat

/-- The columns of the leftmost and the rightmost field. -/
def columnSpan? (s : Schema) : Option (Int × Int) := spanOf? (s.fields.map Field.columnIndex)

end Schema

end SheetSchema
