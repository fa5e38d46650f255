import SheetSchema.Schema.Basic
import SheetSchema.Table.Numeral

/-!
# Rows and records

A row starts at the first column of its schema. `Schema.decodeRow` reads it into a record with one
entry per attribute, and `Schema.encodeRecord` writes a record into a row as wide as the schema,
whose remaining cells are empty. The conversions are those of generated code: sentinels stand for
true and false, a cell without sentinels is true when it is not empty, and numbers are read from
their texts. A missing value is an empty text.
-/

namespace SheetSchema

/-- A cell or an attribute without a value. -/
def emptyCell : Json := .str ""

/-- The value, or an empty text when it is missing or no number. -/
def Json.orEmptyCell : Json → Json
  | .null => emptyCell
  | .float x => if x.isNaN then emptyCell else .float x
  | value => value

namespace Field

/-- The attribute in a cell. -/
def decode (f : Field) (cell : Json) : Json :=
  if f.type = .boolean then
    match f.sentinels? with
    | some (yes, _) => .bool (cell == .str yes)
    | none => .bool cell.truthy
  else if f.type = .number then cell.toNumber
  else cell

/-- The cell of an attribute. -/
def encode (f : Field) (value : Json) : Json :=
  match f.sentinels? with
  | some (yes, no) => .str (if value.truthy then yes else no)
  | none => value

end Field

namespace Schema

/-- The record in a row. Cells that the row lacks are empty. -/
def decodeRow (s : Schema) (row : List Json) : Entries Json :=
  Entries.putAll [] (s.positioned.map fun (offset, f) =>
    (f.name, f.decode (row.getD offset.toNat emptyCell)))

/-- The most cells that a row is written with. -/
def maxWidth : Nat := Nat.pow 2 63 - 1

/-- The number of cells of a row. -/
def width (s : Schema) : Nat :=
  match s.positioned.getLast? with
  | some (offset, _) => offset.toNat + 1
  | none => 0

/-- The cell of a field in the row of a record. -/
def cellOf (record : Entries Json) (f : Field) : Json :=
  f.encode (((Entries.get? record f.name).getD .null).orEmptyCell)

/-- The row of a record. -/
def encodeRecord (s : Schema) (record : Entries Json) : List Json :=
  s.positioned.foldl (fun row (offset, f) => row.set offset.toNat (cellOf record f))
    (List.replicate s.width emptyCell)

end Schema

end SheetSchema
