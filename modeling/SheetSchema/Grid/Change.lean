import SheetSchema.Grid.Range

/-!
# Changes to a spreadsheet

A spreadsheet is changed by a batch, a list of changes that the service applies in order or not at
all. `Change.toRequest` writes a change in the terms of the service, `Change.toJson` and
`Change.ofJson` in the terms of this library.
-/

namespace SheetSchema

/-- A change to a spreadsheet. -/
inductive Change where
  /-- Keep a name for a region. -/
  | addNamedRange (name : Json) (range : GridRange)
  /-- Forget the named range with an id. -/
  | deleteNamedRange (id : Json)
  /-- Give every cell of a region a format. -/
  | repeatCellFormat (range : GridRange) (format : Json)
deriving DecidableEq

namespace Change

/-- The change as the service takes it. -/
def toRequest : Change → Json
  | addNamedRange name range =>
    .obj [("addNamedRange", .obj [("namedRange", .obj [("name", name), ("range", range.toJson)])])]
  | deleteNamedRange id => .obj [("deleteNamedRange", .obj [("namedRangeId", id)])]
  | repeatCellFormat range format =>
    .obj [("repeatCell", .obj [("range", range.toJson),
      ("cell", .obj [("userEnteredFormat", format)]), ("fields", .str "userEnteredFormat")])]

/-- The change as a tagged object. -/
def toJson : Change → Json
  | addNamedRange name range =>
    .obj [("type", .str "AddNamedRange"), ("name", name), ("range", range.toJson)]
  | deleteNamedRange id => .obj [("type", .str "DeleteNamedRange"), ("named_range_id", id)]
  | repeatCellFormat range format =>
    .obj [("type", .str "RepeatCellFormat"), ("range", range.toJson), ("format", format)]

/-- Read a tagged object. -/
def ofJson (data : Json) : Except Error Change := do
  let tag ← data.memberD "type" .null
  if tag = .str "AddNamedRange" then
    let name ← data.entry "name"
    return addNamedRange name (← GridRange.ofJson (← data.entry "range"))
  else if tag = .str "DeleteNamedRange" then
    return deleteNamedRange (← data.entry "named_range_id")
  else if tag = .str "RepeatCellFormat" then
    let range ← GridRange.ofJson (← data.entry "range")
    return repeatCellFormat range (← data.entry "format")
  else throw (.unknownChange tag)

end Change

/-- The requests of a batch, in order. -/
def requests (changes : List Change) : Json := .arr (changes.map Change.toRequest)

end SheetSchema
