import SheetSchema.Schema.Range

/-!
# Schemas as JSON

A schema is read from an object with a sheet name and a list of fields, and written with its two
ranges beside them. Ranges that are read are ignored: they follow from the fields.
-/

namespace SheetSchema.Schema

/-- The value mentions a sheet name. Lists and strings can be asked, and cannot be read. -/
def mentionsSheetName : Json → Except Error Bool
  | .obj entries => .ok (Entries.has entries "sheetName")
  | .arr items => .ok (items.contains (.str "sheetName"))
  | .str s => .ok (Text.occursIn "sheetName".toList s.toList)
  | _ => .error .wrongKind

/-- A sheet name. -/
abbrev SheetName := { name : String // isBlankText name = false }

/-- A sheet name, which must not be blank. -/
def sheetNameOf : Json → Except Error SheetName
  | .str name =>
    if h : isBlankText name = false then .ok ⟨name, h⟩ else .error .sheetNameBlank
  | _ => .error .sheetNameBlank

/-- The schema of these values. -/
def ofValues (fields : List Field) (sheetName spreadsheetId rangeName : Json) :
    Except Error Schema := do
  let ⟨sheetName, sheetName_given⟩ ← sheetNameOf sheetName
  return { fields, sheetName, spreadsheetId, rangeName, sheetName_given }

/-- Read a schema. -/
def ofJson (data : Json) : Except Error Schema := do
  if !(← mentionsSheetName data) then throw .sheetNameMissing
  let fields ← (← (← data.memberD "fields" (.arr [])).elements).mapM Field.ofJson
  let sheetName ← data.entry "sheetName"
  let spreadsheetId ← data.memberD "spreadsheetId" .null
  let rangeName ← data.memberD "rangeName" .null
  ofValues fields sheetName spreadsheetId rangeName

/-- An object of these values, with the entries of the ranges after the fields. -/
def entriesOf (sheetName : Json) (fields : List Json) (ranges : List (String × Json))
    (spreadsheetId rangeName : Json) : Entries Json :=
  [("sheetName", sheetName), ("fields", .arr fields)] ++ ranges ++
    Field.optionalEntry "spreadsheetId" spreadsheetId ++ Field.optionalEntry "rangeName" rangeName

/-- The entries of the ranges; a schema without fields has none. -/
def rangeEntries (s : Schema) : Except Error (List (String × Json)) :=
  if s.fields.isEmpty then .ok []
  else do
    return [("headerRange", .str (← s.headerRange false)),
      ("dataRange", .str (← s.dataRange false))]

/-- The schema as entries. -/
def toEntries (s : Schema) : Except Error (Entries Json) := do
  return entriesOf (.str s.sheetName) (s.fields.map Field.toJson) (← s.rangeEntries)
    s.spreadsheetId s.rangeName

/-- The schema as an object. -/
def toJson (s : Schema) : Except Error Json := s.toEntries.map .obj

end SheetSchema.Schema
