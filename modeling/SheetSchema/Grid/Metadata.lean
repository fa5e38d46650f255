import SheetSchema.Grid.Range

/-!
# The sheets and named ranges of a spreadsheet

What the service tells about a spreadsheet: its sheets in workbook order, and its named ranges, each
with the id that the service gave it. A name may have lost its region. Titles, names and sheet ids
are passed on as they come; the id of a named range is its text. `Metadata.findSheet?` and
`Metadata.findNamedRange?` take the first of several equal ones.
-/

namespace SheetSchema

/-- A sheet of a spreadsheet. -/
structure Sheet where
  id : Json
  title : Json
deriving DecidableEq

/-- A name that the spreadsheet keeps for a region. -/
structure NamedRange where
  id : String
  name : Json
  range? : Option GridRange
deriving DecidableEq

/-- What a spreadsheet consists of. -/
structure Metadata where
  spreadsheet : Json
  sheets : List Sheet
  namedRanges : List NamedRange
deriving DecidableEq

/-- Read the properties of a sheet. -/
def Sheet.ofJson (entry : Json) : Except Error Sheet := do
  let properties := ((← entry.member "properties").getD .null).orEmptyObject
  return ⟨← properties.memberD "sheetId" (.int 0), ← properties.memberD "title" (.str "")⟩

/-- Read a named range. -/
def NamedRange.ofJson (entry : Json) : Except Error NamedRange := do
  let region ← entry.memberD "range" .null
  let id ← entry.memberD "namedRangeId" (.str "")
  let name ← entry.memberD "name" (.str "")
  let range? ← if region.truthy then some <$> GridRange.ofJson region else pure none
  return ⟨id.text, name, range?⟩

namespace Metadata

/-- Read the description of a spreadsheet. -/
def ofJson (spreadsheet data : Json) : Except Error Metadata := do
  let sheets ← (← (← data.memberD "sheets" .null).orEmptyList.elements).mapM Sheet.ofJson
  let namedRanges ←
    (← (← data.memberD "namedRanges" .null).orEmptyList.elements).mapM NamedRange.ofJson
  return ⟨spreadsheet, sheets, namedRanges⟩

/-- The titles in workbook order. -/
def titles (m : Metadata) : List Json := m.sheets.map (·.title)

/-- The titles in one line, or `none` when there are none. -/
def titleLine (m : Metadata) : Except Error String := do
  let texts ← m.titles.mapM fun
    | .str title => .ok title
    | _ => .error .wrongKind
  let line := Json.commaSeparated texts
  return if line = "" then "none" else line

/-- The first sheet of this title. -/
def findSheet? (m : Metadata) (title : Json) : Option Sheet :=
  m.sheets.find? (·.title.same title)

/-- The first named range of this name. -/
def findNamedRange? (m : Metadata) (name : Json) : Option NamedRange :=
  m.namedRanges.find? (·.name.same name)

end Metadata

end SheetSchema
