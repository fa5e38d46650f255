import SheetSchema.A1.Qualified
import SheetSchema.Header.Translation
import SheetSchema.Name.Camel
import SheetSchema.Schema.Wire
import SheetSchema.Service.Sheets

/-!
# Inferring a schema

A schema is inferred from the header row of a live sheet, in stages: the sheet is looked up, the
start cell is read, the header row is fetched and compared with the headers that are expected, the
headers are translated, and fields are built from them. A run that fails says in which stage
(`Stage`).

Two steps have a way out. Where the spreadsheet cannot be described, the sheet name is used as
given. Where the header row cannot be read under the quoted sheet name, it is read once more under
the plain one; where that fails as well, there is no header row.

The fields are strings in consecutive columns. Their names come from the translated headers and are
made unique by the least numbers that do (`Header.uniqueName`).
-/

namespace SheetSchema.Header

variable {σ : Type}

/-- The stages of an inference. -/
inductive Stage where
  | resolveSheet
  | parseHeaderCell
  | fetchHeaderRow
  | validateMatch
  | translate
  | buildFields
deriving DecidableEq, Repr

/-- The name of a stage. -/
def Stage.name : Stage → String
  | resolveSheet => "resolve_sheet"
  | parseHeaderCell => "parse_header_cell"
  | fetchHeaderRow => "fetch_header_row"
  | validateMatch => "validate_match"
  | translate => "translate"
  | buildFields => "build_fields"

/-- Record the stage in which a session fails. -/
def within {α : Type} (stage : Stage) (x : Session σ α) : Session σ α :=
  x.orElse fun failure => do
    Session.record "failedStage" (.str stage.name)
    Session.fail failure

/-- What an inference starts from, as it is given. What does not count as given is missing. -/
structure Request where
  spreadsheet : Json
  sheetName : Json
  /-- The expected headers: anything that has parts, except a text. -/
  headers : Json
  startCell : Json
  /-- The language of the headers; none skips the translation. -/
  lang : Json := .null
deriving DecidableEq

/-- What an inference finds. -/
structure Inference where
  schema : Schema
  headerRange : String
  dataRange : String
  debug : Ledger
deriving DecidableEq

/-- The inferred schema as an object, with the quoted ranges. -/
def Inference.toJson (i : Inference) : Except Error Json := do
  let entries ← i.schema.toEntries
  return .obj ((entries.put "headerRange" (.str i.headerRange)).put "dataRange" (.str i.dataRange))

/-! ## Stages -/

/-- The name of the log of inferences. -/
def inferenceLogger : String := "sheetcraft.schema.inference"

/-- The value can list headers. -/
def listsHeaders : Json → Bool
  | .str _ => false
  | given => given.truthy

/-- The expected headers, once all arguments are given. -/
def expectedHeaders (r : Request) : Except Error (List String) :=
  if !r.spreadsheet.truthy || !r.sheetName.truthy then .error .spreadsheetOrSheetMissing
  else if !listsHeaders r.headers then .error .headersMissing
  else if !r.startCell.truthy then .error .startCellMissing
  else do return (← r.headers.elements).map Json.text

/-- The description of the spreadsheet, or nothing if it cannot be had. -/
def describe (r : Request) : Session σ (Option Metadata) :=
  ((Sheets.metadata r.spreadsheet) >>= fun m => pure (some m))
    |>.onTransient fun error => do
      Session.report Level.warning inferenceLogger
        (s!"Could not read metadata of {r.spreadsheet.text}, using sheet name " ++
          s!"{r.sheetName.display} as given: {error.message}")
      Session.record "metadataWarning" (.str error.message)
      pure none

/-- The name of the sheet, which must exist where that can be told. -/
def resolveSheet (r : Request) : Session σ Json := do
  match ← describe r with
  | none => pure r.sheetName
  | some m =>
    Session.record "metadataFetched" (.str "success")
    match m.findSheet? r.sheetName with
    | none => do
      let available ← Session.ofExcept m.titleLine
      Session.record "sheetNotFound" (.bool true)
      Session.record "availableSheets" (.str available)
      Session.throw (.sheetNotListed r.sheetName.text available r.spreadsheet.text)
    | some sheet =>
      Session.record "sheetId" sheet.id
      Session.record "exactSheetName" sheet.title
      pure sheet.title

/-- The cells where headers start and the last column of `count` headers. -/
def headerCells (startCell sheetName : Json) (count : Nat) :
    Except Error (A1.CellReference × String) := do
  let cell ← A1.CellReference.parse (← startCell.asString) sheetName.text
  return (cell, ← Column.lettersOf (cell.columnIndex + count - 1))

/-- The range of a header row. -/
def rowRange (sheet : String) (cell : A1.CellReference) (lastColumn : String) (quote : Bool) :
    Except Error String :=
  A1.rangeOf sheet cell.column cell.row lastColumn (some cell.row) quote

/-- The rows of the header range, read under its quoted and then under its plain sheet name. -/
def fetchHeaderRow (spreadsheet : Json) (cell : A1.CellReference) (lastColumn : String) :
    Session σ Json := do
  let primary ← Session.ofExcept (rowRange cell.sheet cell lastColumn true)
  let fallback ← Session.ofExcept (rowRange cell.sheet cell lastColumn false)
  Session.record "headerRangeInput" (.str primary)
  (Sheets.values spreadsheet (.str primary)).onTransient fun error => do
    Session.record "headerRangeError" (.str error.message)
    Session.record "headerRangeFallback" (.str fallback)
    let answer ← ((Sheets.values spreadsheet (.str fallback)) >>= fun rows => pure (Except.ok rows))
      |>.onTransient fun error => pure (.error error)
    match answer with
    | .ok rows =>
      Session.forget "headerRangeError"
      pure rows
    | .error error =>
      Session.report Level.warning inferenceLogger
        s!"Header row fetch failed for {primary} and {fallback}: {error.message}"
      Session.record "headerRangeErrorFallback" (.str error.message)
      pure (.arr [])

/-- The cells of a row, which has to be a list or a text. -/
def cellsOf : Json → Except Error (List Json)
  | .arr cells => .ok cells
  | .str s => .ok (Json.characters s)
  | _ => .error .wrongKind

/-- The cells of the first row. -/
def firstRow (rows : Json) : Except Error (List Json) := do
  match ← rows.orEmptyList.sequence with
  | [] => return []
  | row :: _ => cellsOf row

/-- The trimmed text of a cell. -/
def cellText (cell : Json) : String := if cell.present then trimmed cell.text else ""

/-- The first row must start with the expected headers. -/
def checkHeaders (headers : List String) (rows : Json) : Except Error Unit := do
  let cells ← firstRow rows
  if (cells.take headers.length).map cellText = headers.map trimmed then return ()
  else throw .headersDiffer

/-! ## Fields -/

/-- The first of `base ++ n`, `base ++ (n + 1)` and so on that is not taken. -/
def firstFree (taken : List String) (base : String) : (fuel n : Nat) → String
  | 0, n => s!"{base}{n}"
  | fuel + 1, n =>
    let name := s!"{base}{n}"
    if name ∈ taken then firstFree taken base fuel (n + 1) else name

/-- The name, or the name with the least number from two on that makes it unique. -/
def uniqueName (taken : List String) (base : String) : String :=
  if base ∈ taken then firstFree taken base taken.length 2 else base

/-- The name of a field that no header names. -/
def fallbackName (position : Nat) : String := s!"field{position + 1}"

/-- The name that a header asks for, before it is made unique. It comes from the translation, or
from the header where the translation does not count as given, and has to be a text. -/
def baseName (position : Nat) (text header : Json) : Except Error String := do
  let fallback := fallbackName position
  return Name.camelCase (← (Json.firstGiven [text, header] (.str fallback)).asString) fallback

/-- Where a field comes from: the header, after the language if there is one. -/
def sourceOf (lang header : Json) : Json :=
  if lang.truthy then .str s!"source({lang.text}): {header.text}" else header

/-- The letters of the column at a position. -/
def columnAt (start : Json) (position : Nat) : Except Error String :=
  match Number.ofJson? start with
  | some index => Column.lettersOfNumber (index.plus position)
  | none => .error .wrongKind

/-- The fields of the headers from `position` on. -/
def fieldsFrom (start row lang : Json) :
    (position : Nat) → (taken : List String) → List (Json × Json) → Except Error (List Field)
  | _, _, [] => .ok []
  | position, taken, (text, header) :: rest => do
    let name := uniqueName taken (← baseName position text header)
    let column ← columnAt start position
    let f ← Field.ofValues (.str name) (.str FieldType.string.name) (.str column) row false .null
      (sourceOf lang header)
    return f :: (← fieldsFrom start row lang (position + 1) (name :: taken) rest)

/-- String fields for consecutive columns from `start` on. -/
def fieldsOf (translated headers : List Json) (start row lang : Json) : Except Error (List Field) :=
  fieldsFrom start row lang 0 [] (translated.zip headers)

/-- String fields for the texts and the headers that two values list. -/
def fieldsOfJson (translated headers start row lang : Json) : Except Error (List Field) := do
  fieldsOf (← translated.elements) (← headers.elements) start row lang

/-! ## The whole -/

/-- The sheet name as a text, and the ranges of the headers and of the data. -/
def inferredRanges (sheetName : Json) (cell : A1.CellReference) (lastColumn : String) :
    Except Error (String × String × String) := do
  let sheetName ← sheetName.asString
  let headerRange ← rowRange sheetName cell lastColumn true
  let dataRange ← A1.rangeOf sheetName cell.column (cell.row + 1) lastColumn none true
  return (sheetName, headerRange, dataRange)

/-- The inference from a header row that matches; `translation` takes the headers and their
language. -/
def inferFromRow (translation : List String → Json → Session σ (List Json)) (r : Request)
    (headers : List String) (sheetName : Json) (cell : A1.CellReference) (lastColumn : String) :
    Session σ Inference := do
  let (sheetName, headerRange, dataRange) ←
    Session.ofExcept (inferredRanges sheetName cell lastColumn)
  Session.record "headerRange" (.str headerRange)
  Session.record "dataRange" (.str dataRange)
  Session.record "headerRowIndex" (.int ((cell.row : Int) - 1))
  Session.record "startColIndex" (.int cell.columnIndex)
  let originals := headers.map Json.str
  let translated ← within .translate
    (if r.lang.truthy then translation headers r.lang else pure originals)
  within .buildFields do
    let fields ← Session.ofExcept
      (fieldsOf translated originals (.int cell.columnIndex) (.int cell.row) r.lang)
    let schema ← Session.ofExcept (Schema.ofValues fields (.str sheetName) r.spreadsheet .null)
    return ⟨schema, headerRange, dataRange, ← Session.ledger⟩

/-- Infer a schema, without a ledger of its own. -/
def inferStages (translation : List String → Json → Session σ (List Json)) (r : Request) :
    Session σ Inference := do
  let (headers, sheetName) ← within .resolveSheet do
    let headers ← Session.ofExcept (expectedHeaders r)
    return (headers, ← resolveSheet r)
  let (cell, lastColumn) ← within .parseHeaderCell
    (Session.ofExcept (headerCells r.startCell sheetName headers.length))
  let rows ← within .fetchHeaderRow (fetchHeaderRow r.spreadsheet cell lastColumn)
  within .validateMatch (Session.ofExcept (checkHeaders headers rows))
  inferFromRow translation r headers sheetName cell lastColumn

/-- Infer a schema from the header row of a sheet, whatever translates the headers. -/
def inferWith (translation : List String → Json → Session σ (List Json)) (r : Request) :
    Session σ Inference :=
  Session.recording (inferStages translation r)

/-- Infer a schema from the header row of a sheet. -/
def infer (t : Translator) (r : Request) : Session σ Inference := inferWith (translate t) r

end SheetSchema.Header
