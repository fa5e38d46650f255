import SheetSchema.A1.Qualified
import SheetSchema.A1.Range
import SheetSchema.Code.Declaration
import SheetSchema.Schema.Range
import SheetSchema.Service.Sheets

/-!
# Synchronising a named range

A named range is brought in step with a range by replacement: one batch deletes the name that is
there and adds it anew. The spreadsheet is described once before the batch, and nothing is changed
unless the range text is sound and its sheet exists. A run that fails carries its facts.

After the batch the constant of the range is set anew in a file of generated constants, if one is
given and exists. A run is given a tree of files to work on, and leaves it in its world also where
it fails.
-/

namespace SheetSchema.Sync

variable {σ : Type}

/-- The outcome of a synchronisation. -/
structure Outcome where
  rangeName : Json
  range : GridRange
  /-- The id of the name that was replaced, if there was one. -/
  replaced? : Option String
  changes : List Change
  /-- What was done, line by line. -/
  messages : List String
deriving DecidableEq

/-- The name is new. -/
def Outcome.created (o : Outcome) : Bool := o.replaced?.isNone

/-- The outcome as an object. -/
def Outcome.toJson (o : Outcome) : Json :=
  .obj [("rangeName", o.rangeName), ("range", o.range.toJson),
    ("replacedId", Json.ofText? o.replaced?), ("operations", .arr (o.changes.map Change.toJson))]

/-- What is synchronised, as it is given. What does not count as given is missing. -/
structure Request where
  spreadsheet : Json
  rangeName : Json
  rangeText : Json
deriving DecidableEq

/-- The batch that points `name` at `range`. -/
def batch (replaced? : Option String) (name : Json) (range : GridRange) : List Change :=
  (replaced?.map fun id => Change.deleteNamedRange (.str id)).toList ++ [.addNamedRange name range]

/-- The id of the name that is there, if it has one. -/
def replacedId? (m : Metadata) (name : Json) : Option String :=
  ((m.findNamedRange? name).map (·.id)).filter (· != "")

/-- The cleaned range text, once all arguments are given. -/
def normalized (r : Request) : Except Error String :=
  if !r.spreadsheet.truthy || !r.rangeName.truthy || !r.rangeText.truthy then
    .error .rangeArgumentMissing
  else r.rangeText.asString.map A1.normalize

/-- The sheet with the title. -/
def findSheet (m : Metadata) (title : String) : Session σ Sheet :=
  match m.findSheet? (.str title) with
  | some sheet => pure sheet
  | none => do
    let available ← Session.ofExcept m.titleLine
    Session.record "availableSheets" (.str available)
    Session.throw (.sheetNotFound title)

/-- What a request asks for, before anything is known about the spreadsheet: the range text, the
sheet name in it and the cells. -/
structure Target where
  rangeText : String
  sheetName : String
  cells : String
deriving DecidableEq

/-- Take the range text of a request apart. -/
def target (r : Request) : Except Error Target := do
  let rangeText ← normalized r
  let (sheetName, cells) ← A1.split rangeText
  return ⟨rangeText, sheetName, cells⟩

/-- What a batch is to do: the range text, the sheet name, the region, the id replaced and the
changes. -/
structure Plan where
  rangeText : String
  sheetName : String
  range : GridRange
  replaced? : Option String
  changes : List Change
deriving DecidableEq

/-- What has to be done in a spreadsheet of this description. -/
def plan (r : Request) (t : Target) (m : Metadata) : Session σ Plan := do
  let sheet ← findSheet m t.sheetName
  Session.record "sheetId" sheet.id
  let range ← Session.ofExcept (A1.parseRange t.cells sheet.id)
  let replaced? := replacedId? m r.rangeName
  let changes := batch replaced? r.rangeName range
  Session.record "requestCount" (.int changes.length)
  return ⟨t.rangeText, t.sheetName, range, replaced?, changes⟩

/-- Point the name at the range. -/
def apply (r : Request) : Session σ Plan := do
  let t ← Session.ofExcept (target r)
  Session.record "sheetName" (.str t.sheetName)
  Session.record "cellRange" (.str t.cells)
  let m ← Sheets.metadata r.spreadsheet
  let p ← plan r t m
  let _ ← Sheets.batchUpdate r.spreadsheet p.changes
  return p

/-- The name of the log of synchronisations. -/
def logger : String := "sheetcraft.sheets.named_ranges"

/-- Set the constant of a range in a file, and say what that meant. -/
def rewriteConstant (path : Path) (name : Json) (range : String) : FileWork String := do
  let name ← liftM (Code.textOf name)
  let content ← FileWork.read path
  FileWork.write path (Code.upsertConstant content name range)
  return if Code.hasConstant content name then s!"Updated existing constant in {path.text}"
    else s!"Appended constant to {path.text}"

/-- Set the constant of a range in a file, if the file exists. -/
def updateConstant (path : Path) (name : Json) (range : String) : Session σ String := do
  if (← Session.files).has path then Session.onFiles (rewriteConstant path name range)
  else
    Session.report Level.warning logger
      s!"Constants file not found at {path.text}, skipping code update"
    return s!"Constants file not found at {path.text}. Skipping code update."

/-- Set the constant where a file is given, and say so. -/
def updateConstants (constants? : Option Path) (name : Json) (range : String) :
    Session σ (List String) :=
  match constants? with
  | some path => do return [← updateConstant path name range]
  | none => pure []

/-- The lines about a name that is there. -/
def replacedLines (replaced? : Option String) : List String :=
  (replaced?.map fun id => s!"Updating existing named range (ID: {id})...").toList

/-- Bring a named range in step with a range text. -/
def bringInStep (r : Request) (constants? : Option Path) : Session σ Outcome := do
  let applied ← Session.recording (apply r)
  let lines ← updateConstants constants? r.rangeName applied.rangeText
  let verb := if applied.replaced?.isSome then "Replaced" else "Created"
  Session.report Level.info logger
    s!"{verb} named range {r.rangeName.text} on sheet {applied.sheetName}"
  let messages := [s!"Setting up Named Range: {r.rangeName.text} -> {r.rangeText.text}"] ++
    replacedLines applied.replaced? ++ [s!"Named range {r.rangeName.text} is set."] ++ lines
  return ⟨r.rangeName, applied.range, applied.replaced?, applied.changes, messages⟩

/-- Bring a named range in step with a range text, where the files are those of a tree. -/
def synchronize (r : Request) (constants? : Option Path) (tree : FileTree) :
    Session σ (Outcome × FileTree) :=
  Session.withFiles tree (bringInStep r constants?)

/-- Bring a named range in step with the data range of a schema. The name is the one that is given,
or else that of the schema. -/
def synchronizeSchema (spreadsheet : Json) (s : Schema) (rangeName : Json)
    (constants? : Option Path) (tree : FileTree) : Session σ (Outcome × FileTree) :=
  Session.withFiles tree do
    let name := Json.firstGiven [rangeName] s.rangeName
    if !name.truthy then Session.throw .rangeNameMissing
    else
      let range ← Session.ofExcept (s.dataRange true)
      bringInStep ⟨spreadsheet, name, .str range⟩ constants?

end SheetSchema.Sync
