import SheetSchema.Code.Default
import SheetSchema.Schema.Document

/-!
# Drafts of schemas

A `Draft` is a schema under edit. Its values are assigned without a check: a column may hold
anything, a row may be a text, and a type may be one that does not exist. What a draft can tell is
asked as of a schema, and each question is refused where it meets a value that it cannot use: a
column that is no letters, a row that is no number, a sheet name that cannot be quoted.
`Draft.toDocument` writes a draft as a document; reading that document back is what checks a draft
as a whole.
-/

namespace SheetSchema

/-- The type of a field under edit. -/
inductive DraftType where
  | checked (type : FieldType)
  /-- A type assigned without a check. It has no written form. -/
  | assigned (given : Json)
deriving DecidableEq

namespace DraftType

/-- The written form. -/
def toJson : DraftType → Except Error Json
  | checked type => .ok (.str type.name)
  | assigned _ => .error .missingMember

/-- The attribute is true or false. -/
def isBoolean : DraftType → Bool
  | checked type => type = .boolean
  | assigned given => given = .str FieldType.boolean.name

end DraftType

/-- A field under edit. -/
structure FieldDraft where
  name : Json
  type : DraftType
  column : Json
  row : Json
  required : Bool
  format : Json
  description : Json
deriving DecidableEq

namespace FieldDraft

/-- The draft of a field. -/
def ofField (f : Field) : FieldDraft :=
  ⟨.str f.name, .checked f.type, .str f.column, f.row.toJson, f.required, f.format, f.description⟩

/-- The index of the column, which must be letters. -/
def columnIndex (f : FieldDraft) : Except Error Int := Column.indexOfJson f.column

/-- The field as an object; its type must have a written form. -/
def toJson (f : FieldDraft) : Except Error Json := do
  return .obj (Field.entriesOf f.name (← f.type.toJson) f.column f.row f.required f.format
    f.description)

/-- The default value, if there is one; the name must be a text. -/
def default? (rules : List DefaultRule) (f : FieldDraft) : Except Error (Option (String × Json)) :=
  match f.name with
  | .str name =>
    .ok ((DefaultRule.default? rules name f.column.text f.type.isBoolean).map fun value =>
      (name, value))
  | _ => .error .wrongKind

end FieldDraft

/-- A schema under edit. -/
structure Draft where
  fields : List FieldDraft
  sheetName : Json
  spreadsheetId : Json
  rangeName : Json
deriving DecidableEq

namespace Draft

/-- The draft of a schema. -/
def ofSchema (s : Schema) : Draft :=
  ⟨s.fields.map FieldDraft.ofField, .str s.sheetName, s.spreadsheetId, s.rangeName⟩

/-! ## Order -/

/-- The fields with the indices of their columns. -/
def indexed (d : Draft) : Except Error (List (Int × FieldDraft)) :=
  d.fields.mapM fun f => do return (← f.columnIndex, f)

/-- The fields in canonical order. -/
def ordered (d : Draft) : Except Error (List FieldDraft) := do
  return (Schema.sortByColumn (·.1) (← d.indexed)).map (·.2)

/-- The name of the first field in canonical order. -/
def naturalKey (d : Draft) : Except Error Json := do
  match ← d.ordered with
  | f :: _ => return f.name
  | [] => return .str Schema.defaultKey

/-- The default values by name, in canonical order. -/
def defaults (d : Draft) (custom : List DefaultRule) : Except Error (Entries Json) := do
  let rules := DefaultRule.builtIn ++ custom
  return Entries.putAll [] ((← (← d.ordered).mapM (FieldDraft.default? rules)).filterMap id)

/-! ## Rows and ranges -/

/-- The row of the headers. -/
def headerRow (d : Draft) : Json :=
  match d.fields with
  | f :: _ => f.row
  | [] => .int 1

/-- All fields must share one row. -/
def validate (d : Draft) : Except Error Unit :=
  if d.fields.all (·.row.same d.headerRow) then .ok () else .error .rowsDiffer

/-- The letters of the first and the last column. -/
def columnBounds (d : Draft) : Except Error (String × String) :=
  if d.fields.isEmpty then .error .noFields
  else do
    match Schema.spanOf? ((← d.indexed).map (·.1)) with
    | some (first, last) => return (← Column.lettersOf first, ← Column.lettersOf last)
    | none => throw .noFields

/-- The range of the header cells. -/
def headerRange (d : Draft) (quote : Bool) : Except Error String := do
  d.validate
  let (first, last) ← d.columnBounds
  A1.rangeOfJson d.sheetName (.str first) d.headerRow (.str last) d.headerRow quote

/-- The row below the headers. -/
def firstDataRow (d : Draft) : Except Error Number :=
  match Number.ofJson? d.headerRow with
  | some row => .ok (row.plus 1)
  | none => .error .wrongKind

/-- The range of the cells below the headers. -/
def dataRange (d : Draft) (quote : Bool) : Except Error String := do
  d.validate
  let (first, last) ← d.columnBounds
  let row ← d.firstDataRow
  let sheet ← A1.sheetPartOf d.sheetName quote
  return A1.range sheet (first ++ (← writeNumber row)) last

/-! ## Writing -/

/-- The first field of this name. -/
def getField? (d : Draft) (name : Json) : Option FieldDraft := d.fields.find? (·.name.same name)

/-- The entries of the ranges; a draft without fields has none. -/
def rangeEntries (d : Draft) : Except Error (List (String × Json)) :=
  if d.fields.isEmpty then .ok []
  else do
    return [("headerRange", .str (← d.headerRange false)),
      ("dataRange", .str (← d.dataRange false))]

/-- The draft as an object. -/
def toJson (d : Draft) : Except Error Json := do
  let fields ← d.fields.mapM FieldDraft.toJson
  return .obj (Schema.entriesOf d.sheetName fields (← d.rangeEntries) d.spreadsheetId d.rangeName)

/-- The draft as a document. -/
def toDocument (d : Draft) : Except Error Json := d.toJson.map Document.ofObject

end Draft

end SheetSchema
