import SheetSchema.Code.Context

/-!
# Templates of generated code

A `Template` is a text with holes. The holes say what they stand for: parts of the context such as
the entity type or the data range, and names with a role, such as the function that the template
declares, the functions it calls and the local names it binds. So what a generated operation
declares, calls and binds can be read off its template (`Template.declared`, `Template.called`,
`Template.bound`).
-/

namespace SheetSchema.Code

/-- A part of a template. -/
inductive Piece where
  | text (s : String)
  /-- The entity type. -/
  | feature
  /-- The function from rows to entities. -/
  | fromRow
  /-- The function from entities to rows. -/
  | toRow
  /-- The attribute that identifies an entity. -/
  | key
  /-- The parameter that holds the key looked for, with its type. -/
  | keyParameter (type : String)
  /-- The data range. -/
  | range
  /-- The name of the sheet. -/
  | sheetName
  /-- The range of the row `rowNumber`. -/
  | rowRange
  /-- The number of the first row of data. -/
  | firstDataRow
  /-- The number of cells of a row. -/
  | rowWidth
  /-- A new identifier, for entities that have one. -/
  | newId
  /-- The name of the function that the template declares. -/
  | declares (name : String)
  /-- The name of another generated function. -/
  | calls (name : String)
  /-- A local name, where it is bound. -/
  | binds (name : String)
deriving DecidableEq, Repr

instance : Coe String Piece := ⟨.text⟩

/-- A text with holes. -/
abbrev Template := List Piece

/-- The range of the row `rowNumber` between two columns. -/
def rowRangeExpression (first last : String) : String :=
  "`$\x7bsheetName\x7d!" ++ first ++ "$\x7browNumber\x7d:" ++ last ++ "$\x7browNumber\x7d`"

/-- The line that gives a new entity its identifier. -/
def newIdLine : String := "\n        id: generateUuid(),"

/-- The part in a context. -/
def Piece.render (ctx : Context) : Piece → Except Error String
  | text s => .ok s
  | feature => .ok ctx.feature.pascal
  | fromRow => .ok s!"rowTo{ctx.feature.pascal}"
  | toRow => .ok s!"{ctx.feature.camel}ToRow"
  | key => .ok ctx.keyField
  | keyParameter type => .ok s!"{ctx.keyField}: {type}"
  | range => ctx.rangeExpression.map Json.text
  | sheetName => ctx.sheetNameExpression
  | rowRange => ctx.rowColumns.map fun (first, last) => rowRangeExpression first last
  | firstDataRow => writeInt ctx.firstDataRow
  | rowWidth => writeInt ctx.rowWidth
  | newId => .ok (if ctx.hasIdField then newIdLine else "")
  | declares name => .ok name
  | calls name => .ok name
  | binds name => .ok name

namespace Template

/-- The lines, each after a line end. -/
def ofLines (lines : List Template) : Template := lines.flatMap fun line => Piece.text "\n" :: line

/-- The template in a context. -/
def render (t : Template) (ctx : Context) : Except Error String :=
  (t.mapM (Piece.render ctx)).map String.join

/-- The functions that the template declares. -/
def declared (t : Template) : List String :=
  t.filterMap fun | .declares name => some name | _ => none

/-- The generated functions that the template calls. -/
def called (t : Template) : List String :=
  t.filterMap fun | .calls name => some name | _ => none

/-- The local names that the template binds. -/
def bound (t : Template) : List String :=
  t.filterMap fun | .binds name => some name | _ => none

end Template

end SheetSchema.Code
