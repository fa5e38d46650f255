import SheetSchema.Code.Operations

/-!
# The catalog of operations

The operations that a repository can offer, in a fixed order (`Operation.catalog`). An operation may
need others, which its code calls; `Operation.resolve` adds those to a selection, each once and in
front of it. An empty selection, and one that mentions `all`, stands for the whole catalog.

Operations are exported under their names, except `delete`, which is a reserved word and exported as
`deleteById`.
-/

namespace SheetSchema.Code

/-- What an operation works on. -/
inductive OperationCategory where
  | data
  | format
  | structural
  | analysis
  | custom
deriving DecidableEq, Repr

namespace OperationCategory

/-- The name of the category. -/
def name : OperationCategory → String
  | data => "data"
  | format => "format"
  | structural => "structure"
  | analysis => "analysis"
  | custom => "custom"

/-- All categories. -/
def all : List OperationCategory := [data, format, structural, analysis, custom]

/-- The category of this name. -/
def ofJson (given : Json) : Except Error OperationCategory :=
  match all.find? fun c => Json.str c.name == given with
  | some c => .ok c
  | none => .error (.unknownCategory given)

end OperationCategory

/-- A parameter of an operation. -/
structure OperationParameter where
  name : String
  type : Template
  description : String
  required : Bool := true
  default? : Option String := none
deriving DecidableEq, Repr

/-- An operation of the catalog. -/
structure Operation where
  id : String
  title : String
  category : OperationCategory
  description : String
  parameters : List OperationParameter
  returnType : Template
  template : Template
  /-- The operations that its code calls. -/
  requires : List String
deriving DecidableEq, Repr

namespace Operation

/-- A type with the entity type left open. -/
def typeText (type : Template) : String :=
  String.join (type.map fun
    | .text s => s
    | _ => "\x7b\x7bfeatureName\x7d\x7d")

/-- The key of an entity. -/
def idParameter : OperationParameter := ⟨"id", ["string"], "Entity key", true, none⟩

/-- A range of cells. -/
def rangeParameter : OperationParameter := ⟨"range", ["string"], "Range in A1 notation", true, none⟩

/-- The operations in order. -/
def catalog : List Operation := [
  { id := "getAll", title := "Get All", category := .data, description := "Read every entity"
    parameters := [], returnType := [.feature, "[]"], template := .getAll, requires := [] },
  { id := "getById", title := "Get By ID", category := .data
    description := "Read one entity by key", parameters := [idParameter]
    returnType := [.feature, " | null"], template := .getById, requires := ["getAll"] },
  { id := "create", title := "Create", category := .data, description := "Append a new entity"
    parameters := [⟨"data", ["Partial<", .feature, ">"], "Entity values", true, none⟩]
    returnType := [.feature], template := .create, requires := [] },
  { id := "update", title := "Update", category := .data
    description := "Overwrite the row of an entity"
    parameters := [idParameter,
      ⟨"updates", ["Partial<", .feature, ">"], "Changed values", true, none⟩]
    returnType := ["void"], template := .update, requires := ["getAll"] },
  { id := "delete", title := "Delete", category := .data
    description := "Clear the row of an entity", parameters := [idParameter]
    returnType := ["void"], template := .deleteById, requires := ["getAll"] },
  { id := "getRange", title := "Get Range", category := .data
    description := "Read the values of a range", parameters := [rangeParameter]
    returnType := ["any[][]"], template := .getRange, requires := [] },
  { id := "setRange", title := "Set Range", category := .data
    description := "Write values to a range"
    parameters := [rangeParameter, ⟨"values", ["any[][]"], "Values, row by row", true, none⟩]
    returnType := ["void"], template := .setRange, requires := [] },
  { id := "clearRange", title := "Clear Range", category := .data
    description := "Clear the values of a range", parameters := [rangeParameter]
    returnType := ["void"], template := .clearRange, requires := [] },
  { id := "formatCells", title := "Format Cells", category := .format
    description := "Apply a cell format to a range"
    parameters := [rangeParameter, ⟨"format", ["any"], "CellFormat object", true, none⟩]
    returnType := ["void"], template := .formatCells, requires := [] },
  { id := "search", title := "Search", category := .data
    description := "Filter entities with a predicate"
    parameters := [⟨"predicate", ["(item: ", .feature, ") => boolean"], "Filter predicate", true,
      none⟩]
    returnType := [.feature, "[]"], template := .search, requires := ["getAll"] },
  { id := "count", title := "Count", category := .analysis, description := "Count entities"
    parameters := [], returnType := ["number"], template := .count, requires := ["getAll"] },
  { id := "batchCreate", title := "Batch Create", category := .data
    description := "Append several entities in one call"
    parameters := [⟨"items", ["Partial<", .feature, ">[]"], "Entity values", true, none⟩]
    returnType := [.feature, "[]"], template := .batchCreate, requires := [] },
  { id := "batchUpdate", title := "Batch Update", category := .data
    description := "Overwrite several entity rows in one call"
    parameters := [⟨"updates", ["Array<\x7b id: string; data: Partial<", .feature, "> \x7d>"],
      "Keys and changed values", true, none⟩]
    returnType := ["void"], template := .batchUpdate, requires := ["getAll"] }]

/-- The operation with this id. -/
def find? (id : String) : Option Operation := catalog.find? (·.id == id)

/-- The ids of the catalog. -/
def allIds : List String := catalog.map (·.id)

/-- The operations of a category. -/
def ofCategory (c : OperationCategory) : List Operation := catalog.filter (·.category == c)

/-- The name under which the operation is exported. -/
def exportName (op : Operation) : String := if op.id = "delete" then "deleteById" else op.id

/-! ## Generated code -/

/-- The code of the operation with this id. -/
def code (ctx : Context) (id : String) : Except Error String :=
  match find? id with
  | some op => op.template.render ctx
  | none => .error (.unknownOperation id)

/-- The names under which the operations with these ids are exported; unknown ids have none. -/
def exportNames (ids : List String) : List String := (ids.filterMap find?).map exportName

/-- The exported names, one to a line. -/
def exportsList (ids : List String) : String := String.intercalate ",\n      " (exportNames ids)

/-- The operation in short. -/
def summary (op : Operation) : Json :=
  .obj [("id", .str op.id), ("name", .str op.title), ("category", .str op.category.name),
    ("description", .str op.description),
    ("parameters", .arr (op.parameters.map fun p => .str p.name)),
    ("returnType", .str (typeText op.returnType))]

/-! ## Selections -/

/-- The mention that selects every operation. -/
def everything : String := "all"

/-- The ids that the operation with this id needs. -/
def requiredBy (id : String) : List String := ((find? id).map (·.requires)).getD []

/-- The needed ids that `selected` lacks, each once, in the order of first need. -/
def missingFrom (selected : List String) : (missing ids : List String) → List String
  | missing, [] => missing
  | missing, id :: ids =>
    missingFrom selected
      ((requiredBy id).foldl (fun m r => if r ∈ selected ∨ r ∈ m then m else m ++ [r]) missing) ids

/-- The needed ids that a list lacks. -/
def missing (selected : List String) : List String := missingFrom selected [] selected

/-- The ids with those they need in front. -/
def complete (selected : List String) : List String := missing selected ++ selected

/-- The ids that a list selects. -/
def resolve (selected : List String) : List String :=
  if selected.isEmpty || everything ∈ selected then allIds else complete selected

/-! ## Selections as given -/

/-- The ids among some values. -/
def idsAmong (items : List Json) : List String :=
  items.filterMap fun
    | .str id => some id
    | _ => none

/-- The value mentions everything: a text anywhere in it, and a list among its items. -/
def mentionsEverything : Json → Except Error Bool
  | .str s => .ok (Text.occursIn everything.toList s.toList)
  | given => do return (← given.elements).contains (.str everything)

/-- Values that can be looked up. -/
def lookupKeys (given : Json) : Except Error (List Json) := do
  let items ← given.elements
  if items.all Json.isKey then return items else throw .wrongKind

/-- What a value selects: all ids, or its items after the ids that they need. Items that are no ids
are kept, and refused where code is generated for them. -/
def resolveJson (given : Json) : Except Error (List Json) :=
  if !given.truthy then .ok (allIds.map .str)
  else do
    if ← mentionsEverything given then return allIds.map .str
    let items ← lookupKeys given
    return (missing (idsAmong items)).map .str ++ items

/-- The code of the operation that a value names. -/
def codeOf (ctx : Context) : Json → Except Error String
  | .str id => code ctx id
  | given => .error (if given.isKey then .unknownOperation given.text else .wrongKind)

/-- The exported names of the operations that a value lists, one to a line. -/
def exportsListOf (given : Json) : Except Error String := do
  return exportsList (idsAmong (← lookupKeys given))

end Operation

end SheetSchema.Code
