import SheetSchema.Code.Expression
import SheetSchema.Json.Access
import SheetSchema.Name.Feature
import SheetSchema.Schema.Range

/-!
# What an operation is generated from

Operations are generated from a feature name, perhaps a schema, and perhaps the name of the constant
that holds the data range (`Code.Context`). Without a schema, or with one that has no fields, the
key is `id`, a row goes from `A` to `Z`, and data start in the second row.
-/

namespace SheetSchema.Code

/-- What an operation is generated from. -/
structure Context where
  feature : FeatureName
  schema? : Option Schema := none
  /-- The name of the range constant, as it is given. One that does not count as given is none. -/
  rangeName : Json := .null
  /-- Parameters of the caller. -/
  params : Entries Json := []
deriving DecidableEq, Inhabited

namespace Context

/-- The context of an operation, with parameters given as an object or as pairs. -/
def ofValues (feature : String) (schema? : Option Schema) (rangeName params : Json) :
    Except Error Context := do
  return ⟨FeatureName.ofString feature, schema?, rangeName, ← params.orEmptyObject.pairs⟩

/-- The schema, if it has fields. -/
def fieldedSchema? (ctx : Context) : Option Schema :=
  ctx.schema?.filter fun s => !s.fields.isEmpty

/-- The attribute that identifies an entity. -/
def keyField (ctx : Context) : String :=
  match ctx.schema? with
  | some s => s.naturalKey
  | none => Schema.defaultKey

/-- The expression for the data range: the constant, or a literal. -/
def rangeExpression (ctx : Context) : Except Error Json :=
  if ctx.rangeName.truthy then .ok ctx.rangeName
  else
    match ctx.fieldedSchema? with
    | some s => (s.dataRange true).map fun range => .str (literal range)
    | none => .error (.rangeSourceMissing ctx.feature.pascal)

/-- The expression for the sheet name. -/
def sheetNameExpression (ctx : Context) : Except Error String := do
  return (← ctx.rangeExpression).text ++ ".split('!')[0]"

/-- The first and the last column of a row. -/
def rowColumns (ctx : Context) : Except Error (String × String) :=
  match ctx.fieldedSchema? with
  | some s => s.columnBounds
  | none => .ok ("A", "Z")

/-- The number of cells of a row. -/
def rowWidth (ctx : Context) : Int :=
  match ctx.fieldedSchema?.bind Schema.columnSpan? with
  | some (first, last) => last - first + 1
  | none => 10

/-- The number of the first row of data. -/
def firstDataRow (ctx : Context) : Int :=
  match ctx.fieldedSchema? with
  | some s => s.headerRow.value + 1
  | none => 2

/-- The entity has an attribute `id`. -/
def hasIdField (ctx : Context) : Bool := ctx.schema?.any fun s => (s.getField? "id").isSome

end Context

end SheetSchema.Code
