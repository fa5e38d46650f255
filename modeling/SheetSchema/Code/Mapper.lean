import SheetSchema.Code.Expression
import SheetSchema.Schema.Basic

/-!
# Types, mappers and guards of generated code

A schema gives its entity an interface, a function from rows to entities and one back, and guards
for the required attributes. Rows start at the first column of the schema. A row has one slot per
column from the first to the last (`Schema.slots`), and a slot that no field takes holds an empty
string. The two functions need the storage formats of boolean fields to be texts, and the one from
rows to entities needs the offsets of the cells to be short enough to be written.
-/

namespace SheetSchema.Schema

/-- Lines with line ends between them. -/
def unlines (lines : List String) : String := String.intercalate "\n" lines

/-! ## The interface -/

/-- The lines of an attribute. -/
def memberLines (f : Field) : List String :=
  let mark := if f.required then "" else "?"
  (if f.description.truthy then [s!"  /** {f.description.text} */"] else []) ++
    [s!"  {f.name}{mark}: {f.codeType};"]

/-- The interface of the entity `feature`. -/
def typeDefinition (s : Schema) (feature : String) : String :=
  unlines ([s!"export interface {feature} \x7b"] ++ s.fields.flatMap memberLines ++ ["\x7d"])

/-! ## Rows and entities -/

/-- The slots from position `next` on, where a field past it leaves a gap. -/
def slotsFrom : (next : Int) → List (Int × Field) → List (Option Field)
  | _, [] => []
  | next, (offset, f) :: rest =>
    List.replicate (offset - next).toNat none ++ some f :: slotsFrom (offset + 1) rest

/-- The slots of a row. -/
def slots (s : Schema) : List (Option Field) := slotsFrom 0 s.positioned

/-- The value of a slot in the array literal for the entity `entity`. -/
def slotExpression (entity : String) : Option Field → String
  | some f => f.encodeExpression s!"{entity}.{f.name}"
  | none => "''"

/-- The line that gives an entity an attribute from the cell at a written position. -/
def attributeLine (position : String) (f : Field) : String :=
  let cell := s!"row[{position}]"
  s!"    {f.name}: {f.decodeExpression cell},"

/-- The line of a field at an offset. -/
def attributeAt (offset : Int) (f : Field) : Except Error String := do
  let position ← writeInt offset
  f.checkFormat
  return attributeLine position f

/-- The function from rows to entities, with these lines for the attributes. -/
def rowReader (feature : String) (lines : List String) : String :=
  s!"  const rowTo{feature} = (row: string[]): {feature} => (\x7b\n" ++ unlines lines ++
    "\n  \x7d);"

/-- The function from entities to rows, with these entries of the array literal. The type of an
entity is its name after a capital. -/
def rowWriter (entity : String) (entries : List String) : String :=
  let feature := String.ofList (Text.capitalize entity.toList)
  s!"  const {entity}ToRow = ({entity}: {feature}): (string | undefined)[] => [\n" ++
    unlines (entries.map fun entry => s!"    {entry},") ++ "\n  ];"

/-- The function from rows to entities. -/
def rowToObject (s : Schema) (feature : String) : Except Error String := do
  return rowReader feature (← s.positioned.mapM fun (offset, f) => attributeAt offset f)

/-- The function from entities to rows. -/
def objectToRow (s : Schema) (entity : String) : Except Error String := do
  s.checkFormats
  return rowWriter entity (s.slots.map (slotExpression entity))

/-! ## Guards -/

/-- A guard for every required attribute. -/
def validation (s : Schema) : String :=
  unlines ((s.fields.filter (·.required)).map fun f =>
    s!"    if (!data.{f.name}) throw new Error('{f.name} is required');")

end SheetSchema.Schema
