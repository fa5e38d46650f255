import SheetSchema.Schema.Draft

/-!
# Editing a schema

A draft is edited step by step. Fields are added after a check and removed by their position, and
values are assigned without one. A reload writes the draft as a document and reads it back, and so
checks everything. A step that fails changes nothing.
-/

namespace SheetSchema

/-- Attributes of a field. -/
inductive FieldAttribute where
  | name
  | type
  | column
  | row
  | required
  | format
  | description
  /-- An attribute that is computed from the others and cannot be assigned. -/
  | derived
  /-- An attribute that a field does not have. Nothing is asked about it. -/
  | unknown
deriving DecidableEq, Repr

/-- Attributes of a schema that can be assigned. -/
inductive SchemaAttribute where
  | sheetName
  | spreadsheetId
  | rangeName
  /-- An attribute that is computed from the others and cannot be assigned. -/
  | derived
  /-- An attribute that a schema does not have. Nothing is asked about it. -/
  | unknown
deriving DecidableEq, Repr

/-- A step of an editing session. -/
inductive Edit where
  | add (field : Json)
  | remove (position : Json)
  | setField (position : Json) (which : FieldAttribute) (value : Json)
  | setSchema (which : SchemaAttribute) (value : Json)
  | reload
deriving DecidableEq

namespace Edit

/-- A position in a list of this length; a negative one counts from the end. -/
def resolve? (length : Nat) (position : Int) : Option Nat :=
  let i := if position < 0 then position + length else position
  if 0 ≤ i ∧ i < length then some i.toNat else none

/-- A position, which must be a whole number. -/
def positionOf (given : Json) : Except Error Int :=
  match (Number.ofJson? given).bind Number.int? with
  | some n => .ok n
  | none => .error .wrongKind

/-- A position fits a machine word. -/
def isMachineWord (n : Int) : Bool := -Int.pow 2 63 ≤ n && n < Int.pow 2 63

/-- Assign an attribute of a field. -/
def assign (f : FieldDraft) (value : Json) : FieldAttribute → Except Error FieldDraft
  | .name => .ok { f with name := value }
  | .type => .ok { f with type := .assigned value }
  | .column => .ok { f with column := value }
  | .row => .ok { f with row := value }
  | .required => .ok { f with required := value.truthy }
  | .format => .ok { f with format := value }
  | .description => .ok { f with description := value }
  | .derived => .error .missingMember
  | .unknown => .ok f

/-- Assign an attribute of the schema. -/
def assignSchema (d : Draft) (value : Json) : SchemaAttribute → Except Error Draft
  | .sheetName => .ok { d with sheetName := value }
  | .spreadsheetId => .ok { d with spreadsheetId := value }
  | .rangeName => .ok { d with rangeName := value }
  | .derived => .error .missingMember
  | .unknown => .ok d

/-- Remove the field at a position. -/
def removeAt (d : Draft) (position : Int) : Except Error Draft :=
  if isMachineWord position then
    match resolve? d.fields.length position with
    | some i => .ok { d with fields := d.fields.eraseIdx i }
    | none => .error .outOfRange
  else .error .positionTooLarge

/-- Assign an attribute of the field at a position. -/
def assignAt (d : Draft) (position : Int) (which : FieldAttribute) (value : Json) :
    Except Error Draft := do
  let some i := resolve? d.fields.length position | throw .outOfRange
  let some f := d.fields[i]? | throw .outOfRange
  return { d with fields := d.fields.set i (← assign f value which) }

/-- Take a step. -/
def run (d : Draft) : Edit → Except Error Draft
  | add field => do
    return { d with fields := d.fields ++ [FieldDraft.ofField (← Field.ofJson field)] }
  | remove position => do removeAt d (← positionOf position)
  | setField position which value => do assignAt d (← positionOf position) which value
  | setSchema which value => assignSchema d value which
  | reload => do
    return Draft.ofSchema (← Document.parse (Json.render (← d.toDocument) ⟨none, false⟩))

end Edit

end SheetSchema
