import SheetSchema.A1.Column
import SheetSchema.Json.Access
import SheetSchema.Text.Blank
import SheetSchema.Text.Case

/-!
# Fields

A `Field` binds a column of a sheet to a typed attribute of an entity. The name is an identifier,
the column is made of capital letters, and the row is positive; the type says so. `Field.ofJson`
reads a field from an object, where the type is one of four names and the column may be given in
small letters with blanks around it. Of several faults the first in the order name, type, column and
row is reported.

A boolean field may have a storage format such as `TRUE/FALSE`. The texts on both sides of the first
slash are its sentinels (`Field.sentinels?`).
-/

namespace SheetSchema

/-- The type of an attribute. -/
inductive FieldType where
  | string
  | number
  | boolean
  | date
deriving DecidableEq, Repr, Inhabited

namespace FieldType

/-- The written form. -/
def name : FieldType → String
  | string => "string"
  | number => "number"
  | boolean => "boolean"
  | date => "date"

/-- All types. -/
def all : List FieldType := [string, number, boolean, date]

/-- The type of this written form. -/
def ofJson? (given : Json) : Option FieldType := all.find? fun type => Json.str type.name == given

end FieldType

/-- The row of the headers: a positive number, or the truth value that counts as one. -/
inductive HeaderRow where
  | number (n : Nat) (pos : 0 < n)
  | flag
deriving DecidableEq

namespace HeaderRow

/-- The first row. -/
def first : HeaderRow := number 1 (by decide)

instance : Inhabited HeaderRow := ⟨first⟩

/-- The number of the row. -/
def value : HeaderRow → Nat
  | number n _ => n
  | flag => 1

/-- Read a row. -/
def ofJson? : Json → Option HeaderRow
  | .int n => if h : 0 < n.toNat then some (number n.toNat h) else none
  | .bool true => some flag
  | _ => none

/-- The row as it was given. -/
def toJson : HeaderRow → Json
  | number n _ => .int n
  | flag => .bool true

/-- The row inside a range, which must not be too long to be written. -/
def written (row : HeaderRow) : Except Error String := writeText row.toJson

theorem value_pos (row : HeaderRow) : 0 < row.value := by
  cases row with
  | number n pos => exact pos
  | flag => decide

@[simp] theorem ofJson?_toJson (row : HeaderRow) : ofJson? row.toJson = some row := by
  cases row with
  | number n pos => simp [toJson, ofJson?, pos]
  | flag => rfl

/-- A row is read from exactly the value that it is written as. -/
theorem ofJson?_eq_some_iff {given : Json} {row : HeaderRow} :
    ofJson? given = some row ↔ given = row.toJson := by
  constructor
  · intro h
    unfold ofJson? at h
    split at h
    · next n =>
      split at h
      · next hpos =>
        rw [← Option.some.inj h, toJson, Int.toNat_of_nonneg (by omega)]
      · cases h
    · rw [← Option.some.inj h, toJson]
    · cases h
  · rintro rfl
    exact ofJson?_toJson row

end HeaderRow

namespace Field

/-- Letters, underscores and dollar signs. -/
def isNameStart (c : Char) : Bool := c.isAlpha || c == '_' || c == '$'

/-- Characters of a name after its first. -/
def isNamePart (c : Char) : Bool := c.isAlphanum || c == '_' || c == '$'

/-- An identifier, or an identifier and one line end. -/
def isName (s : List Char) : Bool :=
  match Text.withoutFinalNewline s with
  | [] => false
  | c :: rest => isNameStart c && rest.all isNamePart

end Field

/-- A column of a sheet bound to an attribute. -/
structure Field where
  name : String
  type : FieldType := .string
  /-- Column letters. -/
  column : String
  /-- The row of the headers. -/
  row : HeaderRow := .first
  /-- Generated code refuses an entity without the attribute. -/
  required : Bool := false
  /-- How the sheet stores the value, if that is given. -/
  format : Json := .null
  /-- Free text for readers, if given. -/
  description : Json := .null
  name_valid : Field.isName name.toList = true
  column_capitals : Column.isCapitals column.toList = true
deriving DecidableEq

namespace Field

/-- The index of the column. -/
def columnIndex (f : Field) : Int := Column.indexOf f.column.toList

/-- The texts before and after the first slash, neither of them empty. -/
def slashed? (s : List Char) : Option (String × String) :=
  match Text.breakOn? ['/'] s with
  | some (before, after) =>
    if before.isEmpty || after.isEmpty then none
    else some (String.ofList before, String.ofList after)
  | none => none

/-- The texts that stand for true and for false in the sheet. -/
def sentinels? (f : Field) : Option (String × String) :=
  if f.type = .boolean then
    match f.format with
    | .str s => slashed? s.toList
    | _ => none
  else none

/-- The storage format of a boolean field has to be a text, if it is given. -/
def checkFormat (f : Field) : Except Error Unit :=
  match f.format with
  | .str _ => .ok ()
  | format => if f.type = .boolean ∧ format.truthy then .error .missingMember else .ok ()

/-! ## Reading and writing -/

/-- An entry that a field must have. -/
def demand (data : Json) (key : String) : Except Error Json :=
  (data.entry key).mapError fun
    | .missingKey _ => .fieldKeyMissing key
    | e => e

/-- A field name. -/
abbrev ValidName := { name : String // isName name.toList = true }

/-- A field name. -/
def nameOf : Json → Except Error ValidName
  | .str name =>
    if h : isName name.toList = true then .ok ⟨name, h⟩ else .error (.invalidFieldName (.str name))
  | given => .error (.invalidFieldName given)

/-- A type of the field `name`. -/
def typeOf (name : String) (given : Json) : Except Error FieldType :=
  match FieldType.ofJson? given with
  | some type => .ok type
  | none => .error (.invalidFieldType given name)

/-- The letters of a column. -/
abbrev ColumnLetters := { letters : String // Column.isCapitals letters.toList = true }

/-- Column letters, trimmed and capitalized. -/
def columnOf : Json → Except Error ColumnLetters
  | .str given =>
    let letters := String.ofList (Text.upper (Text.trim given.toList))
    if h : Column.isCapitals letters.toList = true then .ok ⟨letters, h⟩
    else .error (.invalidColumn (.str letters))
  | given => .error (.invalidColumn given)

/-- A row of the field `name`. -/
def rowOf (name : String) (given : Json) : Except Error HeaderRow :=
  match HeaderRow.ofJson? given with
  | some row => .ok row
  | none => .error (.invalidRow name)

/-- The field of these values. -/
def ofValues (name type column row : Json) (required : Bool) (format description : Json) :
    Except Error Field := do
  let ⟨name, name_valid⟩ ← nameOf name
  let type ← typeOf name type
  let ⟨column, column_capitals⟩ ← columnOf column
  let row ← rowOf name row
  return { name, type, column, row, required, format, description, name_valid, column_capitals }

/-- Read a field. -/
def ofJson (data : Json) : Except Error Field := do
  let name ← demand data "name"
  let type ← data.memberD "type" (.str "string")
  let column ← demand data "column"
  let row ← data.memberD "row" (.int 1)
  let required ← data.memberD "required" (.bool false)
  let format ← data.memberD "sheetsFormat" (← data.memberD "storage_format" .null)
  let description ← data.memberD "description" .null
  ofValues name type column row required.truthy format description

/-- An entry for a value that is given. -/
def optionalEntry (key : String) (value : Json) : List (String × Json) :=
  if value.present then [(key, value)] else []

/-- An object of these values; what has its default is left out. -/
def entriesOf (name type column row : Json) (required : Bool) (format description : Json) :
    Entries Json :=
  [("name", name), ("type", type), ("column", column), ("row", row)] ++
    (if required then [("required", .bool true)] else []) ++
    optionalEntry "sheetsFormat" format ++ optionalEntry "description" description

/-- The field as an object. -/
def toJson (f : Field) : Json :=
  .obj (entriesOf (.str f.name) (.str f.type.name) (.str f.column) f.row.toJson f.required f.format
    f.description)

end Field

end SheetSchema
