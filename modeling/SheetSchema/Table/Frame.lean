import SheetSchema.Error

/-!
# Frames

A `Frame` is a rectangle of values under column names. The values of one column share a type where
they can (`Frame.ofRows`): whole numbers stay whole only among themselves, missing numbers and
missing texts become the floating number that equals nothing, and any other mixture is kept as it
is. So is a column of numbers whose whole ones do not fit one kind of 64 bit number.
-/

namespace SheetSchema

/-- Rows of values under column names. -/
structure Frame where
  /-- The names of the columns. -/
  columns : List Json
  rows : List (List Json)
deriving DecidableEq

namespace Frame

/-- A missing value among numbers or texts. -/
def missing : Json := .float (0.0 / 0.0)

/-- A number or a missing value as a floating number. -/
def toFloat : Json → Json
  | .int n => .float (Float.ofInt n)
  | .null => missing
  | value => value

/-- A text, or the mark for a missing one. -/
def orMissing : Json → Json
  | .null => missing
  | value => value

/-- A whole number. -/
def isInt : Json → Bool
  | .int _ => true
  | _ => false

/-- A number of either kind. -/
def isNumber : Json → Bool
  | .int _ | .float _ => true
  | _ => false

/-- The whole numbers among some values. -/
def wholeNumbers (values : List Json) : List Int :=
  values.filterMap fun
    | .int n => some n
    | _ => none

/-- The numbers have 64 bits, all of them with a sign or all without one. -/
def shareMachineWord (numbers : List Int) : Bool :=
  numbers.all (fun n => -Int.pow 2 63 ≤ n && n < Int.pow 2 63) ||
    numbers.all (fun n => 0 ≤ n && n < Int.pow 2 64)

/-- A text, or the mark for a missing one. -/
def isText : Json → Bool
  | .str _ => true
  | .float x => x.isNaN
  | _ => false

/-- The conversion that gives the values of a column one type. -/
def conversion (column : List Json) : Json → Json :=
  let given := column.filter Json.present
  if given.isEmpty || column.all isInt then id
  else if given.all isNumber then if shareMachineWord (wholeNumbers given) then toFloat else id
  else if given.all isText then orMissing
  else id

/-- The values of the column at position `j`. -/
def column (rows : List (List Json)) (j : Nat) : List Json := rows.map fun row => row.getD j .null

/-- The rows with every column converted. -/
def unify (width : Nat) (rows : List (List Json)) : List (List Json) :=
  let conversions := (List.range width).map fun j => conversion (column rows j)
  rows.map fun row => conversions.mapIdx fun j convert => convert (row.getD j .null)

/-- The rows, each filled up to `width`. -/
def fill (width : Nat) (rows : List (List Json)) : List (List Json) :=
  rows.map fun row => (List.range width).map fun j => row.getD j .null

/-- The length of the longest row. -/
def width (rows : List (List Json)) : Nat := (rows.map List.length).foldl max 0

/-- The frame of these rows, which keeps the values as they are when `asGiven` says so. Some row has
to reach the last column, and none may go beyond it. -/
def ofRows (columns : List Json) (rows : List (List Json)) (asGiven : Bool) :
    Except Error Frame :=
  if !rows.isEmpty && width rows != columns.length then
    .error (.frameWidth columns.length (width rows))
  else
    .ok ⟨columns, if asGiven then fill columns.length rows else unify columns.length rows⟩

/-- The values of a row by the names of their columns, of which only texts can be asked for. -/
def record (columns row : List Json) : Entries Json :=
  Entries.putAll [] ((columns.zip row).filterMap fun
    | (.str name, value) => some (name, value)
    | _ => none)

/-- The rows as records. -/
def records (frame : Frame) : List (Entries Json) := frame.rows.map (record frame.columns)

end Frame

end SheetSchema
