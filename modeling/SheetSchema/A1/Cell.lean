import SheetSchema.A1.Column
import SheetSchema.Decimal
import SheetSchema.Text.Blank
import SheetSchema.Text.Digit

/-!
# Cells

A cell is written as column letters and a row number: a `Coordinate`. Row numbers start at one, may
be written in the digits of any script, and are not checked here, so `A0` is a coordinate. Only a
row number of too many digits is refused, and only when it is read (`A1.readRow`): a text that has
the shape of a coordinate is told from other texts before (`A1.coordinateParts?`).
`CellReference.parse` reads a coordinate in capital letters together with the sheet it stands on,
which defaults to a given one.
-/

namespace SheetSchema.A1

/-- The single quote around sheet names. -/
def sheetQuote : Char := '\''

/-- A cell of some sheet. -/
structure Coordinate where
  column : List Char
  row : Nat
deriving DecidableEq, Repr

namespace Coordinate

/-- The index of the column. -/
def columnIndex (c : Coordinate) : Int := Column.indexOf c.column

/-- The index of the row. -/
def rowIndex (c : Coordinate) : Int := (c.row : Int) - 1

end Coordinate

/-- The number of a run of digits, which must not be too long. -/
def readRow (run : Text.DigitRun) : Except Error Nat :=
  if Decimal.isReadable run.count then .ok run.value else .error (.numeralTooLong run.count)

/-- Characters of the class `isLetter`, then digits, and nothing else. -/
def coordinateParts? (isLetter : Char → Bool) (s : List Char) :
    Option (List Char × Text.DigitRun) :=
  let column := s.takeWhile isLetter
  if column.isEmpty then none
  else (Text.numeral? (s.dropWhile isLetter)).map fun run => (column, run)

/-- The coordinate of its parts. -/
def readCoordinate (column : List Char) (run : Text.DigitRun) : Except Error Coordinate :=
  (readRow run).map fun row => ⟨column, row⟩

/-- A doubled quote stands for one quote. -/
def undouble : List Char → List Char
  | '\'' :: '\'' :: rest => '\'' :: undouble rest
  | c :: rest => c :: undouble rest
  | [] => []

/-- The sheet name inside quotes, or the name itself where there are none. -/
def unquoteSheet (s : List Char) : List Char :=
  if Text.isQuotedBy sheetQuote s then undouble (Text.inner s) else s

/-- A cell of a named sheet. -/
structure CellReference where
  sheet : String
  column : String
  row : Nat
deriving DecidableEq, Repr

namespace CellReference

/-- The index of the column. -/
def columnIndex (cell : CellReference) : Int := Column.indexOf cell.column.toList

/-- The parts of a qualified reference: a non-empty sheet name, and a coordinate in capital letters
after the separator. -/
def qualifiedParts? (s : List Char) : Option (List Char × List Char × Text.DigitRun) := do
  let (sheet, cell) ← Text.breakOn? ['!'] s
  let (column, run) ← coordinateParts? Char.isUpper cell
  if sheet.isEmpty then none else some (sheet, column, run)

/-- Read `Sheet!A3`, or `A3` on the sheet `fallback`. -/
def parse (reference fallback : String) : Except Error CellReference := do
  let s := Text.trim reference.toList
  let qualified := if '!' ∈ s then s else fallback.toList ++ '!' :: s
  match qualifiedParts? qualified with
  | some (sheet, column, run) =>
    return ⟨String.ofList (unquoteSheet sheet), String.ofList column, ← readRow run⟩
  | none => throw .malformedStartCell

end CellReference

end SheetSchema.A1
