import SheetSchema.A1.Cell
import SheetSchema.Grid.Range

/-!
# Ranges of cells

A range is written as two pieces with a colon between them, or as one piece that stands for both. A
piece is column letters, a row number, or a coordinate (`A1.Piece`). Two columns, two rows and two
coordinates bound a region on the axes they name, and a coordinate with a column bounds a region
that is open below. `A1.parseRange` refuses every other pair by the piece at fault.
-/

namespace SheetSchema.A1

/-- One side of a range. Its row number has not been read yet. -/
inductive Piece where
  | column (index : Int)
  | row (run : Text.DigitRun)
  | cell (letters : List Char) (run : Text.DigitRun)
deriving DecidableEq, Repr

/-- Tell what one side of a range is. -/
def Piece.read? (s : List Char) : Option Piece :=
  if Column.isLetters s then some (.column (Column.indexOf s))
  else
    match Text.numeral? s with
    | some run => some (.row run)
    | none => (coordinateParts? Char.isAlpha s).map fun (letters, run) => .cell letters run

/-- The two sides of a trimmed range text. -/
def sides (s : List Char) : Except Error (List Char × List Char) :=
  if s.isEmpty then .error .emptyRange
  else
    match (Text.splitOn ':' s).map Text.trim with
    | [piece] => .ok (piece, piece)
    | [start, stop] => .ok (start, stop)
    | _ => .error (.malformedRange (String.ofList s))

/-- The region between two rows. -/
def betweenRows (sheet : Json) (first last : Nat) : Except Error GridRange :=
  GridRange.ofIndices sheet ((first : Int) - 1) (some last) 0 none

/-- The region from a coordinate to the side `stop`, which must be a column or a coordinate. -/
def fromCell (sheet : Json) (a : Coordinate) (stop : List Char) : Except Error GridRange := do
  match Piece.read? stop with
  | some (.column b) => GridRange.ofIndices sheet a.rowIndex none a.columnIndex (some (b + 1))
  | some (.cell letters run) =>
    let b ← readCoordinate letters run
    GridRange.ofIndices sheet a.rowIndex (some (b.rowIndex + 1)) a.columnIndex
      (some (b.columnIndex + 1))
  | _ => throw (.malformedCoordinate (String.ofList stop))

/-- The region between two sides. -/
def between (sheet : Json) (start stop : List Char) : Except Error GridRange := do
  match Piece.read? start, Piece.read? stop with
  | some (.column a), some (.column b) => GridRange.ofIndices sheet 0 none a (some (b + 1))
  | some (.row a), some (.row b) => betweenRows sheet (← readRow a) (← readRow b)
  | some (.cell letters run), _ => fromCell sheet (← readCoordinate letters run) stop
  | _, _ => throw (.malformedCoordinate (String.ofList start))

/-- The region that a range text without its sheet names on the sheet `sheet`. -/
def parseRange (text : String) (sheet : Json) : Except Error GridRange := do
  let (start, stop) ← sides (Text.trim text.toList)
  between sheet start stop

end SheetSchema.A1
