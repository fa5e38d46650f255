import SheetSchema.Error
import SheetSchema.Text.Split

/-!
# Columns by letters and by index

A column is named by letters, `A` to `Z`, then `AA`, `AB` and so on, and numbered by an index that
starts at zero. The letters are the digits of a numeral without a zero: `Column.index` adds up their
values from 1 to 26, and `Column.letters` writes an index in them.

Letters of either case are read. A line end after the letters is let pass and counts with its own
code point, so such a text has an index below that of its letters, which may be negative.
-/

namespace SheetSchema.Column

/-- Nothing but letters, or letters and one line end. -/
def isLetters (s : List Char) : Bool :=
  let body := Text.withoutFinalNewline s
  !body.isEmpty && body.all Char.isAlpha

/-- Capital letters and nothing else. -/
def isCapitals (s : List Char) : Bool := !s.isEmpty && s.all Char.isUpper

/-- The value of a letter: `A` is one. -/
def letterValue (c : Char) : Int := (c.toUpper.toNat : Int) - 64

/-- The number of a column whose letters follow those of `acc`. -/
def numberFrom (acc : Int) (s : List Char) : Int :=
  s.foldl (fun acc c => acc * 26 + letterValue c) acc

/-- The index that the characters add up to, whatever they are. -/
def indexOf (s : List Char) : Int := numberFrom 0 s - 1

/-- The index of the column with these letters. -/
def index (letters : String) : Except Error Int :=
  if isLetters letters.toList then .ok (indexOf letters.toList)
  else .error (.invalidColumn (.str letters))

/-- The index of the column with these letters, which must be a string. -/
def indexOfJson : Json → Except Error Int
  | .str letters => index letters
  | given => .error (.invalidColumn given)

/-- The letter of a value below 26. -/
def letter (n : Nat) : Char := Char.ofNat (65 + n)

/-- The letters of the column with index `n`, the last one first. -/
def lettersReversed (n : Nat) : List Char :=
  letter (n % 26) :: if n < 26 then [] else lettersReversed (n / 26 - 1)
termination_by n
decreasing_by omega

/-- The letters of the column with index `n`. -/
def letters (n : Nat) : String := String.ofList (lettersReversed n).reverse

/-- The letters of the column with this index, which must not be negative. -/
def lettersOf (index : Int) : Except Error String :=
  if index < 0 then .error (.negativeColumn (.whole index)) else .ok (letters index.toNat)

/-- The letters of the column with this index. What is no number has no letters, and any other
floating number is no index. -/
def lettersOfNumber (index : Number) : Except Error String :=
  if index.lt (.whole 0) then .error (.negativeColumn index)
  else
    match index.int? with
    | some n => .ok (letters n.toNat)
    | none => if index.isUndefined then .ok "" else .error .wrongKind

/-- The letters of the column with this index, which must be a number. -/
def lettersOfJson (given : Json) : Except Error String :=
  match Number.ofJson? given with
  | some index => lettersOfNumber index
  | none => .error .wrongKind

end SheetSchema.Column
