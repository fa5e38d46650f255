/-!
# Decimal digits

A row number may be written in the digits of any script. Every script's ten digits are ten
consecutive code points that start at its zero, so the table lists the zeros, and
`Text.digitValue?` is the distance to the zero before. `Text.numeral?` reads a run of digits, most
significant first, and refuses the empty run and every other character. It tells how many digits
there are beside the number that they write.
-/

namespace SheetSchema.Text

/-- Code points of the zeros of the 66 scripts that have decimal digits, in ascending order. -/
def zeros : List Nat := [
  48, 1632, 1776, 1984, 2406, 2534, 2662, 2790, 2918, 3046, 3174, 3302,
  3430, 3558, 3664, 3792, 3872, 4160, 4240, 6112, 6160, 6470, 6608, 6784,
  6800, 6992, 7088, 7232, 7248, 42528, 43216, 43264, 43472, 43504, 43600, 44016,
  65296, 66720, 68912, 69734, 69872, 69942, 70096, 70384, 70736, 70864, 71248, 71360,
  71472, 71904, 72016, 72784, 73040, 73120, 92768, 92864, 93008, 120782, 120792, 120802,
  120812, 120822, 123200, 123632, 125264, 130032]

/-- The value of a decimal digit of any script. -/
def digitValue? (c : Char) : Option Nat :=
  (zeros.find? fun z => z ≤ c.toNat && c.toNat < z + 10).map (c.toNat - ·)

/-- Decimal digits of any script. -/
def isDigit (c : Char) : Bool := (digitValue? c).isSome

/-- The number whose digits follow those of `acc`. -/
def numeralFrom? : Nat → List Char → Option Nat
  | acc, [] => some acc
  | acc, c :: rest =>
    match digitValue? c with
    | some d => numeralFrom? (10 * acc + d) rest
    | none => none

/-- A run of digits: how many there are, and the number that they write. -/
structure DigitRun where
  count : Nat
  value : Nat
deriving DecidableEq, Repr

/-- A non-empty run of digits. -/
def numeral? : List Char → Option DigitRun
  | [] => none
  | c :: rest => (numeralFrom? 0 (c :: rest)).map fun value => ⟨(c :: rest).length, value⟩

/-- The digits of a number, most significant first. -/
def digitsOf (n : Nat) : List Char := Nat.toDigits 10 n

end SheetSchema.Text
