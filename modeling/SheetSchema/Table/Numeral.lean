import SheetSchema.Decimal
import SheetSchema.Json.Parser

/-!
# Numbers in cells

A cell may hold a number as text. Whole numerals of at most 64 bits are read as whole numbers, with
or without a sign, and every other decimal numeral as a floating number. A numeral with a point or
an exponent becomes the nearest one (`Numeral.nearest`). Of a whole numeral that is too large only
the first seventeen digits count, scaled by a power of ten (`Numeral.leading`), so its last bit may
differ from that of the nearest floating number. Text that is no numeral, and a whole numeral with
too many digits, read as the floating number that equals nothing.
-/

namespace SheetSchema

/-- A decimal numeral without its sign. -/
structure Numeral where
  /-- The digits before the point. -/
  whole : List Char
  /-- The digits after the point, if there is one. -/
  fraction? : Option (List Char) := none
  /-- The power of ten, if one is written. -/
  exponent? : Option Int := none
deriving DecidableEq, Repr

namespace Numeral

/-- Spaces, tabs and line ends of ASCII. -/
def isSpace (c : Char) : Bool := c == ' ' || (9 ≤ c.toNat && c.toNat ≤ 13)

/-- The text without the spaces at its ends. -/
def trim (s : List Char) : List Char :=
  ((s.dropWhile isSpace).reverse.dropWhile isSpace).reverse

/-- An optional sign, with `true` for a minus, and what follows it. -/
def signed : List Char → Bool × List Char
  | '-' :: rest => (true, rest)
  | '+' :: rest => (false, rest)
  | s => (false, s)

/-- How many digits of a large whole numeral count. -/
def precision : Nat := 17

/-- The power of ten after the letter of the exponent. -/
def readExponent? (s : List Char) : Option Int :=
  let (negative, digits) := signed s
  if digits.isEmpty || !digits.all Char.isDigit then none
  else
    let n : Int := Json.digitsValue digits
    some (if negative then -n else n)

/-- The numeral in a text that has neither sign nor spaces. -/
def read? (s : List Char) : Option Numeral :=
  let whole := s.takeWhile Char.isDigit
  let (fraction?, rest) :=
    match s.dropWhile Char.isDigit with
    | '.' :: rest => (some (rest.takeWhile Char.isDigit), rest.dropWhile Char.isDigit)
    | rest => (none, rest)
  if whole.isEmpty && (fraction?.getD []).isEmpty then none
  else
    match rest with
    | [] => some { whole, fraction? }
    | c :: rest =>
      if c = 'e' ∨ c = 'E' then
        (readExponent? rest).map fun e => { whole, fraction?, exponent? := some e }
      else none

/-- The numeral has neither point nor exponent. -/
def isWhole (n : Numeral) : Bool := n.fraction?.isNone && n.exponent?.isNone

/-- The floating number nearest to `m · 10 ^ e`. -/
def ofDigits (m : Nat) (e : Int) : Float := Float.ofScientific m (decide (e < 0)) e.natAbs

/-- The floating number nearest to the numeral. -/
def nearest (n : Numeral) : Float :=
  let fraction := n.fraction?.getD []
  ofDigits (Json.digitsValue (n.whole ++ fraction)) (n.exponent?.getD 0 - fraction.length)

/-- The floating number of the first digits before the point, scaled as those that follow demand. -/
def leading (n : Numeral) : Float :=
  Float.ofNat (Json.digitsValue (n.whole.take precision)) *
    ofDigits 1 (n.whole.length - precision : Nat)

/-- The floating number of a numeral. -/
def toFloat (n : Numeral) (negative : Bool) : Float :=
  let x := if n.isWhole then n.leading else n.nearest
  if negative then -x else x

/-- The whole number of the digits before the point. -/
def toInt (n : Numeral) (negative : Bool) : Int :=
  let magnitude : Int := Json.digitsValue n.whole
  if negative then -magnitude else magnitude

/-- The number has 64 bits, with or without a sign. -/
def isMachineWord (n : Int) : Bool := -Int.pow 2 63 ≤ n && n < Int.pow 2 64

/-- The floating number that equals nothing. -/
def undefined : Json := .float (0.0 / 0.0)

/-- The words for infinity. -/
def infinities : List String := ["inf", "infinity"]

/-- The number in a text. -/
def ofText (s : List Char) : Json :=
  let (negative, digits) := signed (trim s)
  match read? digits with
  | some n =>
    let whole := n.toInt negative
    if !n.isWhole then .float (n.toFloat negative)
    else if !Decimal.isReadable n.whole.length then undefined
    else if isMachineWord whole then .int whole
    else .float (n.toFloat negative)
  | none =>
    let (negative, word) := signed s
    if infinities.contains (String.ofList (word.map Char.toLower)) then
      .float (if negative then -1.0 / 0.0 else 1.0 / 0.0)
    else undefined

end Numeral

/-- The number in a cell: numbers and truth values are kept, text is read. -/
def Json.toNumber : Json → Json
  | .int n => .int n
  | .float x => .float x
  | .bool b => .bool b
  | .str s => Numeral.ofText s.toList
  | _ => Numeral.undefined

end SheetSchema
