/-!
# Decimal numerals

A whole number is read from at most 4300 digits, leading zeros included, and written with at most as
many. A number that was read can therefore be written, but its successor may have one digit too
many.

A floating number is written by the fewest decimal digits that read back as the same number. A
finite number is `m · 2 ^ q`; the reals that round to it form the interval between the midpoints to
its two neighbours, ends included when `m` is even. For one digit, two digits and so on, the two
decimals of that many digits around the number are tested against the interval in exact
arithmetic: the first that lies inside is taken, and of two the nearer one (`Decimal.shortest`).
Seventeen digits always suffice.

`Decimal.text` places the point: plainly from `0.0001` up to sixteen digits before the point, and
with a power of ten otherwise.
-/

namespace SheetSchema.Decimal

/-! ## Whole numbers -/

/-- The most digits that a whole number is read from or written with. -/
def maxDigits : Nat := 4300

/-- The least number with more digits than may be written. -/
def writeLimit : Nat := Nat.pow 10 maxDigits

/-- The number has no more digits than may be written. -/
def isWritable (n : Int) : Bool := n.natAbs < writeLimit

/-- A run of this many digits may be read. -/
def isReadable (digits : Nat) : Bool := digits ≤ maxDigits

/-! ## Floating numbers -/

/-- A decimal number `digits · 10 ^ exponent`. -/
structure Scaled where
  digits : Nat
  exponent : Int
deriving DecidableEq, Repr

/-- The numbers `m` and `q` with `|x| = m · 2 ^ q`, for a finite `x`. -/
def parts (x : Float) : Nat × Int :=
  let bits : Nat := x.toBits.toNat
  let fraction : Nat := bits % Nat.pow 2 52
  let exponent : Nat := bits / Nat.pow 2 52 % Nat.pow 2 11
  if exponent = 0 then (fraction, -1074)
  else (fraction + Nat.pow 2 52, (exponent : Int) - 1075)

/-- The sign bit is set. -/
def isNegative (x : Float) : Bool := x.toBits.toNat / Nat.pow 2 63 == 1

/-- A fraction of positive numbers. -/
structure Ratio where
  num : Nat
  den : Nat

/-- `r · 10 ^ -t`, as a fraction. -/
def Ratio.inUnits (r : Ratio) (t : Int) : Ratio :=
  if 0 ≤ t then ⟨r.num, r.den * Nat.pow 10 t.toNat⟩ else ⟨r.num * Nat.pow 10 (-t).toNat, r.den⟩

/-- The least `j ≤ fuel` with `r · 10 ^ j ≥ 1`. -/
def leadingZeros : (fuel : Nat) → Ratio → Nat
  | 0, _ => 0
  | fuel + 1, r => if r.den ≤ r.num then 0 else leadingZeros fuel ⟨r.num * 10, r.den⟩ + 1

/-- The exponent `k` with `10 ^ (k - 1) ≤ r < 10 ^ k`. -/
def magnitude (r : Ratio) : Int :=
  if r.den ≤ r.num then ((Nat.toDigits 10 (r.num / r.den)).length : Int)
  else 1 - (leadingZeros 400 r : Int)

/-- Remove the zeros at the end of the digits. -/
def Scaled.strip : (fuel : Nat) → Scaled → Scaled
  | 0, s => s
  | fuel + 1, s =>
    if s.digits ≠ 0 ∧ s.digits % 10 = 0 then strip fuel ⟨s.digits / 10, s.exponent + 1⟩ else s

/-- The decimal of exactly `n` digits inside the rounding interval of `m · 2 ^ q` that is nearest to
it, if there is one. All comparisons are between integers: the interval has the ends `low` and
`high`, and the candidates are `c` and `c + 1` in units of `10 ^ t`. -/
def withDigits? (m : Nat) (q : Int) (n : Nat) : Option Scaled :=
  let scale := Nat.pow 2 q.toNat
  let den := 4 * Nat.pow 2 (-q).toNat
  let value : Ratio := ⟨4 * m * scale, den⟩
  let low := (if m = Nat.pow 2 52 ∧ -1074 < q then 4 * m - 1 else 4 * m - 2) * scale
  let high := (4 * m + 2) * scale
  let t := magnitude value - n
  let unit := value.inUnits t
  let c := unit.num / unit.den
  let inside := fun (d : Nat) =>
    let lo := Ratio.inUnits ⟨low, den⟩ t
    let hi := Ratio.inUnits ⟨high, den⟩ t
    if m % 2 = 0 then lo.num ≤ d * lo.den ∧ d * hi.den ≤ hi.num
    else lo.num < d * lo.den ∧ d * hi.den < hi.num
  let lower := decide (inside c)
  let upper := decide (inside (c + 1))
  let nearerUpper := (2 * c + 1) * unit.den < 2 * unit.num ∨
    ((2 * c + 1) * unit.den = 2 * unit.num ∧ c % 2 = 1)
  if lower && upper then some ⟨if nearerUpper then c + 1 else c, t⟩
  else if lower then some ⟨c, t⟩
  else if upper then some ⟨c + 1, t⟩
  else none

/-- The shortest decimal that reads back as `m · 2 ^ q`. -/
def shortest (m : Nat) (q : Int) : Scaled :=
  match (List.range 17).findSome? fun n => withDigits? m q (n + 1) with
  | some s => s.strip 400
  | none => ⟨m, 0⟩

/-- The exponent with its sign and at least two digits. -/
def exponentText (e : Int) : String :=
  let digits := toString e.natAbs
  (if e < 0 then "e-" else "e+") ++ (if digits.length < 2 then "0" ++ digits else digits)

/-- Digits with a point after the first `point` of them, where zeros fill what is missing. -/
def positional (digits : List Char) (point : Int) : String :=
  if point ≤ 0 then
    "0." ++ String.ofList (List.replicate (-point).toNat '0' ++ digits)
  else if (digits.length : Int) ≤ point then
    String.ofList (digits ++ List.replicate (point.toNat - digits.length) '0') ++ ".0"
  else
    String.ofList (digits.take point.toNat) ++ "." ++ String.ofList (digits.drop point.toNat)

/-- One digit before the point, and a power of ten. -/
def scientific (digits : List Char) (point : Int) : String :=
  let fraction := String.ofList digits.tail
  String.ofList (digits.take 1) ++ (if fraction = "" then "" else "." ++ fraction) ++
    exponentText (point - 1)

/-- The text of a finite number. -/
def finiteText (x : Float) : String :=
  let (m, q) := parts x
  let sign := if isNegative x then "-" else ""
  if m = 0 then sign ++ "0.0"
  else
    let s := shortest m q
    let digits := Nat.toDigits 10 s.digits
    let point := (digits.length : Int) + s.exponent
    sign ++ (if -4 < point ∧ point ≤ 16 then positional digits point else scientific digits point)

/-- The text of a number, given the words for what is no number and for the two infinities. -/
def text (notANumber infinity : String) (x : Float) : String :=
  if x.isNaN then notANumber
  else if x.isInf then (if isNegative x then "-" else "") ++ infinity
  else finiteText x

end SheetSchema.Decimal
