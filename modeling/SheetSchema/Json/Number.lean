import SheetSchema.Json.Display

/-!
# Numbers as given

Where a number is expected, a document may hold a whole number, a floating number, or a truth value,
which counts as one or zero. A `Number` keeps the form in which it came, so that it is written back
as it was read, and is compared by its exact value (`Number.compare?`): a finite floating number is
a multiple of `2 ^ -1074`, so all finite numbers are compared as whole multiples of that unit. The
floating number that is no number compares with nothing.

`Json.same` extends this to all values: lists are the same item by item, and objects key by key,
whatever the order of their keys.
-/

namespace SheetSchema

/-- A number in the form in which it was given. -/
inductive Number where
  | whole (n : Int)
  | flag (b : Bool)
  | float (x : Float)
deriving DecidableEq, Inhabited

namespace Number

/-- Read a number. -/
def ofJson? : Json → Option Number
  | .int n => some (whole n)
  | .bool b => some (flag b)
  | .float x => some (float x)
  | _ => none

/-- The number as it was given. -/
def toJson : Number → Json
  | whole n => .int n
  | flag b => .bool b
  | float x => .float x

/-- The number inside a text. -/
def text (x : Number) : String := x.toJson.text

/-- The whole number; a floating number is none, whatever its value. -/
def int? : Number → Option Int
  | whole n => some n
  | flag b => some (if b then 1 else 0)
  | float _ => none

/-- A place on the number line: a finite number in units of `2 ^ -1074`, or an infinity, which lies
on the side that its sign tells. -/
structure Place where
  side : Int
  units : Int
deriving DecidableEq, Repr

/-- The units in one. -/
def unitsPerOne : Nat := Nat.pow 2 1074

/-- The place of a floating number. -/
def floatPlace? (x : Float) : Option Place :=
  if x.isNaN then none
  else
    let sign : Int := if Decimal.isNegative x then -1 else 1
    if x.isInf then some ⟨sign, 0⟩
    else
      let (m, q) := Decimal.parts x
      some ⟨0, sign * (m * Nat.pow 2 (q + 1074).toNat : Nat)⟩

/-- The place of a number, if it has one. -/
def place? : Number → Option Place
  | whole n => some ⟨0, n * unitsPerOne⟩
  | flag b => some ⟨0, if b then unitsPerOne else 0⟩
  | float x => floatPlace? x

/-- The order of two places. -/
def Place.compare (a b : Place) : Ordering :=
  (Ord.compare a.side b.side).then (Ord.compare a.units b.units)

/-- The order of two numbers, if they have one. -/
def compare? (a b : Number) : Option Ordering :=
  match a.int?, b.int? with
  | some m, some n => some (compare m n)
  | _, _ => do return (← a.place?).compare (← b.place?)

/-- The first number is less than the second. -/
def lt (a b : Number) : Bool := a.compare? b == some .lt

/-- The first number is at most the second. -/
def le (a b : Number) : Bool := a.compare? b == some .lt || a.compare? b == some .eq

/-- The numbers are equal in value. -/
def same (a b : Number) : Bool := a.compare? b == some .eq

/-- The number is no number. -/
def isUndefined : Number → Bool
  | float x => x.isNaN
  | _ => false

/-- The number and a whole number more. -/
def plus (x : Number) (k : Int) : Number :=
  match x with
  | whole n => whole (n + k)
  | flag b => whole ((if b then 1 else 0) + k)
  | float y => float (y + Float.ofInt k)

@[simp] theorem ofJson?_toJson (x : Number) : ofJson? x.toJson = some x := by cases x <;> rfl

@[simp] theorem compare?_whole (m n : Int) :
    compare? (whole m) (whole n) = some (compare m n) := rfl

@[simp] theorem lt_whole (m n : Int) : lt (whole m) (whole n) = decide (m < n) := by
  by_cases h : m < n <;> simp [lt, Int.compare_eq_lt, h]

@[simp] theorem le_whole (m n : Int) : le (whole m) (whole n) = decide (m ≤ n) := by
  rw [Bool.eq_iff_iff]
  simp [le, Int.compare_eq_lt]
  omega

@[simp] theorem same_whole (m n : Int) : same (whole m) (whole n) = decide (m = n) := by
  by_cases h : m = n <;> simp [same, h]

end Number

namespace Json

mutual

/-- The values are the same: numbers by their value, objects whatever the order of their keys. -/
def same : Json → Json → Bool
  | .null, .null => true
  | .str s, .str t => s == t
  | .arr xs, .arr ys => sameItems xs ys
  | .obj xs, .obj ys => xs.length == ys.length && sameEntries xs ys
  | a, b =>
    match Number.ofJson? a, Number.ofJson? b with
    | some m, some n => m.same n
    | _, _ => false

/-- The lists are the same item by item. -/
def sameItems : List Json → List Json → Bool
  | [], [] => true
  | x :: xs, y :: ys => same x y && sameItems xs ys
  | _, _ => false

/-- Every entry has the same value in `other`. -/
def sameEntries : List (String × Json) → (other : List (String × Json)) → Bool
  | [], _ => true
  | (key, value) :: rest, other =>
    (match Entries.get? other key with
      | some v => same value v
      | none => false) && sameEntries rest other

end

end Json

end SheetSchema
