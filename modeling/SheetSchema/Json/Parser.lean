import SheetSchema.Decimal
import SheetSchema.Json.Basic

/-!
# Reading JSON

`Json.parse` reads a text that holds one JSON value. It accepts the words `NaN`, `Infinity` and
`-Infinity` as numbers, and of a repeated key it keeps the last value. A number is a whole number
unless it has a fraction or an exponent. Two limits hold: whole numbers have a greatest length, and
containers are nested at most `Json.maxDepth` deep.

Every reader takes the text that is left and returns what it leaves. A refusal (`JsonStop`) carries
the text that was left where reading stopped, so a place in the text is a suffix of it; only
`Json.parse` turns that suffix into a line and a column. The recursion is bounded by fuel, three
steps for each character of the text: of three steps in a row one takes a character.
-/

namespace SheetSchema

/-- Why a text is not JSON. -/
inductive JsonFault where
  | expectedValue
  | expectedKey
  | expectedColon
  | expectedComma
  | extraData
  | unterminatedString
  | controlCharacter
  | unknownEscape
  | malformedCodeUnit
  | byteOrderMark
  | nestedTooDeep
  | numeralTooLong (digits : Nat)
deriving DecidableEq, Repr

/-- The fault in words. -/
def JsonFault.reason : JsonFault → String
  | expectedValue => "Expecting value"
  | expectedKey => "Expecting property name enclosed in double quotes"
  | expectedColon => "Expecting ':' delimiter"
  | expectedComma => "Expecting ',' delimiter"
  | extraData => "Extra data"
  | unterminatedString => "Unterminated string starting at"
  | controlCharacter => "Invalid control character at"
  | unknownEscape => "Invalid \\escape"
  | malformedCodeUnit => "Invalid \\uXXXX escape"
  | byteOrderMark => "Unexpected UTF-8 BOM (decode using utf-8-sig)"
  | nestedTooDeep => "Containers nested too deep"
  | numeralTooLong digits => s!"Whole number of {digits} digits"

/-- A fault and the text that was left where it was found. -/
structure JsonStop where
  fault : JsonFault
  rest : List Char
deriving DecidableEq, Repr

/-- A fault at a place of a text. -/
structure JsonError where
  fault : JsonFault
  /-- Characters before the place. -/
  position : Nat
  /-- Lines are counted from one. -/
  line : Nat
  /-- Columns are counted from one. -/
  column : Nat
deriving DecidableEq, Repr

/-- The fault and its place in words. -/
def JsonError.message (e : JsonError) : String :=
  s!"{e.fault.reason}: line {e.line} column {e.column} (char {e.position})"

/-- The place in `text` at which `stop.rest` is left. -/
def JsonStop.locate (text : List Char) (stop : JsonStop) : JsonError :=
  let before := text.take (text.length - stop.rest.length)
  { fault := stop.fault
    position := before.length
    line := before.count '\n' + 1
    column := (before.reverse.takeWhile (· ≠ '\n')).length + 1 }

namespace Json

/-- The blanks between the parts of a JSON text. -/
def isSpace (c : Char) : Bool := c = ' ' || c = '\t' || c = '\n' || c = '\r'

/-- The text from its first character that is no blank. -/
def skipSpace (s : List Char) : List Char := s.dropWhile isSpace

/-! ## Strings -/

/-- A part of a string: a character, or a code unit given by its number. -/
inductive StringPart where
  | char (c : Char)
  | codeUnit (n : Nat)
deriving DecidableEq, Repr

/-- The character of a code unit; half a character alone is unreadable. -/
def unitChar (n : Nat) : Char :=
  if 0xD800 ≤ n ∧ n < 0xE000 then '\uFFFD' else Char.ofNat n

/-- The characters of the parts. Two code units that are the halves of one character join. -/
def joinParts : List StringPart → List Char
  | [] => []
  | .char c :: parts => c :: joinParts parts
  | .codeUnit high :: .codeUnit low :: parts =>
    if 0xD800 ≤ high ∧ high < 0xDC00 ∧ 0xDC00 ≤ low ∧ low < 0xE000 then
      Char.ofNat (0x10000 + (high - 0xD800) * 0x400 + (low - 0xDC00)) :: joinParts parts
    else unitChar high :: joinParts (.codeUnit low :: parts)
  | .codeUnit n :: parts => unitChar n :: joinParts parts

/-- The value of a hexadecimal digit. -/
def hexValue? (c : Char) : Option Nat :=
  if '0' ≤ c ∧ c ≤ '9' then some (c.toNat - '0'.toNat)
  else if 'a' ≤ c ∧ c ≤ 'f' then some (c.toNat - 'a'.toNat + 10)
  else if 'A' ≤ c ∧ c ≤ 'F' then some (c.toNat - 'A'.toNat + 10)
  else none

/-- The code unit of four hexadecimal digits. -/
def codeUnit? (a b c d : Char) : Option Nat := do
  let a ← hexValue? a
  let b ← hexValue? b
  let c ← hexValue? c
  let d ← hexValue? d
  return ((a * 16 + b) * 16 + c) * 16 + d

/-- The character that a letter stands for after a backslash. -/
def escaped? : Char → Option Char
  | '"' => some '"'
  | '\\' => some '\\'
  | '/' => some '/'
  | 'b' => some '\x08'
  | 'f' => some '\x0c'
  | 'n' => some '\n'
  | 'r' => some '\r'
  | 't' => some '\t'
  | _ => none

/-- Put a part in front of the parts read after it. -/
def consPart (part : StringPart) (r : Except JsonStop (List StringPart × List Char)) :
    Except JsonStop (List StringPart × List Char) :=
  r.map fun (parts, rest) => (part :: parts, rest)

/-- The parts of a string up to its closing quote; `start` is the text from its opening quote. -/
def stringParts (start : List Char) : List Char → Except JsonStop (List StringPart × List Char)
  | [] => .error ⟨.unterminatedString, start⟩
  | '"' :: rest => .ok ([], rest)
  | ['\\'] => .error ⟨.unterminatedString, start⟩
  | '\\' :: 'u' :: a :: b :: c :: d :: e :: rest =>
    match codeUnit? a b c d with
    | some n => consPart (.codeUnit n) (stringParts start (e :: rest))
    | none => .error ⟨.malformedCodeUnit, 'u' :: a :: b :: c :: d :: e :: rest⟩
  | '\\' :: c :: rest =>
    if c = 'u' then .error ⟨.malformedCodeUnit, 'u' :: rest⟩
    else
      match escaped? c with
      | some e => consPart (.char e) (stringParts start rest)
      | none => .error ⟨.unknownEscape, '\\' :: c :: rest⟩
  | c :: rest =>
    if c.toNat < 0x20 then .error ⟨.controlCharacter, c :: rest⟩
    else consPart (.char c) (stringParts start rest)

/-- A string whose opening quote has been read. -/
def readString (rest : List Char) : Except JsonStop (String × List Char) :=
  (stringParts ('"' :: rest) rest).map fun (parts, rest) => (String.ofList (joinParts parts), rest)

/-! ## Numbers -/

/-- The number written by ASCII digits. -/
def digitsValue (digits : List Char) : Nat :=
  digits.foldl (fun acc c => 10 * acc + (c.toNat - '0'.toNat)) 0

/-- The digits after a point, if a point and a digit follow. -/
def readFraction : List Char → Option (List Char × List Char)
  | '.' :: c :: rest =>
    if c.isDigit then some ((c :: rest).takeWhile Char.isDigit, (c :: rest).dropWhile Char.isDigit)
    else none
  | _ => none

/-- The sign of an exponent and what follows it. -/
def exponentSign : List Char → Bool × List Char
  | '-' :: rest => (true, rest)
  | '+' :: rest => (false, rest)
  | rest => (false, rest)

/-- The exponent, if its letter and a digit follow. -/
def readExponent : List Char → Option (Int × List Char)
  | c :: rest =>
    if c = 'e' ∨ c = 'E' then
      let (negative, rest) := exponentSign rest
      let digits := rest.takeWhile Char.isDigit
      if digits.isEmpty then none
      else
        let n : Int := digitsValue digits
        some (if negative then -n else n, rest.dropWhile Char.isDigit)
    else none
  | [] => none

/-- The floating number `± digits · 10 ^ exponent`, rounded to the nearest. -/
def floatOf (negative : Bool) (digits : Nat) (exponent : Int) : Float :=
  let x := if exponent < 0 then Float.ofScientific digits true exponent.natAbs
    else Float.ofScientific digits false exponent.natAbs
  if negative then -x else x

/-- The digits before the point: a zero alone, or a run that does not start with one. -/
def readWhole : List Char → Option (List Char × List Char)
  | '0' :: rest => some (['0'], rest)
  | c :: rest =>
    if c.isDigit then some ((c :: rest).takeWhile Char.isDigit, (c :: rest).dropWhile Char.isDigit)
    else none
  | [] => none

/-- A numeral: its sign, its digits before and after the point, and its exponent if there is one. -/
structure NumberLiteral where
  negative : Bool
  whole : List Char
  fraction : List Char
  exponent? : Option Int
deriving DecidableEq, Repr

/-- A numeral without its sign. -/
def readUnsigned (negative : Bool) (s : List Char) : Option (NumberLiteral × List Char) := do
  let (whole, rest) ← readWhole s
  let (fraction, rest) := (readFraction rest).getD ([], rest)
  match readExponent rest with
  | some (exponent, rest) => return (⟨negative, whole, fraction, some exponent⟩, rest)
  | none => return (⟨negative, whole, fraction, none⟩, rest)

/-- A numeral. -/
def readNumber : List Char → Option (NumberLiteral × List Char)
  | '-' :: rest => readUnsigned true rest
  | s => readUnsigned false s

/-- The whole number of a numeral. -/
def NumberLiteral.toInt (n : NumberLiteral) : Int :=
  let magnitude : Int := digitsValue n.whole
  if n.negative then -magnitude else magnitude

/-- The floating number of a numeral. -/
def NumberLiteral.toFloat (n : NumberLiteral) : Float :=
  floatOf n.negative (digitsValue (n.whole ++ n.fraction)) (n.exponent?.getD 0 - n.fraction.length)

/-- The number of a numeral, which is whole if it has neither fraction nor exponent. -/
def NumberLiteral.value (n : NumberLiteral) : Except JsonFault Json :=
  if !n.fraction.isEmpty || n.exponent?.isSome then .ok (.float n.toFloat)
  else if Decimal.isReadable n.whole.length then .ok (.int n.toInt)
  else .error (.numeralTooLong n.whole.length)

/-! ## Values -/

/-- The words that are values, and the values they are. -/
def words : List (List Char × Json) :=
  [("null".toList, .null), ("true".toList, .bool true), ("false".toList, .bool false),
   ("NaN".toList, .float (0.0 / 0.0)), ("Infinity".toList, .float (1.0 / 0.0)),
   ("-Infinity".toList, .float (-1.0 / 0.0))]

/-- A word that is a value. -/
def readWord (s : List Char) : Option (Json × List Char) :=
  words.findSome? fun (word, value) =>
    if word.isPrefixOf s then some (value, s.drop word.length) else none

/-- A value that is neither a string nor a container. -/
def readScalar (s : List Char) : Except JsonStop (Json × List Char) :=
  match readWord s with
  | some r => .ok r
  | none =>
    match readNumber s with
    | some (n, rest) =>
      match n.value with
      | .ok value => .ok (value, rest)
      | .error fault => .error ⟨fault, s⟩
    | none => .error ⟨.expectedValue, s⟩

/-- How deep containers may be nested. -/
def maxDepth : Nat := 990

mutual

/-- A value, from its first character; containers may be nested `depth` deep. -/
def readValue : (fuel depth : Nat) → List Char → Except JsonStop (Json × List Char)
  | 0, _, s => .error ⟨.expectedValue, s⟩
  | fuel + 1, depth, s =>
    match s with
    | '"' :: rest => (readString rest).map fun (text, rest) => (.str text, rest)
    | '[' :: rest => (readList fuel depth s rest).map fun (items, rest) => (.arr items, rest)
    | '\x7b' :: rest =>
      (readObject fuel depth s rest).map fun (entries, rest) => (ofEntries entries, rest)
    | s => readScalar s

/-- The items of a list that starts at `start` and whose bracket has been read. -/
def readList : (fuel depth : Nat) → (start rest : List Char) →
    Except JsonStop (List Json × List Char)
  | 0, _, start, _ => .error ⟨.expectedValue, start⟩
  | _, 0, start, _ => .error ⟨.nestedTooDeep, start⟩
  | fuel + 1, depth + 1, _, rest =>
    match skipSpace rest with
    | ']' :: rest => .ok ([], rest)
    | rest => readItems fuel depth rest

/-- The items of a list up to its closing bracket. -/
def readItems : (fuel depth : Nat) → List Char → Except JsonStop (List Json × List Char)
  | 0, _, s => .error ⟨.expectedValue, s⟩
  | fuel + 1, depth, s => do
    let (item, rest) ← readValue fuel depth s
    match skipSpace rest with
    | ']' :: rest => .ok ([item], rest)
    | ',' :: rest => do
      let (items, rest) ← readItems fuel depth (skipSpace rest)
      .ok (item :: items, rest)
    | rest => .error ⟨.expectedComma, rest⟩

/-- The entries of an object that starts at `start` and whose brace has been read. -/
def readObject : (fuel depth : Nat) → (start rest : List Char) →
    Except JsonStop (List (String × Json) × List Char)
  | 0, _, start, _ => .error ⟨.expectedKey, start⟩
  | _, 0, start, _ => .error ⟨.nestedTooDeep, start⟩
  | fuel + 1, depth + 1, _, rest =>
    match skipSpace rest with
    | '\x7d' :: rest => .ok ([], rest)
    | rest => readEntries fuel depth rest

/-- The entries of an object up to its closing brace. -/
def readEntries : (fuel depth : Nat) → List Char →
    Except JsonStop (List (String × Json) × List Char)
  | 0, _, s => .error ⟨.expectedKey, s⟩
  | fuel + 1, depth, s =>
    match s with
    | '"' :: rest => do
      let (key, rest) ← readString rest
      match skipSpace rest with
      | ':' :: rest => do
        let (value, rest) ← readValue fuel depth (skipSpace rest)
        match skipSpace rest with
        | '\x7d' :: rest => .ok ([(key, value)], rest)
        | ',' :: rest => do
          let (entries, rest) ← readEntries fuel depth (skipSpace rest)
          .ok ((key, value) :: entries, rest)
        | rest => .error ⟨.expectedComma, rest⟩
      | rest => .error ⟨.expectedColon, rest⟩
    | s => .error ⟨.expectedKey, s⟩

end

/-- A text that holds one value and blanks around it. -/
def readDocument (s : List Char) : Except JsonStop Json := do
  if s.head? = some '\uFEFF' then throw ⟨.byteOrderMark, s⟩
  let (value, rest) ← readValue (3 * s.length + 3) maxDepth (skipSpace s)
  match skipSpace rest with
  | [] => return value
  | rest => throw ⟨.extraData, rest⟩

/-- Read a JSON text. -/
def parse (text : String) : Except JsonError Json :=
  (readDocument text.toList).mapError (·.locate text.toList)

end Json

end SheetSchema
