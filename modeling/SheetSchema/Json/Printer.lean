import SheetSchema.Decimal
import SheetSchema.Json.Basic

/-!
# Writing JSON

`Json.render` writes a value as JSON text under a `JsonLayout`: on one line, or one part to a line
with an indentation per level; with other scripts as they are or escaped to ASCII. Keys keep their
order. Quotes, backslashes and control characters are always escaped.
-/

namespace SheetSchema

/-- How JSON text is laid out. -/
structure JsonLayout where
  /-- What a level is indented by, one part to a line; `none` writes one line. -/
  indent : Option String := none
  /-- Escape every character that is not printable ASCII. -/
  ascii : Bool := false
deriving DecidableEq, Repr, Inhabited

/-- The text that a value indents by: that many blanks for a whole number, none of them for a
negative one, a text as it is, and one line for `null`. -/
def JsonLayout.indentOf? : Json → Option (Option String)
  | .null => some none
  | .str s => some (some s)
  | .int n => some (some (String.ofList (List.replicate n.toNat ' ')))
  | .bool b => some (some (if b then " " else ""))
  | _ => none

namespace Json

/-- Four hexadecimal digits. -/
def hex4 (n : Nat) : List Char :=
  let digits := Nat.toDigits 16 n
  List.replicate (4 - digits.length) '0' ++ digits

/-- A code unit as an escape. -/
def unitEscape (n : Nat) : List Char := '\\' :: 'u' :: hex4 n

/-- A character as one escape, or as two for the halves of a character above the first plane. -/
def escapeChar (c : Char) : List Char :=
  let n := c.toNat
  if n < 0x10000 then unitEscape n
  else
    unitEscape (0xD800 + (n - 0x10000) / 0x400) ++ unitEscape (0xDC00 + (n - 0x10000) % 0x400)

/-- A character inside a JSON string. -/
def stringChar (ascii : Bool) (c : Char) : List Char :=
  if c = '"' then ['\\', '"']
  else if c = '\\' then ['\\', '\\']
  else if c = '\n' then ['\\', 'n']
  else if c = '\r' then ['\\', 'r']
  else if c = '\t' then ['\\', 't']
  else if c = '\x08' then ['\\', 'b']
  else if c = '\x0c' then ['\\', 'f']
  else if c.toNat < 0x20 ∨ (ascii ∧ 0x7F ≤ c.toNat) then escapeChar c
  else [c]

/-- A JSON string. -/
def stringText (ascii : Bool) (s : String) : List Char :=
  '"' :: s.toList.flatMap (stringChar ascii) ++ ['"']

/-- A line end and the indentation of a level, or nothing on one line. -/
def lineBreak (layout : JsonLayout) (level : Nat) : List Char :=
  match layout.indent with
  | some unit => '\n' :: (List.replicate level unit.toList).flatten
  | none => []

/-- What stands between two parts. -/
def partSeparator (layout : JsonLayout) (level : Nat) : List Char :=
  match layout.indent with
  | some _ => ',' :: lineBreak layout level
  | none => [',', ' ']

mutual

/-- The JSON text of a value that stands at `level`. -/
def write (layout : JsonLayout) (level : Nat) : Json → List Char
  | .null => "null".toList
  | .bool true => "true".toList
  | .bool false => "false".toList
  | .int n => (toString n).toList
  | .float x => (Decimal.text "NaN" "Infinity" x).toList
  | .str s => stringText layout.ascii s
  | .arr [] => ['[', ']']
  | .arr (item :: items) =>
    '[' :: lineBreak layout (level + 1) ++ write layout (level + 1) item ++
      writeItems layout (level + 1) items ++ lineBreak layout level ++ [']']
  | .obj [] => ['\x7b', '\x7d']
  | .obj ((key, value) :: entries) =>
    '\x7b' :: lineBreak layout (level + 1) ++ stringText layout.ascii key ++ [':', ' '] ++
      write layout (level + 1) value ++ writeEntries layout (level + 1) entries ++
      lineBreak layout level ++ ['\x7d']

/-- The items after the first, each after a separator. -/
def writeItems (layout : JsonLayout) (level : Nat) : List Json → List Char
  | [] => []
  | item :: items =>
    partSeparator layout level ++ write layout level item ++ writeItems layout level items

/-- The entries after the first, each after a separator. -/
def writeEntries (layout : JsonLayout) (level : Nat) : List (String × Json) → List Char
  | [] => []
  | (key, value) :: entries =>
    partSeparator layout level ++ stringText layout.ascii key ++ [':', ' '] ++
      write layout level value ++ writeEntries layout level entries

end

/-- The JSON text of a value. -/
def render (value : Json) (layout : JsonLayout) : String :=
  String.ofList (write layout 0 value)

end Json

end SheetSchema
