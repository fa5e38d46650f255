import SheetSchema.Decimal
import SheetSchema.Json.Basic
import SheetSchema.Text.Quoted

/-!
# Values inside messages

Messages show values in a notation of their own: `None`, `True` and `False`, quoted strings, lists
and objects with their parts separated by commas. `Json.display` is that notation, `Json.text`
differs from it only in giving a string as it is, and `Json.kindName` is the name of a value's kind.
-/

namespace SheetSchema.Json

/-- Floating numbers inside messages. -/
def floatText : Float → String := Decimal.text "nan" "inf"

/-- Parts with a comma between them. -/
def commaSeparated (parts : List String) : String := String.intercalate ", " parts

mutual

/-- The value as a message shows it. -/
def display : Json → String
  | .null => "None"
  | .bool true => "True"
  | .bool false => "False"
  | .int n => toString n
  | .float x => floatText x
  | .str s => displayed s
  | .arr items => "[" ++ commaSeparated (displayItems items) ++ "]"
  | .obj entries => "\x7b" ++ commaSeparated (displayEntries entries) ++ "\x7d"

/-- The items as a message shows them. -/
def displayItems : List Json → List String
  | [] => []
  | item :: items => display item :: displayItems items

/-- The entries as a message shows them. -/
def displayEntries : List (String × Json) → List String
  | [] => []
  | (key, value) :: entries => (displayed key ++ ": " ++ display value) :: displayEntries entries

end

/-- The value as plain text. -/
def text : Json → String
  | .str s => s
  | value => display value

/-- The name of the value's kind. -/
def kindName : Json → String
  | .null => "NoneType"
  | .bool _ => "bool"
  | .int _ => "int"
  | .float _ => "float"
  | .str _ => "str"
  | .arr _ => "list"
  | .obj _ => "dict"

@[simp] theorem text_str (s : String) : text (.str s) = s := rfl

end SheetSchema.Json
