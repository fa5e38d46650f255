import SheetSchema.Code.Expression
import SheetSchema.Json.Access
import SheetSchema.Text.Class
import SheetSchema.Text.Split

/-!
# Declarations in shared files

Two files are shared by all features: one of interfaces and one of range constants. A declaration is
put into such a file in the place of the first earlier one of its name, and at the end if there is
none (`Code.upsert`).

What counts as an earlier declaration is a matter of text. An interface goes from its first words to
the first line that starts with a closing brace. A constant goes from its first words to the last
quote before a semicolon on the same line, whatever stands between.
-/

namespace SheetSchema.Code

/-- The text with the first place that `match?` accepts replaced; `match?` returns what follows that
place. -/
def replaceFirst? (match? : List Char → Option (List Char)) (replacement : List Char) :
    List Char → Option (List Char)
  | [] => (match? []).map (replacement ++ ·)
  | c :: rest =>
    match match? (c :: rest) with
    | some after => some (replacement ++ after)
    | none => (replaceFirst? match? replacement rest).map (c :: ·)

/-- Text that ends with a line end. -/
def withFinalNewline (s : List Char) : List Char :=
  if s.getLast? = some '\n' then s else s ++ ['\n']

/-- Put a declaration in the first place that `match?` accepts, or at the end. A file without text
gets the line `header` first. -/
def upsertChars (match? : List Char → Option (List Char)) (header declaration content : List Char) :
    List Char :=
  let content := if content.isEmpty then header else content
  match replaceFirst? match? declaration content with
  | some changed => changed
  | none => withFinalNewline content ++ declaration ++ ['\n']

/-! ## Interfaces -/

/-- The first line of a new file of interfaces. -/
def typesHeader : String := "/** Auto-generated types */\n"

/-- The words before the body of an interface. -/
def interfaceStart (name : List Char) : List Char := "export interface ".toList ++ name

/-- What follows the interface `name` that starts here. The name must be a whole word. -/
def afterInterface? (name s : List Char) : Option (List Char) :=
  match Text.afterPrefix? (interfaceStart name) s with
  | some rest =>
    if Text.wordBoundary (interfaceStart name).getLast? rest.head? then
      (Text.breakOn? ['\n', '\x7d'] rest).map (·.2)
    else none
  | none => none

/-- Put the interface `name` into a file. -/
def upsertType (content name definition : String) : String :=
  String.ofList (upsertChars (afterInterface? name.toList) typesHeader.toList definition.toList
    content.toList)

/-! ## Range constants -/

/-- The first line of a new file of range constants. -/
def constantsHeader : String := "/** Auto-generated range constants */\n"

/-- The quotes of string literals. -/
def isQuote (c : Char) : Bool := c == '\'' || c == '`' || c == '"'

/-- What follows the last quote before a semicolon on this line. -/
def afterLastQuote? : List Char → Option (List Char)
  | [] => none
  | c :: rest =>
    if c = '\n' then none
    else
      match afterLastQuote? rest with
      | some after => some after
      | none => if isQuote c && rest.head? == some ';' then some rest.tail else none

/-- The words before the value of a constant. -/
def constantStart (name : List Char) : List Char :=
  "export const ".toList ++ name ++ [' ', '=', ' ']

/-- What follows the constant `name` that starts here. -/
def afterConstant? (name s : List Char) : Option (List Char) :=
  match Text.afterPrefix? (constantStart name) s with
  | some (c :: rest) => if isQuote c then afterLastQuote? rest else none
  | _ => none

/-- The file declares the constant `name`. -/
def hasConstant (content name : String) : Bool :=
  (replaceFirst? (afterConstant? name.toList) [] content.toList).isSome

/-- The line of a range constant. -/
def constantDeclaration (name range : String) : List Char :=
  constantStart name.toList ++ literalChars range.toList ++ [';']

/-- Put the constant `name` for a range into a file. -/
def upsertConstant (content name range : String) : String :=
  String.ofList (upsertChars (afterConstant? name.toList) constantsHeader.toList
    (constantDeclaration name range) content.toList)

/-! ## Names as given -/

/-- A name or a definition, which must be a text. -/
def textOf : Json → Except Error String
  | .str s => .ok s
  | _ => .error .wrongKind

/-- Put a constant for a range into a file; its name must be a text. -/
def upsertConstantOf (content : String) (name : Json) (range : String) : Except Error String :=
  (textOf name).map fun name => upsertConstant content name range

/-- The text of a file as it is given. What does not count as given is an empty file. -/
def contentOf (given : Json) : Except Error String := if given.truthy then textOf given else .ok ""

/-- Put an interface into a file. -/
def upsertTypeJson (content name definition : Json) : Except Error String := do
  return upsertType (← contentOf content) (← textOf name) (← textOf definition)

/-- Whether the file declares a constant, and the file with the constant for a range. -/
def upsertConstantJson (content name range : Json) : Except Error (Bool × String) := do
  let name ← textOf name
  let content ← textOf content
  let range ← range.asString
  return (hasConstant content name, upsertConstant content name range)

end SheetSchema.Code
