import SheetSchema.Text.Blank

/-!
# Identifiers from free text

Header texts become identifiers in lower camel case. The words of a text are its runs of ASCII
letters and digits (`Name.words`); the first word is written small, and every other one starts with
a capital. A text that already is in lower camel case stays as it is. Texts without a word, and
texts whose first word starts with a digit, give no identifier, and a fallback takes its place.
-/

namespace SheetSchema.Name

/-- A small letter followed by letters and digits. -/
def isLowerCamel : List Char → Bool
  | [] => false
  | c :: rest => c.isLower && rest.all Char.isAlphanum

/-- The runs of ASCII letters and digits. -/
def words : List Char → List (List Char)
  | [] => []
  | c :: rest =>
    if !c.isAlphanum then words rest
    else if rest.head?.any Char.isAlphanum then
      match words rest with
      | word :: more => (c :: word) :: more
      | [] => [[c]]
    else [c] :: words rest

/-- A word in small letters. -/
def small (word : List Char) : List Char := word.map Char.toLower

/-- A word in small letters after a capital. -/
def title : List Char → List Char
  | [] => []
  | c :: rest => c.toUpper :: small rest

/-- The identifier of trimmed text. -/
def camelTrimmed? (s : List Char) : Option (List Char) :=
  if isLowerCamel s then some s
  else
    match words s with
    | [] => none
    | first :: more =>
      if first.head?.any Char.isDigit then none else some (small first ++ more.flatMap title)

/-- The identifier of a text. -/
def camelCase? (text : String) : Option String :=
  (camelTrimmed? (Text.trim text.toList)).map String.ofList

/-- The identifier of a text, or the fallback. -/
def camelCase (text fallback : String) : String := (camelCase? text).getD fallback

end SheetSchema.Name
