import SheetSchema.A1.Cell
import SheetSchema.Json.Access

/-!
# Ranges with their sheet

A range of cells is qualified by the name of its sheet, `Tasks!A2:C`. Range texts arrive from shells
and from tools: `A1.normalize` removes surrounding blanks, the shell's escape before the separator
and one pair of quotes around the whole text, but leaves the quotes of a sheet name alone.
`A1.split` takes a normalized text apart at the first separator, and `A1.range` writes one, quoting
the sheet name where it needs it (`A1.quoteSheet`).
-/

namespace SheetSchema.A1

/-- The separator without the backslash that a shell demands before it. -/
def unescapeSeparator : List Char → List Char
  | '\\' :: '!' :: rest => '!' :: unescapeSeparator rest
  | c :: rest => c :: unescapeSeparator rest
  | [] => []

/-- Remove one pair of the quote `quote` around the text, unless that quote closes a sheet name. -/
def unwrap (quote : Char) (s : List Char) : List Char :=
  if Text.isQuotedBy quote s && !Text.occursIn [quote, '!'] s.dropLast then Text.trim (Text.inner s)
  else s

/-- Clean up a range text. -/
def normalizeChars (raw : List Char) : List Char :=
  let s := unescapeSeparator (Text.trim raw)
  match s.head? with
  | some '\'' => unwrap '\'' s
  | some '"' => unwrap '"' s
  | _ => s

/-- Clean up a range text as it was received. -/
def normalize (raw : String) : String := String.ofList (normalizeChars raw.toList)

/-- The sheet name and the cells of a normalized range text. -/
def splitChars (s : List Char) : Except Error (List Char × List Char) :=
  match Text.breakOn? ['!'] s with
  | none => .error .unqualifiedRange
  | some (before, after) =>
    let sheet := unquoteSheet (Text.trim before)
    let cells := Text.trim after
    if sheet.isEmpty || cells.isEmpty then .error .unqualifiedRange else .ok (sheet, cells)

/-- The sheet name and the cells of a normalized range text. -/
def split (text : String) : Except Error (String × String) :=
  (splitChars text.toList).map fun (sheet, cells) => (String.ofList sheet, String.ofList cells)

/-- Characters that a sheet name may hold without quotes. -/
def isPlain (c : Char) : Bool := c.isAlphanum || c == '_'

/-- Every quote twice. -/
def double (s : List Char) : List Char := s.flatMap fun c => if c = sheetQuote then [c, c] else [c]

/-- A trimmed sheet name as it stands before the separator. -/
def quoteTrimmed (s : List Char) : List Char :=
  if s.all isPlain then s else sheetQuote :: double s ++ [sheetQuote]

/-- A sheet name as it stands before the separator. -/
def quoteSheet (name : String) : String := String.ofList (quoteTrimmed (Text.trim name.toList))

/-- The range between two corners of a sheet. -/
def range (sheet first last : String) : String := s!"{sheet}!{first}:{last}"

/-- A sheet name in front of a range, quoted if asked for. -/
def sheetPart (sheet : String) (quote : Bool) : String := if quote then quoteSheet sheet else sheet

/-- A corner: column letters and a row number, which must not be too long. -/
def corner (column : String) (row : Int) : Except Error String := do
  return column ++ (← writeInt row)

/-- The range from a cell down to a row, or without end, over the columns up to `lastColumn`. -/
def rangeOf (sheet firstColumn : String) (firstRow : Int) (lastColumn : String)
    (lastRow? : Option Int) (quote : Bool) : Except Error String := do
  let first ← corner firstColumn firstRow
  let last ← match lastRow? with
    | some row => corner lastColumn row
    | none => pure lastColumn
  return range (sheetPart sheet quote) first last

/-- A sheet name in front of a range; only a text can be quoted. -/
def sheetPartOf (sheet : Json) (quote : Bool) : Except Error String :=
  if quote then do return quoteSheet (← sheet.asString) else .ok sheet.text

/-- The range over anything that has a text. A last row that is not given leaves the range without
end. -/
def rangeOfJson (sheet firstColumn firstRow lastColumn lastRow : Json) (quote : Bool) :
    Except Error String := do
  let sheet ← sheetPartOf sheet quote
  let first := firstColumn.text ++ (← writeText firstRow)
  let last ← if lastRow.present then writeText lastRow else pure ""
  return range sheet first (lastColumn.text ++ last)

end SheetSchema.A1
