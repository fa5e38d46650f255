import SheetSchema.Text.Class

/-!
# Displayed texts

How a text is shown inside a message: between quotes, on one line, with every character that cannot
be seen written by its code point. Single quotes are used unless the text holds one and no double
quote. The quote in use, the backslash, line ends and tabs are escaped by a backslash; any other
character that is not printable becomes `\xhh`, `\uhhhh` or `\Uhhhhhhhh`, whichever is the first to
fit.
-/

namespace SheetSchema.Text

/-- The number in at least `width` hexadecimal digits. -/
def hex (width n : Nat) : List Char :=
  let digits := Nat.toDigits 16 n
  List.replicate (width - digits.length) '0' ++ digits

/-- A character by its code point. -/
def codePointEscape (n : Nat) : List Char :=
  if n < 0x100 then '\\' :: 'x' :: hex 2 n
  else if n < 0x10000 then '\\' :: 'u' :: hex 4 n
  else '\\' :: 'U' :: hex 8 n

/-- A character between the quotes `quote`. -/
def displayChar (quote c : Char) : List Char :=
  if c = quote ∨ c = '\\' then ['\\', c]
  else if c = '\n' then ['\\', 'n']
  else if c = '\r' then ['\\', 'r']
  else if c = '\t' then ['\\', 't']
  else if isPrintable c then [c]
  else codePointEscape c.toNat

/-- The quote that needs fewer escapes. -/
def quoteFor (s : List Char) : Char := if '\'' ∈ s ∧ '"' ∉ s then '"' else '\''

/-- The text as a message shows it. -/
def display (s : List Char) : List Char :=
  let quote := quoteFor s
  quote :: s.flatMap (displayChar quote) ++ [quote]

end SheetSchema.Text

namespace SheetSchema

/-- A string as a message shows it. -/
def displayed (s : String) : String := String.ofList (Text.display s.toList)

end SheetSchema
