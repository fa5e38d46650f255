/-!
# Blank characters

The characters that surround a word without belonging to it: spaces of every width, tabs, line ends
and the information separators. `Text.trim` removes them at both ends, and a blank in the middle
stays. The zero-width space and the byte order mark are not blank.
-/

namespace SheetSchema.Text

/-- Code points of the blank characters. -/
def blanks : List Nat :=
  [0x09, 0x0A, 0x0B, 0x0C, 0x0D, 0x1C, 0x1D, 0x1E, 0x1F, 0x20, 0x85, 0xA0, 0x1680,
   0x2000, 0x2001, 0x2002, 0x2003, 0x2004, 0x2005, 0x2006, 0x2007, 0x2008, 0x2009, 0x200A,
   0x2028, 0x2029, 0x202F, 0x205F, 0x3000]

/-- Blank characters of every script. -/
def isBlank (c : Char) : Bool := blanks.contains c.toNat

/-- The text without the blanks at its end. -/
def trimEnd (s : List Char) : List Char := (s.reverse.dropWhile isBlank).reverse

/-- The text without the blanks at its ends. -/
def trim (s : List Char) : List Char := trimEnd (s.dropWhile isBlank)

end SheetSchema.Text

namespace SheetSchema

/-- A string without the blanks at its ends. -/
def trimmed (s : String) : String := String.ofList (Text.trim s.toList)

/-- Every character of the string is blank. -/
def isBlankText (s : String) : Bool := s.toList.all Text.isBlank

end SheetSchema
