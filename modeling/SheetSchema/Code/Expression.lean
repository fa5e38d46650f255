import SheetSchema.Schema.Field

/-!
# Expressions of generated code

Texts are embedded in generated code between single quotes. Inside them the backslash, the single
quote and the line feed are escaped, and every other character stands for itself.

Generated code turns a cell into an attribute and back by an expression over an accessor such as
`row[2]`. A boolean field with sentinels compares the cell with the first one and writes one of the
two, any other boolean field asks whether the cell is empty, numbers are parsed, and the rest is
passed on. Dates are strings.
-/

namespace SheetSchema

/-! ## Literals -/

namespace Code

/-- A character inside a literal. -/
def literalChar (c : Char) : List Char :=
  if c = '\\' then ['\\', '\\']
  else if c = '\'' then ['\\', '\'']
  else if c = '\n' then ['\\', 'n']
  else [c]

/-- The literal of a text. -/
def literalChars (s : List Char) : List Char := '\'' :: s.flatMap literalChar ++ ['\'']

/-- The literal of a string. -/
def literal (s : String) : String := String.ofList (literalChars s.toList)

end Code

/-! ## Conversions -/

namespace Field

/-- The expression for the attribute whose cell is at `accessor`. -/
def decodeExpression (f : Field) (accessor : String) : String :=
  if f.type = .boolean then
    match f.sentinels? with
    | some (yes, _) => s!"{accessor} === {Code.literal yes}"
    | none => s!"Boolean({accessor})"
  else if f.type = .number then s!"Number({accessor})"
  else accessor

/-- The expression for the cell whose attribute is at `accessor`. -/
def encodeExpression (f : Field) (accessor : String) : String :=
  match f.sentinels? with
  | some (yes, no) => s!"{accessor} ? {Code.literal yes} : {Code.literal no}"
  | none => accessor

/-- The type of the attribute in generated code. -/
def codeType (f : Field) : String := if f.type = .date then "string" else f.type.name

end Field

end SheetSchema
