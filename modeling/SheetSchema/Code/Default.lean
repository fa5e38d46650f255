import SheetSchema.Json.Display
import SheetSchema.Schema.Basic
import SheetSchema.Text.Case
import SheetSchema.Text.Split

/-!
# Default values

A new entity starts with default values. A `DefaultRule` gives the expression for the fields whose
name its pattern matches; the built-in rules come before those of the caller, and the first match
wins. A boolean field without a rule starts as false, and any other field without one has no
default.

A pattern is a whole name, or a word to search for, possibly bound to the start or the end of the
name. The end of a name is also seen before a line end that closes it.
-/

namespace SheetSchema

/-- Which field names a rule is for. -/
inductive NamePattern where
  | exact (name : String)
  | search (word : String) (atStart atEnd ignoreCase : Bool)
deriving DecidableEq, Repr

namespace NamePattern

/-- The small letter by which characters of either case are compared. -/
def foldCase (c : Char) : Char :=
  match (Text.lowerChar c).head? with
  | some 'ı' => 'i'
  | some 'ſ' => 's'
  | some l => l
  | none => c

/-- A text by which texts of either case are compared, if asked for. -/
def folded (ignoreCase : Bool) (s : List Char) : List Char :=
  if ignoreCase then s.map foldCase else s

/-- `word` starts here, and ends at the end of the name if `atEnd`. -/
def matchesHere (word : List Char) (atEnd : Bool) (s : List Char) : Bool :=
  match Text.afterPrefix? word s with
  | some rest => !atEnd || rest.isEmpty || rest == ['\n']
  | none => false

/-- `word` starts here or further on. -/
def matchesFrom (word : List Char) (atEnd : Bool) : List Char → Bool
  | [] => matchesHere word atEnd []
  | c :: rest => matchesHere word atEnd (c :: rest) || matchesFrom word atEnd rest

/-- The name is one that the pattern is for. -/
def isFor (p : NamePattern) (name : String) : Bool :=
  match p with
  | exact expected => name == expected
  | search word atStart atEnd ignoreCase =>
    let w := folded ignoreCase word.toList
    let s := folded ignoreCase name.toList
    if atStart then matchesHere w atEnd s else matchesFrom w atEnd s

/-- A word to search for, where a caret before it means the start and a dollar sign after it the
end. -/
def ofSearch (text : String) (ignoreCase : Bool) : NamePattern :=
  let s := text.toList
  let atStart := s.head? == some '^'
  let s := if atStart then s.tail else s
  let atEnd := s.getLast? == some '$'
  .search (String.ofList (if atEnd then s.dropLast else s)) atStart atEnd ignoreCase

end NamePattern

/-- An expression for the fields of a pattern. -/
structure DefaultRule where
  pattern : NamePattern
  /-- The expression for a field of this name and in this column. -/
  value : (name column : String) → Json

namespace DefaultRule

/-- A rule with the same expression for all fields. -/
def constant (pattern : NamePattern) (value : Json) : DefaultRule := ⟨pattern, fun _ _ => value⟩

/-- Identifiers are generated, and the times of creation and change are now. -/
def builtIn : List DefaultRule :=
  [constant (.exact "id") (.str "generateUuid()"),
   constant (.search "createdAt" true true true) (.str "new Date().toISOString()"),
   constant (.search "updatedAt" true true true) (.str "new Date().toISOString()")]

/-- The default of a field by the first rule that is for it; a boolean field without one starts as
false. -/
def default? (rules : List DefaultRule) (name column : String) (isBoolean : Bool) : Option Json :=
  match rules.find? fun r => r.pattern.isFor name with
  | some rule => some (rule.value name column)
  | none => if isBoolean then some (.bool false) else none

end DefaultRule

namespace Schema

/-- The default of a field, if it has one. -/
def defaultOf? (rules : List DefaultRule) (f : Field) : Option Json :=
  DefaultRule.default? rules f.name f.column (f.type = .boolean)

/-- The defaults by name, in canonical order. -/
def defaults (s : Schema) (custom : List DefaultRule) : Entries Json :=
  s.ordered.foldl (fun acc f =>
    match defaultOf? (DefaultRule.builtIn ++ custom) f with
    | some value => acc.put f.name value
    | none => acc) []

end Schema

/-- A default as generated code writes it. -/
def defaultText : Json → String
  | .bool true => "true"
  | .bool false => "false"
  | value => value.text

/-- The entry of an object literal for a default. -/
def defaultLine (name : String) (value : Json) : String := s!"    {name}: {defaultText value},"

/-- The defaults as the entries of an object literal. -/
def renderDefaults (defaults : Entries Json) : String :=
  String.intercalate "\n" (defaults.map fun (name, value) => defaultLine name value)

end SheetSchema
