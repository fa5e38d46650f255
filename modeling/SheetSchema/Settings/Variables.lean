import SheetSchema.Entries
import SheetSchema.Files.Tree
import SheetSchema.Text.Blank
import SheetSchema.Text.Split

/-!
# Files of variables

A file of variables is a sequence of bindings `NAME=value`, perhaps after the word `export`. A value
stands in single quotes, in double quotes or in none; inside quotes it may go over several lines,
and without quotes it ends before a comment or with its line. A name alone is declared without a
value. Blank lines and comment lines bind nothing, and where a binding has another form, the rest of
its line is skipped (`Variables.ofText`).

A value may mention variables as `${NAME}` or `${NAME:-default}`. They stand for the variables of
the environment, or else for earlier bindings (`Variables.resolve`). The last binding of a name
counts.
-/

namespace SheetSchema.Variables

/-! ## Quoted values -/

/-- A character in front of the first part. -/
def prepend (c : Char) : List Char × List Char → List Char × List Char
  | (s, rest) => (c :: s, rest)

/-- The text up to the first quote that no backslash precedes, and what follows the quote. -/
def toFreeQuote? (quote : Char) : List Char → Option (List Char × List Char)
  | [] => none
  | '\\' :: c :: rest =>
    if c = quote then (toFreeQuote? quote rest).map (prepend '\\' ∘ prepend c)
    else (toFreeQuote? quote (c :: rest)).map (prepend '\\')
  | c :: rest => if c = quote then some ([], rest) else (toFreeQuote? quote rest).map (prepend c)

/-- The text up to the last quote that a backslash precedes, and what follows the quote. -/
def toLastQuote? (quote : Char) : List Char → Option (List Char × List Char)
  | [] => none
  | '\\' :: c :: rest =>
    match toLastQuote? quote (c :: rest) with
    | some found => some (prepend '\\' found)
    | none => if c = quote then some (['\\'], rest) else none
  | c :: rest => (toLastQuote? quote rest).map (prepend c)

/-- The text up to the closing quote, and what follows the quote. -/
def toQuote? (quote : Char) (s : List Char) : Option (List Char × List Char) :=
  (toFreeQuote? quote s).or (toLastQuote? quote s)

/-- The escapes inside double quotes. -/
def doubleQuoteEscapes : List (Char × Char) :=
  [('\\', '\\'), ('\'', '\''), ('"', '"'), ('a', '\x07'), ('b', '\x08'), ('f', '\x0c'),
   ('n', '\n'), ('r', '\r'), ('t', '\t'), ('v', '\x0b')]

/-- The escapes inside single quotes. -/
def singleQuoteEscapes : List (Char × Char) := [('\\', '\\'), ('\'', '\'')]

/-- The text with its escapes replaced. -/
def unescape (escapes : List (Char × Char)) : List Char → List Char
  | [] => []
  | '\\' :: c :: rest =>
    match escapes.lookup c with
    | some d => d :: unescape escapes rest
    | none => '\\' :: unescape escapes (c :: rest)
  | c :: rest => c :: unescape escapes rest

/-- The value in quotes, and what follows it. -/
def readQuoted? (quote : Char) (escapes : List (Char × Char)) (s : List Char) :
    Option (List Char × List Char) :=
  (toQuote? quote s).map fun (value, rest) => (unescape escapes value, rest)

/-! ## Bindings -/

/-- A blank that does not end the line. -/
def isLineBlank (c : Char) : Bool := Text.isBlank c && c != '\n'

/-- The text before a comment, which starts after a blank. -/
def withoutComment : List Char → List Char
  | [] => []
  | c :: rest =>
    if Text.isBlank c && (rest.dropWhile Text.isBlank).head? == some '#' then []
    else c :: withoutComment rest

/-- What follows the end of this line. -/
def afterLine (s : List Char) : List Char := (s.dropWhile (· != '\n')).tail

/-- What follows the end of this line, which may hold nothing but a comment. -/
def afterEnd? (s : List Char) : Option (List Char) :=
  match s.dropWhile isLineBlank with
  | [] => some []
  | '\n' :: rest => some rest
  | '#' :: rest => some (afterLine rest)
  | _ => none

/-- The value in the rest of this line, and what follows it. -/
def readPlain (s : List Char) : List Char × List Char :=
  (Text.trim (withoutComment (s.takeWhile (· != '\n'))), s.dropWhile (· != '\n'))

/-- The value after the sign of equality, and what follows it. -/
def readValue? (s : List Char) : Option (List Char × List Char) :=
  match s.dropWhile isLineBlank with
  | '\'' :: rest => readQuoted? '\'' singleQuoteEscapes rest
  | '"' :: rest => readQuoted? '"' doubleQuoteEscapes rest
  | _ => some (readPlain s)

/-- What follows the word `export`, if a binding starts with it. -/
def withoutExport (s : List Char) : List Char :=
  match Text.afterPrefix? "export".toList s with
  | some (c :: rest) => if isLineBlank c then rest.dropWhile isLineBlank else s
  | _ => s

/-- A character of a name. -/
def isNameChar (c : Char) : Bool := c != '=' && c != '#' && !Text.isBlank c

/-- The name at the start of a binding, which must not be empty, and what follows it. -/
def readName? (s : List Char) : Option (List Char × List Char) :=
  let found := match s with
    | '\'' :: rest => Text.breakOn? ['\''] rest
    | s => some (s.takeWhile isNameChar, s.dropWhile isNameChar)
  found.filter fun (name, _) => !name.isEmpty

/-- A name with its value, if it has one. -/
abbrev Binding := String × Option String

/-- The binding of a name before the rest of the text, and what follows it. Where it has no proper
form, nothing is bound and the rest of the line is skipped. -/
def readBinding (name s : List Char) : Option Binding × List Char :=
  match s.dropWhile isLineBlank with
  | '=' :: after =>
    match readValue? after with
    | some (value, rest) =>
      match afterEnd? rest with
      | some next => (some (String.ofList name, some (String.ofList value)), next)
      | none => (none, afterLine rest)
    | none => (none, afterLine after)
  | rest =>
    match afterEnd? rest with
    | some next => (some (String.ofList name, none), next)
    | none => (none, afterLine rest)

/-- The next binding, and what follows it. -/
def next (s : List Char) : Option Binding × List Char :=
  match s with
  | '#' :: rest => (none, afterLine rest)
  | s =>
    match readName? (withoutExport s) with
    | some (name, rest) => readBinding name rest
    | none => (none, afterLine (withoutExport s))

/-- The bindings in a text, of which there are at most as many as the fuel says. -/
def bindingsFrom : (fuel : Nat) → List Char → List Binding
  | 0, _ => []
  | fuel + 1, s =>
    match s.dropWhile Text.isBlank with
    | [] => []
    | s =>
      let (binding?, rest) := next s
      binding?.toList ++ bindingsFrom fuel rest

/-- The mark that may stand at the start of a file. -/
def byteOrderMark : Char := '\uFEFF'

/-- The text without a byte order mark. -/
def withoutMark : List Char → List Char
  | c :: rest => if c = byteOrderMark then rest else c :: rest
  | [] => []

/-- The bindings of a file, in order. -/
def ofText (text : String) : List Binding :=
  let s := withoutMark (unifiedLines text).toList
  bindingsFrom s.length s

/-! ## Mentions of variables -/

/-- A part of a value: text, or the mention of a variable with the text that stands for it where it
has no value. -/
inductive Part where
  | text (c : Char)
  | mention (name default : List Char)
deriving DecidableEq, Repr

/-- The mention that starts here, and what follows it. -/
def readMention? (s : List Char) : Option (Part × List Char) := do
  let rest ← Text.afterPrefix? ['$', '\x7b'] s
  let isName := fun (c : Char) => c != '\x7d' && c != ':'
  let name := rest.takeWhile isName
  match rest.dropWhile isName with
  | '\x7d' :: rest => return (.mention name [], rest)
  | ':' :: '-' :: rest =>
    let (default, rest) ← Text.breakOn? ['\x7d'] rest
    return (.mention name default, rest)
  | _ => none

/-- The parts of a value, of which there are at most as many as the fuel says. -/
def partsFrom : (fuel : Nat) → List Char → List Part
  | 0, _ => []
  | _, [] => []
  | fuel + 1, c :: rest =>
    match readMention? (c :: rest) with
    | some (mention, rest) => mention :: partsFrom fuel rest
    | none => .text c :: partsFrom fuel rest

/-- The parts of a value. -/
def parts (value : String) : List Part := partsFrom value.length value.toList

/-- The text of a part, where `find?` tells the values of variables. -/
def Part.resolve (find? : String → Option String) : Part → List Char
  | text c => [c]
  | mention name default =>
    match find? (String.ofList name) with
    | some value => value.toList
    | none => default

/-- The variables as they are known in the environment and after some bindings. A variable that is
declared without a value is an empty text. -/
def known (environment : Entries String) (bound : Entries (Option String)) (name : String) :
    Option String :=
  (environment.get? name).or ((bound.get? name).map (·.getD ""))

/-- The bindings with all mentions resolved; the last one of a name counts. -/
def resolve (environment : Entries String) (bindings : List Binding) : Entries (Option String) :=
  bindings.foldl (fun bound (name, value?) =>
    bound.put name (value?.map fun value =>
      String.ofList ((parts value).flatMap (Part.resolve (known environment bound))))) []

/-- The variables that bindings add to the environment. -/
def added (environment : Entries String) (bindings : List Binding) : Entries String :=
  (resolve environment bindings).filterMap fun (name, value?) =>
    if environment.has name then none else value?.map fun value => (name, value)

/-- The text holds the null character. -/
def holdsNul (s : String) : Bool := s.toList.contains '\x00'

/-- A variable that can be set: without the null character, and without a sign of equality in its
name. -/
def settable (binding : String × String) : Except Error (String × String) :=
  if holdsNul binding.1 || holdsNul binding.2 then .error .embeddedNul
  else if binding.1.toList.contains '=' then .error .illegalVariableName
  else .ok binding

/-- The variables of the environment, and those of a file that the environment leaves open. -/
def overlay (environment : Entries String) (bindings : List Binding) :
    Except Error (Entries String) := do
  return environment ++ (← (added environment bindings).mapM settable)

end SheetSchema.Variables
