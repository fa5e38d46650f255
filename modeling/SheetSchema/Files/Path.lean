import SheetSchema.Text.Split

/-!
# Paths

A path is a list of names, from the root of all files or from wherever it is used. Empty names and
names for the same place vanish; two dots, which name the folder above, are kept, since what they
mean is only known where the path is followed. A path that starts at the root replaces what stands
before it. The root is written with one slash, or with exactly two, and keeps its spelling.
-/

namespace SheetSchema

/-- Where a path starts. -/
inductive PathStart where
  | here
  | root
  /-- The root, written with two slashes. -/
  | doubleRoot
deriving DecidableEq, Repr, Inhabited

namespace PathStart

/-- The start that some slashes mean. -/
def ofSlashes : (count : Nat) → PathStart
  | 0 => here
  | 2 => doubleRoot
  | _ => root

/-- The text of the start. -/
def text : PathStart → String
  | here => ""
  | root => "/"
  | doubleRoot => "//"

end PathStart

/-- A path to a file. -/
structure Path where
  start : PathStart
  names : List String
deriving DecidableEq, Repr, Inhabited

namespace Path

/-- The name of the folder above. -/
def parentName : String := ".."

/-- Read a path. -/
def ofString (s : String) : Path :=
  let names := (Text.splitOn '/' s.toList).map String.ofList
  ⟨.ofSlashes (s.toList.takeWhile (· = '/')).length, names.filter fun n => n != "" && n != "."⟩

/-- The path `p` as seen from `base`. -/
def under (base p : Path) : Path :=
  match p.start with
  | .here => { base with names := base.names ++ p.names }
  | _ => p

/-- The folder that the path stands in. -/
def folder (p : Path) : Path := { p with names := p.names.dropLast }

/-- The text of the path. -/
def text (p : Path) : String :=
  let s := p.start.text ++ String.intercalate "/" p.names
  if s = "" then "." else s

end Path

end SheetSchema
