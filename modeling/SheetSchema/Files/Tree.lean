import SheetSchema.Error
import SheetSchema.Files.Path

/-!
# Files and folders

A `FileTree` holds folders and the texts of files by their places. A path is followed name by name,
and two dots lead to the folder above. A file is read with line feeds as its only line ends,
whatever it holds, and a file that does not exist reads as empty. Files are written as they are, and
the folders on the way to a file are made where they are missing.

Work on files is a `FileWork`: when it fails, what it has written stays written. A file cannot stand
where a folder is needed, nor a folder where a file is, and names may not be too long.
-/

namespace SheetSchema

/-- Line feeds in the place of all line ends. -/
def Text.unifyLineEnds : List Char → List Char
  | '\r' :: '\n' :: rest => '\n' :: unifyLineEnds rest
  | '\r' :: rest => '\n' :: unifyLineEnds rest
  | c :: rest => c :: unifyLineEnds rest
  | [] => []

/-- A string with line feeds as its only line ends. -/
def unifiedLines (s : String) : String := String.ofList (Text.unifyLineEnds s.toList)

/-- A place in a tree: the names on the way to it, the last one first. -/
abbrev Location := List String

/-- Folders and the texts of files by their places. -/
structure FileTree where
  folders : List Location := []
  files : List (Location × String) := []
deriving DecidableEq, Inhabited

namespace FileTree

/-- A folder stands at the place; the top is one. -/
def isFolder (tree : FileTree) (place : Location) : Bool := place.isEmpty || place ∈ tree.folders

/-- The text of the file at a place. -/
def file? (tree : FileTree) (place : Location) : Option String := tree.files.lookup place

/-- The tree with one more folder. -/
def addFolder (tree : FileTree) (place : Location) : FileTree :=
  { tree with folders := tree.folders ++ [place] }

/-- The tree with a file, in the place of an earlier one. -/
def putFile (tree : FileTree) (place : Location) (text : String) : FileTree :=
  { tree with files := tree.files.filter (·.1 != place) ++ [(place, text)] }

/-- What a path leads to. -/
inductive Target where
  | folder (place : Location)
  | file (text : String)
  | nothing
deriving DecidableEq, Repr

/-- Follow names from a folder. -/
def followFrom (tree : FileTree) (place : Location) : List String → Target
  | [] => .folder place
  | name :: rest =>
    if name = Path.parentName then tree.followFrom place.tail rest
    else if tree.isFolder (name :: place) then tree.followFrom (name :: place) rest
    else
      match rest, tree.file? (name :: place) with
      | [], some text => .file text
      | _, _ => .nothing

/-- Follow a path. -/
def follow (tree : FileTree) (path : Path) : Target := tree.followFrom [] path.names

/-- Something stands where the path leads. -/
def has (tree : FileTree) (path : Path) : Bool := tree.follow path != .nothing

/-- The files below a folder, with their paths from there. -/
def below (tree : FileTree) (folder : Path) : List (Path × String) :=
  match tree.follow folder with
  | .folder place =>
    tree.files.filterMap fun (file, text) =>
      let names := file.reverse
      let base := place.reverse
      if base.isPrefixOf names then some (⟨.here, names.drop base.length⟩, unifiedLines text)
      else none
  | _ => []

end FileTree

/-- Work on files. -/
abbrev FileWork (α : Type) := ExceptT Error (StateM FileTree) α

namespace FileWork

/-- The number of bytes that a name may have. -/
def maxName : Nat := 255

/-- The number of bytes that a path may have. -/
def maxPath : Nat := 4095

/-- The name can be given to a file or folder. -/
def checkName (name : String) : Except Error Unit :=
  if name.utf8ByteSize ≤ maxName then .ok () else .error .fileNameTooLong

/-- The path can be followed. -/
def checkPath (path : Path) : Except Error Unit :=
  if path.names.any fun name => name.toList.contains '\x00' then .error .embeddedNul
  else if path.text.utf8ByteSize ≤ maxPath then .ok () else .error .fileNameTooLong

/-- The text of a file as it is read. -/
def read (path : Path) : FileWork String := do
  match (← get).follow path with
  | .file text => return unifiedLines text
  | .folder _ => throw .folderInTheWay
  | .nothing => return ""

/-- Make the folders that some names lead to from the folder at `place`. A file among them is in the
way; if no folder was made before it, it is an attempt to look into a file. -/
def makeFoldersFrom (place : Location) (made : Bool) : List String → FileWork Location
  | [] => return place
  | name :: rest => do
    if name = Path.parentName then makeFoldersFrom place.tail made rest
    else
      let next := name :: place
      let tree ← get
      if tree.isFolder next then makeFoldersFrom next made rest
      else if (tree.file? next).isSome then
        throw (if rest.isEmpty || made then .fileInTheWay else .fileAmongFolders)
      else
        liftM (checkName name)
        set (tree.addFolder next)
        makeFoldersFrom next true rest

/-- Make a folder and those above it, where they are missing. -/
def makeFolders (path : Path) : FileWork Location := do
  liftM (checkPath path)
  makeFoldersFrom [] false path.names

/-- Write a file, and make its folder. -/
def write (path : Path) (text : String) : FileWork Unit := do
  let folder ← makeFolders path.folder
  let some name := path.names.getLast? | throw .folderInTheWay
  let place := name :: folder
  let tree ← get
  if tree.isFolder place then throw .folderInTheWay
  liftM (checkName name)
  set (tree.putFile place text)

/-- Give a file the text that its text changes to. -/
def change (path : Path) (f : String → Except Error String) : FileWork Unit := do
  write path (← liftM (f (← read path)))

end FileWork

end SheetSchema
