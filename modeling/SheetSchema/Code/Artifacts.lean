import SheetSchema.Code.Declaration
import SheetSchema.Code.Repository
import SheetSchema.Files.Tree

/-!
# The files of a feature

`Artifacts.generate` makes everything that belongs to a feature: its two modules, its interface and
its range constant. A feature without a schema, or with one that has no fields, gets a skeleton
without interface and constant. Nothing is written until `Artifacts.write` puts the modules into a
tree of files and the declarations into the two shared files.
-/

namespace SheetSchema.Code

/-- What was generated for a feature. -/
structure Artifacts where
  names : FeatureName
  operationIds : List String
  /-- The modules by path. -/
  files : List (Path × String)
  /-- The interface, if there is a schema with fields. -/
  typeDefinition? : Option String
  /-- The name of the range constant, as it is given. -/
  rangeName : Json
  /-- The range of the constant, if there is a schema with fields. -/
  dataRange? : Option String
  /-- What was done, line by line. -/
  messages : List String
deriving DecidableEq, Inhabited

namespace Artifacts

/-- The name of the range: the one that is given, that of the schema, or that of the feature. -/
def rangeNameFor (names : FeatureName) (given : Json) (schema? : Option Schema) : Json :=
  Json.firstGiven (given :: (schema?.map Schema.rangeName).toList) (.str names.rangeName)

/-- The paths and texts of the two modules. -/
def modules (names : FeatureName) (repository timestamp : String) : List (Path × String) :=
  let folder := (Path.ofString "features").under (Path.ofString names.camel)
  [(folder.under (Path.ofString s!"Universal{names.pascal}Repo.ts"), repository),
   (folder.under (Path.ofString s!"{names.pascal}UseCase.ts"), useCase names timestamp)]

/-- Generate a feature. -/
def generate (feature : String) (ids : List String) (schema? : Option Schema) (rangeName : Json)
    (timestamp : String) : Except Error Artifacts := do
  let names := FeatureName.ofString feature
  let rangeName := rangeNameFor names rangeName schema?
  schema?.forM Schema.validate
  let made ← match schema?.filter fun s => !s.fields.isEmpty with
    | some s => do
      let repository ← repository names s rangeName timestamp ids
      let dataRange ← s.dataRange true
      pure (repository, some (s.typeDefinition names.pascal), some dataRange, ids.length)
    | none => pure (skeleton names timestamp, none, none, 0)
  let (repository, typeDefinition?, dataRange?, count) := made
  return {
    names, operationIds := ids, typeDefinition?, rangeName, dataRange?
    files := modules names repository timestamp
    messages := [s!"Scaffolding feature: {names.pascal}",
      "Using operations: " ++ String.intercalate ", " ids, s!"Generated {count} operations"] }

/-- The id that a selected item is. -/
def idOf : Json → Except Error String
  | .str id => .ok id
  | _ => .error .wrongKind

/-- Generate a feature with the operations that a value selects. Any value that counts as given has
a text to name the feature. -/
def scaffold (feature operations : Json) (schema? : Option Schema) (rangeName : Json)
    (timestamp : String) : Except Error Artifacts := do
  if !feature.truthy then throw .featureNameMissing
  let ids ← (← Operation.resolveJson operations).mapM idOf
  generate feature.text ids schema? rangeName timestamp

/-! ## Writing -/

/-- The shared file of interfaces. -/
def typesPath : Path := Path.ofString "core/types.ts"

/-- The shared file of range constants. -/
def constantsPath : Path := Path.ofString "core/constants.ts"

/-- What writing tells: the paths written, and what was done line by line. -/
structure Written where
  paths : List Path
  messages : List String
deriving DecidableEq

/-- One more path written. -/
def Written.add (w : Written) (path : Path) (message : String) : Written :=
  ⟨w.paths ++ [path], w.messages ++ [message]⟩

/-- Write a module below `root`. -/
def writeModule (root : Path) (w : Written) (file : Path × String) : FileWork Written := do
  let path := root.under file.1
  FileWork.write path file.2
  return w.add path s!"Created: {path.text}"

/-- Declare the interface below `root`, if there is one. -/
def writeType (a : Artifacts) (root : Path) (w : Written) : FileWork Written :=
  match a.typeDefinition? with
  | some definition => do
    let path := root.under typesPath
    FileWork.change path fun content => .ok (upsertType content a.names.pascal definition)
    return w.add path s!"Updated core types: {a.names.pascal}"
  | none => return w

/-- Declare the range constant below `root`, if there is one. -/
def writeConstant (a : Artifacts) (root : Path) (w : Written) : FileWork Written :=
  match a.dataRange? with
  | some range => do
    let path := root.under constantsPath
    FileWork.change path fun content => upsertConstantOf content a.rangeName range
    return w.add path s!"Updated core constants: {a.rangeName.text}"
  | none => return w

/-- Write the modules and declare the interface and the constant below `root`. -/
def write (a : Artifacts) (root : Path) : FileWork Written := do
  let w ← a.files.foldlM (writeModule root) ⟨[], a.messages⟩
  writeConstant a root (← writeType a root w)

end Artifacts

end SheetSchema.Code
