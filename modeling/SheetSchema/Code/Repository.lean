import SheetSchema.Code.Catalog
import SheetSchema.Code.Default
import SheetSchema.Code.Mapper

/-!
# Modules of a feature

A feature consists of two modules. The repository module holds the row mappers, the guards, the
default values and the selected operations, and returns what it exports; without a schema it is a
skeleton that exports nothing. The use-case module passes the repository on.
-/

namespace SheetSchema.Code

/-- What a repository exports besides its operations. -/
def ownExports : List String := ["validate", "defaults"]

/-- The line that says when a module was made. -/
def stamp (timestamp : String) : String := s!"// Generated by sheetcraft at {timestamp}"

/-- The function that makes identifiers. -/
def uuidLines : List String := [
  "",
  "function generateUuid(): string \x7b",
  "  if (typeof Utilities !== 'undefined') \x7b",
  "    return Utilities.getUuid();",
  "  \x7d",
  "  return crypto.randomUUID();",
  "\x7d",
  ""]

/-- The line that opens a repository. -/
def repositoryStart (names : FeatureName) : String :=
  s!"export const createUniversal{names.pascal}Repo = (spreadsheetId: string) => \x7b"

/-- Lines that are left out when they are empty. -/
def unlessEmpty (lines : String) : List String := if lines = "" then [] else [lines]

/-- The lines between the opening of a repository and its operations. -/
def mapperLines (names : FeatureName) (s : Schema) : Except Error (List String) := do
  let fromRow ← s.rowToObject names.pascal
  let toRow ← s.objectToRow names.camel
  return [fromRow, "", toRow, "",
      s!"  const validate = (data: Partial<{names.pascal}>): void => \x7b"] ++
    unlessEmpty s.validation ++
    ["  \x7d;", "", s!"  const defaults = (): Partial<{names.pascal}> => (\x7b"] ++
    unlessEmpty (renderDefaults (s.defaults [])) ++ ["  \x7d);"]

/-- The lines that return what a repository exports. -/
def exportLines (ids : List String) : List String :=
  ["", "    return \x7b",
    "      " ++ String.intercalate ",\n      "
      (ownExports ++ unlessEmpty (Operation.exportsList ids)),
    "    \x7d;"]

/-- Lines, each with a line end. -/
def moduleText (lines : List String) : String := String.intercalate "\n" lines ++ "\n"

/-- The repository module of a schema with fields. -/
def repository (names : FeatureName) (s : Schema) (rangeName : Json) (timestamp : String)
    (ids : List String) : Except Error String := do
  let mappers ← mapperLines names s
  let ctx : Context := ⟨FeatureName.ofString names.pascal, some s, rangeName, []⟩
  let operations ← ids.mapM (Operation.code ctx)
  return moduleText <|
    [stamp timestamp, "import \x7b SheetsClient \x7d from '../../core/client';",
      s!"import \x7b {names.pascal} \x7d from '../../core/types';",
      s!"import \x7b {rangeName.text} \x7d from '../../core/constants';"] ++
    uuidLines ++ [repositoryStart names] ++ mappers ++ operations ++
    exportLines ids ++ ["\x7d;"]

/-- The repository module without a schema. -/
def skeleton (names : FeatureName) (timestamp : String) : String :=
  moduleText <|
    [stamp timestamp, "import \x7b SheetsClient \x7d from '../../core/client';"] ++
    uuidLines ++ [repositoryStart names, "  return \x7b\x7d;", "\x7d;"]

/-- The use-case module. -/
def useCase (names : FeatureName) (timestamp : String) : String :=
  let create := s!"createUniversal{names.pascal}Repo"
  moduleText [
    stamp timestamp,
    s!"import \x7b {create} \x7d from './Universal{names.pascal}Repo';",
    "",
    s!"export const create{names.pascal}UseCase = (spreadsheetId: string) => \x7b",
    s!"  const repo = {create}(spreadsheetId);",
    "  return \x7b",
    "    ...repo,",
    "  \x7d;",
    "\x7d;"]

end SheetSchema.Code
