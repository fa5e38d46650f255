import SheetSchema.Code.Artifacts
import SheetSchema.Header.Inference
import SheetSchema.Settings.Basic

/-!
# From a sheet to code

`inferSchema` infers a schema with the translation service that the settings name, and
`generateFromSheet` goes on to generate the files of a feature from it. Nothing is written to files
here.
-/

namespace SheetSchema

variable {σ : Type}

/-- Infer a schema from the header row of a sheet. -/
def inferSchema (settings : Settings) (request : Header.Request) : Session σ Header.Inference :=
  Header.infer settings.translator request

/-- What a feature is generated from, apart from its schema. -/
structure FeatureRequest where
  name : Json
  /-- The operations that are asked for: `null` for all, or a list of their ids. -/
  operations : Json := .null
  /-- The name of the range constant, unless it is that of the schema or the feature. -/
  rangeName : Json := .null
  /-- The time that stands in the generated files. -/
  timestamp : String
deriving DecidableEq, Inhabited

/-- Generate the files of a feature. -/
def FeatureRequest.generate (r : FeatureRequest) (schema? : Option Schema) :
    Except Error Code.Artifacts :=
  Code.Artifacts.scaffold r.name r.operations schema? r.rangeName r.timestamp

/-- The name of the log of generated features. -/
def generationLogger : String := "sheetcraft.codegen.scaffold"

/-- Infer a schema from a sheet, and generate the files of a feature from it. -/
def generateFromSheet (settings : Settings) (request : Header.Request) (feature : FeatureRequest) :
    Session σ (Header.Inference × Code.Artifacts) := do
  let inference ← inferSchema settings request
  let artifacts ← Session.ofExcept (feature.generate (some inference.schema))
  Session.report Level.info generationLogger s!"Scaffolded feature {artifacts.names.pascal}"
  return (inference, artifacts)

end SheetSchema
