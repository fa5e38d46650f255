import SheetSchema.Json.Printer
import SheetSchema.Schema.Wire

/-!
# Schema documents

A schema is kept as a document: an object with the version of the format and the schema. Documents
are written as JSON text in any layout, and read back from it.
-/

namespace SheetSchema.Document

/-- The version of the format that is written and the only one that is read. -/
def version : String := "1.0"

/-- The document of a schema's object. -/
def ofObject (schema : Json) : Json := .obj [("version", .str version), ("schema", schema)]

/-- The document of a schema. -/
def ofSchema (s : Schema) : Except Error Json := s.toJson.map ofObject

/-- The schema of a document. -/
def schema (data : Json) : Except Error Schema :=
  match data with
  | .obj entries =>
    match Entries.get? entries "version", Entries.get? entries "schema" with
    | none, _ => .error (.documentKeyMissing "version")
    | _, none => .error (.documentKeyMissing "schema")
    | some found, some schema =>
      if found = .str version then Schema.ofJson schema else .error (.unsupportedVersion found)
  | _ => .error (.notAnObject data)

/-- The text of a schema's document. -/
def render (s : Schema) (layout : JsonLayout) : Except Error String :=
  (ofSchema s).map (·.render layout)

/-- The schema in the text of a document. -/
def parse (text : String) : Except Error Schema :=
  match Json.parse text with
  | .ok data => schema data
  | .error e => .error (.ofJsonError e)

end SheetSchema.Document
