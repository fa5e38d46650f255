import SheetSchema.Json.Access

/-!
# Remote calls

The library talks to the outside by calls to a spreadsheet service and to a translation service. A
`Call` is one request with its arguments, and a `Reply` is what came of it: a value, a refusal of
the service, a failure on the way, or an answer that cannot be read. A refusal tells a code and a
message; one that does not is a reply that nobody expects, and breaks what waits for it.
-/

namespace SheetSchema

/-- A request to a remote service. -/
inductive Call where
  /-- Describe a spreadsheet. -/
  | metadata (spreadsheet : Json)
  /-- Read the values of a range. -/
  | values (spreadsheet range : Json)
  /-- Read the values of several ranges. -/
  | batchValues (spreadsheet : Json) (ranges : List Json)
  /-- Append rows after a range. -/
  | append (spreadsheet range rows : Json)
  /-- Apply a batch of changes. -/
  | batchUpdate (spreadsheet requests : Json)
  /-- Send a value to an address. -/
  | post (address body : Json)
deriving DecidableEq

namespace Call

/-- The options of a call. -/
def options : Call → Json
  | values .. | batchValues .. => .obj [("majorDimension", .str "ROWS")]
  | append .. => .obj [("valueInputOption", .str "RAW"), ("insertDataOption", .str "INSERT_ROWS")]
  | _ => .obj []

/-- What a call sends. -/
def body : Call → Json
  | append _ _ rows => .obj [("values", rows)]
  | batchUpdate _ requests => .obj [("requests", requests)]
  | post _ body => body
  | _ => .null

end Call

/-- What came of a call. -/
inductive Reply where
  | ok (value : Json)
  /-- The service refused. -/
  | refused (code message : Json)
  /-- The call did not get through. -/
  | unreachable (reason : String)
  /-- The answer could not be read. -/
  | unreadable (reason : String)
  /-- The reply makes no sense, which is an error of its own. -/
  | broken (error : Error)
deriving DecidableEq

/-- The refusal that an object describes. -/
def Reply.ofRefusal (given : Json) : Reply :=
  let parts : Except Error (Json × Json) := do
    return (← given.entry "code", ← given.entry "message")
  match parts with
  | .ok (code, message) => .refused code message
  | .error error => .broken error

/-- A refusal in words. -/
def refusalText (code message : Json) : String := s!"APIError: [{code.text}]: {message.text}"

/-- The code of a refusal that gives none. -/
def noCode : Json := .int (-1)

end SheetSchema
