import SheetSchema.Grid.Change
import SheetSchema.Grid.Metadata
import SheetSchema.Service.Session

/-!
# The spreadsheet service

The calls that the library makes to a spreadsheet service, one at a time. A call that is refused or
does not get through is an error that names what was tried. Reading no ranges, appending no rows and
applying no changes take no call.
-/

namespace SheetSchema.Sheets

variable {σ : Type}

/-- The value that a call returns; `failed` makes an error of the reason why there is none. -/
def demand (c : Call) (failed : String → Error) : Session σ Json := do
  match ← Session.call c with
  | .ok value => pure value
  | .refused code message => Session.throw (failed (refusalText code message))
  | .unreachable reason => Session.throw (failed reason)
  | .unreadable reason => Session.throw (.reported .badValue reason)
  | .broken error => Session.throw error

/-- Describe a spreadsheet. -/
def metadata (spreadsheet : Json) : Session σ Metadata := do
  let data ← demand (.metadata spreadsheet) (.metadataFailed spreadsheet.text)
  Session.ofExcept (Metadata.ofJson spreadsheet data)

/-- The rows of a range. -/
def values (spreadsheet range : Json) : Session σ Json := do
  let data ← demand (.values spreadsheet range) (.readFailed range.text)
  Session.ofExcept (data.memberD "values" (.arr []))

/-- The rows in a part of an answer about several ranges; a part that is missing has none. -/
def rowsOf : Option Json → Except Error Json
  | some part => part.memberD "values" (.arr [])
  | none => .ok (.arr [])

/-- The rows of several ranges. -/
def batchValues (spreadsheet : Json) (ranges : List Json) : Session σ (List Json) :=
  if ranges.isEmpty then pure []
  else do
    let data ← demand (.batchValues spreadsheet ranges) (.batchReadFailed ranges.length)
    Session.ofExcept do
      let parts ← (← data.memberD "valueRanges" (.arr [])).sequence
      (List.range ranges.length).mapM fun i => rowsOf parts[i]?

/-- The rows of the ranges that a value lists. -/
def batchValuesOf (spreadsheet ranges : Json) : Session σ (List Json) := do
  batchValues spreadsheet (← Session.ofExcept ranges.orEmptyList.elements)

/-- Append rows, which are anything that has parts. -/
def append (spreadsheet range rows : Json) : Session σ Json :=
  if !rows.truthy then pure (.obj [])
  else do
    let count := (← Session.ofExcept rows.elements).length
    demand (.append spreadsheet range rows) (.appendFailed count range.text)

/-- Apply changes in order. -/
def batchUpdate (spreadsheet : Json) (changes : List Change) : Session σ Json :=
  if changes.isEmpty then pure (.obj [])
  else
    demand (.batchUpdate spreadsheet (requests changes))
      (.batchUpdateFailed changes.length spreadsheet.text)

end SheetSchema.Sheets
