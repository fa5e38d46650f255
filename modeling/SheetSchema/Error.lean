import SheetSchema.Json.Number
import SheetSchema.Json.Parser

/-!
# What can go wrong

Every refusal of the library is one of the causes of `Error`, with the data that explain it.
`Error.message` puts a cause into words, and `Error.category` says what kind of trouble it is. The
categories that a caller can act on have ancestors (`Category.lineage`): a failed call of the sheet
service is a failed service call, and every one of them is a general failure. The remaining
categories are misuses of a value (a missing key, a value of the wrong kind, a position outside a
list), limits that a value exceeds, and obstacles among the files.
-/

namespace SheetSchema

/-- The kind of trouble an error reports. -/
inductive Category where
  | general
  | validation
  | notFound
  | service
  | sheetService
  | translationService
  | unknownOperation
  | headerMismatch
  | missingKey
  | badValue
  | wrongKind
  | missingMember
  | outOfRange
  | notProvided
  | tooDeep
  | tooLarge
  | notAFolder
  | alreadyExists
  | isAFolder
  | fileSystem
deriving DecidableEq, Repr

namespace Category

/-- The category and its ancestors, the most general last. -/
def lineage : Category → List Category
  | sheetService => [sheetService, service, general]
  | translationService => [translationService, service, general]
  | validation => [validation, general]
  | notFound => [notFound, general]
  | service => [service, general]
  | unknownOperation => [unknownOperation, general]
  | headerMismatch => [headerMismatch, general]
  | c => [c]

/-- The category descends from the general failure, so it carries debug facts. -/
def isDiagnosable (c : Category) : Bool := c.lineage.contains general

/-- A call of a remote service failed. -/
def isTransient (c : Category) : Bool := c.lineage.contains service

end Category

/-- Why the library refuses. -/
inductive Error where
  -- columns and ranges
  | invalidColumn (given : Json)
  | negativeColumn (index : Number)
  | emptyRange
  | malformedRange (text : String)
  | malformedCoordinate (text : String)
  | unqualifiedRange
  | malformedStartCell
  | negativeStart
  | rowsReversed
  | columnsReversed
  -- schemas and their documents
  | invalidFieldName (given : Json)
  | invalidFieldType (given : Json) (field : String)
  | invalidRow (field : String)
  | fieldKeyMissing (key : String)
  | sheetNameMissing
  | sheetNameBlank
  | rowsDiffer
  | noFields
  | documentKeyMissing (key : String)
  | unsupportedVersion (given : Json)
  | malformedJson (error : JsonError)
  -- arguments
  | rangeSourceMissing (feature : String)
  | featureNameMissing
  | spreadsheetOrSheetMissing
  | headersMissing
  | startCellMissing
  | rangeArgumentMissing
  | rangeNameMissing
  | tableWithoutFields
  | frameWidth (columns width : Nat)
  | invalidSettings (count : Nat)
  | invalidConfiguration (reason : String)
  -- a live spreadsheet
  | sheetNotFound (title : String)
  | sheetNotListed (title available spreadsheet : String)
  | headersDiffer
  | unknownOperation (id : String)
  -- remote calls
  | metadataFailed (spreadsheet reason : String)
  | readFailed (range reason : String)
  | batchReadFailed (count : Nat) (reason : String)
  | appendFailed (count : Nat) (range reason : String)
  | batchUpdateFailed (count : Nat) (spreadsheet reason : String)
  | translationFailed (reason : String)
  | translationMalformed (body : Json)
  -- misused values
  | missingKey (key : Json)
  | unknownChange (given : Json)
  | unknownCategory (given : Json)
  | unknownLevel (name : String)
  | notAnObject (given : Json)
  | notASchema (given : Json)
  | wrongKind
  | missingMember
  | outOfRange
  | notProvided
  | pairLength (position length : Nat)
  -- limits
  | numeralTooLong (digits : Nat)
  | numberTooLong
  | nestedTooDeep
  | positionTooLarge
  | rowTooLong
  -- files
  | fileAmongFolders
  | fileInTheWay
  | folderInTheWay
  | fileNameTooLong
  /-- A path or a variable holds the null character. -/
  | embeddedNul
  | illegalVariableName
  /-- An error built by a caller. -/
  | reported (category : Category) (message : String)
deriving DecidableEq

namespace Error

/-- What the messages about too many digits begin with. -/
def lengthLimit : String :=
  s!"Exceeds the limit ({Decimal.maxDigits} digits) for integer string conversion"

/-- What the messages about too many digits end with. -/
def lengthAdvice : String := "use sys.set_int_max_str_digits() to increase the limit"

/-- The error in words. Misused values that have no words of their own give none. -/
def message : Error → String
  | invalidColumn given => s!"Invalid column letters: {given.display}"
  | negativeColumn index => s!"Column index must be non-negative, got {index.text}"
  | emptyRange => "Empty range notation"
  | malformedRange text => s!"Invalid range notation: {text}"
  | malformedCoordinate text => s!"Invalid coordinate: {text}"
  | unqualifiedRange => "Range must be in format \"SheetName!A1:B2\""
  | malformedStartCell => "invalid headerStartCell format"
  | negativeStart => "Start indices must be non-negative (0-indexed)"
  | rowsReversed => "End row index must be greater than start row index"
  | columnsReversed => "End column index must be greater than start column index"
  | invalidFieldName given => s!"Invalid field name: {given.display}"
  | invalidFieldType given field => s!"Invalid type {given.display} for field '{field}'"
  | invalidRow field => s!"Row for field '{field}' must be a positive integer"
  | fieldKeyMissing key => s!"Field definition is missing {displayed key}"
  | sheetNameMissing => "Schema definition is missing 'sheetName'"
  | sheetNameBlank => "Schema sheet name must be a non-empty string"
  | rowsDiffer => "All fields must have the same row number"
  | noFields => "Cannot compute column bounds of a schema without fields"
  | documentKeyMissing key => s!"Serialized schema must have '{key}' field"
  | unsupportedVersion given => s!"Unsupported serialization version: {given.text}. Expected 1.0"
  | malformedJson error => s!"Invalid JSON: {error.message}"
  | embeddedNul => "embedded null byte"
  | illegalVariableName => "illegal environment variable name"
  | rangeSourceMissing feature =>
    s!"Generating data operations for {feature} requires a range name or a schema"
  | featureNameMissing => "featureName is required"
  | spreadsheetOrSheetMissing => "spreadsheetId and sheetName are required"
  | headersMissing => "headers must be a non-empty array"
  | startCellMissing => "headerStartCell is required"
  | rangeArgumentMissing => "spreadsheetId, rangeName, and range are required"
  | rangeNameMissing => "rangeName is required"
  | tableWithoutFields => "SheetTable requires a schema with fields"
  | frameWidth columns width => s!"{columns} columns passed, passed data had {width} columns"
  | invalidSettings count =>
    let noun := if count = 1 then "error" else "errors"
    s!"{count} validation {noun} for Config"
  | invalidConfiguration reason => s!"Invalid configuration: {reason}"
  | sheetNotFound title => s!"Sheet \"{title}\" not found in spreadsheet."
  | sheetNotListed title available spreadsheet =>
    s!"Sheet \"{title}\" not found in the spreadsheet. Available sheets: {available}. " ++
      s!"Please verify the spreadsheetId ({spreadsheet}) and sheetName are correct."
  | headersDiffer => "header row not found in the provided sheet/headers"
  | unknownOperation id => s!"Unknown operation: {id}"
  | metadataFailed spreadsheet reason =>
    s!"Failed to read metadata of spreadsheet '{spreadsheet}': {reason}"
  | readFailed range reason => s!"Failed to read range '{range}': {reason}"
  | batchReadFailed count reason => s!"Failed to batch read {count} ranges: {reason}"
  | appendFailed count range reason => s!"Failed to append {count} rows to '{range}': {reason}"
  | batchUpdateFailed count spreadsheet reason =>
    s!"Failed to apply {count} requests to spreadsheet '{spreadsheet}': {reason}"
  | translationFailed reason => s!"Translation request failed: {reason}"
  | translationMalformed body => s!"Unexpected translation response: {body.display}"
  | missingKey key => key.display
  | unknownChange given => s!"Unknown operation type: {given.text}"
  | unknownCategory given => s!"{given.display} is not a valid OperationCategory"
  | unknownLevel name => s!"Unknown level: {displayed name}"
  | notAnObject given => s!"Expected dict, got <class '{given.kindName}'>"
  | notASchema given => s!"Expected FeatureSchema, got <class '{given.kindName}'>"
  | pairLength position length =>
    s!"dictionary update sequence element #{position} has length {length}; 2 is required"
  | numeralTooLong digits =>
    s!"{lengthLimit}: value has {digits} digits; {lengthAdvice}"
  | numberTooLong => s!"{lengthLimit}; {lengthAdvice}"
  | wrongKind | missingMember | outOfRange | notProvided | nestedTooDeep | positionTooLarge
  | rowTooLong | fileAmongFolders | fileInTheWay | folderInTheWay | fileNameTooLong => ""
  | reported _ message => message

/-- The kind of trouble. -/
def category : Error → Category
  | sheetNotFound _ | sheetNotListed .. => .notFound
  | headersDiffer => .headerMismatch
  | unknownOperation _ => .unknownOperation
  | metadataFailed .. | readFailed .. | batchReadFailed .. | appendFailed ..
  | batchUpdateFailed .. => .sheetService
  | translationFailed _ | translationMalformed _ => .translationService
  | missingKey _ => .missingKey
  | unknownChange _ | unknownCategory _ | unknownLevel _ | frameWidth .. | pairLength ..
  | numeralTooLong _ | numberTooLong | embeddedNul | illegalVariableName => .badValue
  | notAnObject _ | notASchema _ | wrongKind => .wrongKind
  | missingMember => .missingMember
  | outOfRange => .outOfRange
  | notProvided => .notProvided
  | nestedTooDeep => .tooDeep
  | positionTooLarge | rowTooLong => .tooLarge
  | fileAmongFolders => .notAFolder
  | fileInTheWay => .alreadyExists
  | folderInTheWay => .isAFolder
  | fileNameTooLong => .fileSystem
  | reported category _ => category
  | _ => .validation

/-- The error of a text that cannot be read as JSON: a limit it exceeds, or its fault and place. -/
def ofJsonError (e : JsonError) : Error :=
  match e.fault with
  | .nestedTooDeep => nestedTooDeep
  | .numeralTooLong digits => numeralTooLong digits
  | _ => malformedJson e

end Error

/-- The text of a whole number, which must not be too long to be written. -/
def writeInt (n : Int) : Except Error String :=
  if Decimal.isWritable n then .ok (toString n) else .error .numberTooLong

/-- The text of a number, which must not be too long to be written. -/
def writeNumber : Number → Except Error String
  | .whole n => writeInt n
  | x => .ok x.text

/-- The text of a value inside a range. A whole number must not be too long to be written. -/
def writeText : Json → Except Error String
  | .int n => writeInt n
  | given => .ok given.text

end SheetSchema
