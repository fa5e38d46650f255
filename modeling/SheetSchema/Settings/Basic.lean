import SheetSchema.Header.Translation
import SheetSchema.Log.Level
import SheetSchema.Settings.Variables

/-!
# Settings

The settings of a run are read from named variables: the key file of the account that calls the
services, the language that headers are translated into, the address of the translation service,
and the log level. A variable that is not set leaves a default. The log level has to be the name of
a level, in letters of either case and perhaps with blanks around it, and all values have to be
texts; an error counts the settings that are wrong.
-/

namespace SheetSchema

/-- The settings of a run. -/
structure Settings where
  /-- The key file of the account, if one is named. -/
  keyFile? : Option String := none
  targetLanguage : String := "en"
  translationAddress : String := Translation.defaultAddress
  /-- The name of a level. -/
  logLevel : String := "WARNING"
deriving DecidableEq, Repr, Inhabited

namespace Settings

/-- The variable of the key file. -/
def keyFileVariable : String := "GOOGLE_APPLICATION_CREDENTIALS"

/-- The variable of the target language. -/
def targetLanguageVariable : String := "SHEETCRAFT_TARGET_LANGUAGE"

/-- The variable of the address of the translation service. -/
def translationAddressVariable : String := "SHEETCRAFT_TRANSLATE_ENDPOINT"

/-- The variable of the log level. -/
def logLevelVariable : String := "SHEETCRAFT_LOG_LEVEL"

/-- A level name, trimmed and capitalized. -/
def levelName? (given : String) : Option String :=
  let name := String.ofList (Text.upper (Text.trim given.toList))
  if (Level.ofName? name).isSome then some name else none

/-- A setting that has to be a text. -/
def textOf? : Json → Option String
  | .str s => some s
  | _ => none

/-- A setting that may be missing, and otherwise has to be a text. -/
def optionalTextOf? : Json → Option (Option String)
  | .null => some none
  | given => (textOf? given).map some

/-- The number of settings that are wrong. -/
def faults (wrong : List Bool) : Nat := (wrong.filter id).length

/-- The settings in an object, by the names of their variables. -/
def ofEntries (given : Entries Json) : Except Error Settings :=
  let standard : Settings := {}
  let keyFile? := optionalTextOf? ((given.get? keyFileVariable).getD .null)
  let language? :=
    textOf? ((given.get? targetLanguageVariable).getD (.str standard.targetLanguage))
  let address? :=
    textOf? ((given.get? translationAddressVariable).getD (.str standard.translationAddress))
  let level? :=
    (textOf? ((given.get? logLevelVariable).getD (.str standard.logLevel))).bind levelName?
  match keyFile?, language?, address?, level? with
  | some keyFile?, some targetLanguage, some translationAddress, some logLevel =>
    .ok { keyFile?, targetLanguage, translationAddress, logLevel }
  | _, _, _, _ =>
    .error (.invalidSettings
      (faults [keyFile?.isNone, language?.isNone, address?.isNone, level?.isNone]))

/-- The settings in named variables. -/
def ofVariables (given : Entries String) : Except Error Settings :=
  (ofEntries (given.map fun (name, value) => (name, .str value))).mapError fun e =>
    .invalidConfiguration e.message

/-- The settings of an environment and of the text of a file of variables. -/
def load (environment : Entries String) (file : String) : Except Error Settings := do
  ofVariables (← Variables.overlay environment (Variables.ofText file))

/-- The settings as an object. -/
def toJson (s : Settings) : Json :=
  .obj [(keyFileVariable, Json.ofText? s.keyFile?), (targetLanguageVariable, .str s.targetLanguage),
    (translationAddressVariable, .str s.translationAddress), (logLevelVariable, .str s.logLevel)]

/-- What the account may be used for. -/
def scopes : List String :=
  ["https://www.googleapis.com/auth/spreadsheets",
   "https://www.googleapis.com/auth/cloud-translation"]

/-- What is asked for when the services are entered: the key file, unless its name is empty, and the
scopes. -/
def authorization (s : Settings) : Json :=
  .obj ((match s.keyFile? with
    | some name => if name = "" then [] else [("filename", .str name)]
    | none => []) ++ [("scopes", .arr (scopes.map .str))])

/-- How headers are translated. -/
def translator (s : Settings) : Header.Translator :=
  { address? := some s.translationAddress, target := .str s.targetLanguage }

end Settings

end SheetSchema
