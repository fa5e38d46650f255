import SheetSchema.Header.Dictionary
import SheetSchema.Service.Translation
import SheetSchema.Text.Blank
import SheetSchema.Text.Split

/-!
# Translating headers

Headers are translated in tiers. A trimmed header that is a key of the dictionary has its value
(`Header.listed?`), and one that contains a key that of the first such key (`Header.contained?`).
Where some header is in neither tier and a translation service is at hand, all headers are sent to
it in one call, and what it returns wins over the dictionary. A header that nothing translates comes
back trimmed.

A service that fails or returns nothing is no failure of the translation: it is logged and recorded,
and the result of the dictionary is used.
-/

namespace SheetSchema.Header

variable {σ : Type}

/-- The value of the key that the trimmed header is. -/
def listed? (dictionary : Dictionary) (text : String) : Option Json :=
  (dictionary.get? (trimmed text)).filter Json.present

/-- The value of the first key that the trimmed header contains. -/
def contained? (dictionary : Dictionary) (text : String) : Option Json :=
  ((dictionary.find? fun (key, _) =>
    key != "" && Text.occursIn key.toList (Text.trim text.toList)).map (·.2)).filter Json.present

/-- The translation by the dictionary. -/
def resolve? (dictionary : Dictionary) (text : String) : Option Json :=
  (listed? dictionary text).or (contained? dictionary text)

/-- The translation by the dictionary, or the trimmed header. -/
def localResult (dictionary : Dictionary) (text : String) : Json :=
  (resolve? dictionary text).getD (.str (trimmed text))

/-- How headers are translated. -/
structure Translator where
  dictionary : Dictionary := japaneseEnglish
  /-- The address of the translation service, if there is one. -/
  address? : Option String := none
  /-- The language to translate into. -/
  target : Json := .str "en"
deriving DecidableEq, Inhabited

/-- The service's translation of a header if there is one, then that of the dictionary if it counts
as given, then the header itself. -/
def mergeOne (served : Option String) (found : Json) (header : String) : Json :=
  Json.firstGiven [Json.ofText? served, found] (.str header)

/-- The merged translations, header by header; the list of the service may be of any length. -/
def merge : (served : List String) → (found : List Json) → (headers : List String) → List Json
  | served, f :: found, h :: headers =>
    mergeOne served.head? f h :: merge served.tail found headers
  | _, _, _ => []

/-- The name of the log of translations. -/
def translationLogger : String := "sheetcraft.schema.translation"

/-- The fact about the translations by the dictionary. -/
def dictionaryFact (headers : List String) (found : List Json) (resolved : Nat) : Json :=
  .obj [("successCount", .int resolved), ("totalCount", .int headers.length),
    ("mappings", .arr (List.zipWith
      (fun header result => .obj [("original", .str header), ("translated", result)])
      headers found))]

/-- The fact about the answer of the service. -/
def responseFact (served : List String) : Json :=
  .obj [("receivedCount", .int served.length), ("translations", .arr (served.map .str))]

/-- Why an answer without translations is not used. -/
def emptyAnswerWarning (served : List String) : String :=
  if served.isEmpty then "No translations returned from API, using dictionary fallback"
  else "All API translations were empty, using dictionary fallback"

/-- Use what the service returned, and the dictionary where it returned nothing. -/
def useAnswer (headers : List String) (found : List Json) (served : List String) :
    Session σ (List Json) := do
  Session.record "translationResponse" (responseFact served)
  if served.all (· == "") then
    let warning := emptyAnswerWarning served
    Session.report Level.warning translationLogger warning
    Session.record "translationWarning" (.str warning)
    Session.record "translationMethod" (.str "dictionary-fallback")
    pure found
  else
    Session.record "translationMethod" (.str "api+dictionary")
    pure (merge served found headers)

/-- Use the dictionary because the service failed. -/
def useDictionary (found : List Json) (error : Error) : Session σ (List Json) := do
  Session.report Level.warning translationLogger
    s!"Header translation failed, using dictionary results: {error.message}"
  Session.record "translationError" (.str error.message)
  Session.record "translationMethod" (.str "dictionary-fallback-error")
  pure found

/-- The outcome of the service: its translations, or the error that says why there are none. -/
def serve (address : String) (headers : List String) (source target : Json) :
    Session σ (Except Error (List String)) :=
  ((Translation.translate (.str address) (headers.map .str) source target) >>= fun served =>
    pure (.ok served))
    |>.onTransient fun error => pure (.error error)

/-- Translate headers from the language `source`. -/
def translate (t : Translator) (headers : List String) (source : Json) :
    Session σ (List Json) := do
  let resolved := (headers.filter fun h => (resolve? t.dictionary h).isSome).length
  let found := headers.map (localResult t.dictionary)
  Session.record "dictionaryTranslations" (dictionaryFact headers found resolved)
  match t.address? with
  | some address =>
    if resolved = headers.length then
      Session.record "translationMethod" (.str "dictionary")
      pure found
    else
      match ← serve address headers source t.target with
      | .ok served => useAnswer headers found served
      | .error error => useDictionary found error
  | none =>
    Session.record "translationMethod" (.str "dictionary")
    pure found

/-- Translate the headers that a value lists, each by its text. -/
def translateOf (t : Translator) (headers source : Json) : Session σ (List Json) := do
  translate t ((← Session.ofExcept headers.elements).map Json.text) source

end SheetSchema.Header
