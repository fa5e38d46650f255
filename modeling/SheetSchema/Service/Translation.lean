import SheetSchema.Json.Access
import SheetSchema.Service.Session

/-!
# The translation service

Texts are translated by one call for all of them. The answer is a list of translations, which may be
shorter than the list of texts; a translation that does not count as given is an empty text. An
answer of any other shape is an error that shows it.
-/

namespace SheetSchema.Translation

variable {σ : Type}

/-- The address of the service where none is given. -/
def defaultAddress : String := "https://translation.googleapis.com/language/translate/v2"

/-- What is sent to have texts translated. -/
def payload (texts : List Json) (source target : Json) : Json :=
  .obj [("q", .arr texts), ("source", source), ("target", target), ("format", .str "text")]

/-- The text of one translation. -/
def textOf (translation : Json) : Except Error String := do
  let found := (← translation.member "translatedText").getD .null
  return if found.truthy then found.text else ""

/-- The texts of an answer. -/
def textsOf (data : Json) : Except Error (List String) := do
  match ← (← data.entry "data").entry "translations" with
  | .arr translations => translations.mapM textOf
  | _ => throw .wrongKind

/-- Translate texts. -/
def translate (address : Json) (texts : List Json) (source target : Json) :
    Session σ (List String) :=
  if texts.isEmpty then pure []
  else do
    match ← Session.call (.post address (payload texts source target)) with
    | .ok data =>
      match textsOf data with
      | .ok translated => pure translated
      | .error _ => Session.throw (.translationMalformed data)
    | .refused code message =>
      Session.throw (.translationFailed (refusalText code message))
    | .unreachable reason | .unreadable reason => Session.throw (.translationFailed reason)
    | .broken error => Session.throw error

/-- Translate the texts that a value lists. -/
def translateOf (address texts source target : Json) : Session σ (List String) := do
  translate address (← Session.ofExcept texts.orEmptyList.elements) source target

end SheetSchema.Translation
