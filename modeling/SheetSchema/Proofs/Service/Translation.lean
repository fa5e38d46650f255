import Mathlib
import SheetSchema.Service.Translation
import SheetSchema.Proofs.Json.Access
import SheetSchema.Proofs.Service.Sheets

/-!
# What the translation service makes of a call

Texts are translated by one call, and what comes of it is told by the reply alone
(`Translation.run_translate`): the list of its translations, or one error. Whatever the service
answers, be it a value of any shape, a text that cannot be read, a refusal or nothing at all, the
error is one of the translation service (`Reply.category_of_translations`).

What such a call carries is told by the entries of its body (`Call.AsksFor`).
-/

namespace SheetSchema

variable {σ : Type}

namespace Reply

/-- The reply is one that a service gives: anything but a reply that makes no sense. -/
def isExpected : Reply → Bool
  | .broken _ => false
  | _ => true

/-- The translations that a reply holds, or the error that it means. -/
def translations : Reply → Except Error (List String)
  | .ok data =>
    match Translation.textsOf data with
    | .ok translated => .ok translated
    | .error _ => .error (.translationMalformed data)
  | .refused code message => .error (.translationFailed (refusalText code message))
  | .unreachable reason | .unreadable reason => .error (.translationFailed reason)
  | .broken error => .error error

theorem category_of_translations {reply : Reply} {error : Error} (hreply : reply.isExpected = true)
    (h : reply.translations = .error error) : error.category = .translationService := by
  cases reply with
  | ok data =>
    rw [translations] at h
    split at h
    · cases h
    · rw [← Except.error.inj h]
      rfl
  | refused code message =>
    rw [← Except.error.inj h]
    rfl
  | unreachable reason =>
    rw [← Except.error.inj h]
    rfl
  | unreadable reason =>
    rw [← Except.error.inj h]
    rfl
  | broken error => cases hreply

end Reply

/-- The call asks an address for some texts: its body lists them in order, tells the languages, and
wants plain texts. -/
structure Call.AsksFor (c : Call) (address : Json) (texts : List Json) (source target : Json) :
    Prop where
  address_eq : c = .post address c.body
  texts_eq : c.body.at? ["q"] = some (.arr texts)
  source_eq : c.body.at? ["source"] = some source
  target_eq : c.body.at? ["target"] = some target
  format_eq : c.body.at? ["format"] = some (.str "text")

namespace Translation

variable {service : Service σ} {w : World σ} {address source target : Json} {texts : List Json}

/-- The call that has texts translated. -/
def request (address : Json) (texts : List Json) (source target : Json) : Call :=
  .post address (payload texts source target)

theorem asksFor_request (address : Json) (texts : List Json) (source target : Json) :
    (request address texts source target).AsksFor address texts source target :=
  ⟨rfl, rfl, rfl, rfl, rfl⟩

theorem run_translate_nil (address source target : Json) (service : Service σ) (w : World σ) :
    (translate address [] source target).run service w = (.ok [], w) := rfl

/-- Texts are translated by one call, which tells the outcome. -/
theorem run_translate (h : texts ≠ []) (address source target : Json) (service : Service σ)
    (w : World σ) : (translate address texts source target).run service w =
      (Session.ofExcept
        (service w.service (request address texts source target)).1.translations).run service
          (w.after service (request address texts source target)) := by
  have hne : texts.isEmpty = false := by simpa using h
  rw [translate, hne, if_neg Bool.false_ne_true, Session.run_bind, Session.run_call]
  cases hreply : (service w.service (request address texts source target)).1 with
  | ok data =>
    rw [request] at hreply
    simp only [hreply, Reply.translations]
    cases textsOf data <;> rfl
  | _ =>
    rw [request] at hreply
    simp only [hreply]
    rfl

/-- All that can go wrong with the translation of texts is the translation service. -/
theorem category_of_translate {failure : Failure} {w' : World σ}
    (hreply : (service w.service (request address texts source target)).1.isExpected = true)
    (h : (translate address texts source target).run service w = (.error failure, w')) :
    failure.error.category = .translationService := by
  by_cases htexts : texts = []
  · rw [htexts, run_translate_nil] at h
    cases h
  · rw [run_translate htexts, Session.run_ofExcept_eq_error_iff] at h
    obtain ⟨⟨error, herror, rfl⟩, -⟩ := h
    exact Reply.category_of_translations hreply herror

end Translation

end SheetSchema
