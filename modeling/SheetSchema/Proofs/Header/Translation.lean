import Mathlib
import SheetSchema.Header.Translation
import SheetSchema.Proofs.Service.Session

/-!
# What a translation returns and leaves behind

A translation that succeeds returns one text for each header (`length_of_translate`), whatever the
service answers. It leaves the calls that were made before and every fact that is not its own
(`extends_translate`).
-/

namespace SheetSchema.Header

variable {σ : Type} {service : Service σ} {w w' : World σ}

theorem length_merge (served : List String) {found : List Json} {headers : List String}
    (h : found.length = headers.length) : (merge served found headers).length = headers.length := by
  induction found generalizing served headers with
  | nil =>
    obtain rfl : headers = [] := List.eq_nil_of_length_eq_zero h.symm
    simp [merge]
  | cons f found ih =>
    cases headers with
    | nil => simp at h
    | cons header headers =>
      simp only [List.length_cons, Nat.add_right_cancel_iff] at h
      simp [merge, ih _ h]

variable {headers : List String} {found translated : List Json}

theorem length_of_useAnswer {served : List String} (hfound : found.length = headers.length)
    (h : (useAnswer headers found served).run service w = (.ok translated, w')) :
    translated.length = headers.length := by
  obtain ⟨-, w₁, -, h⟩ := Session.run_bind_eq_ok_iff.mp h
  split at h
  · obtain ⟨-, w₂, -, h⟩ := Session.run_bind_eq_ok_iff.mp h
    obtain ⟨-, w₃, -, h⟩ := Session.run_bind_eq_ok_iff.mp h
    obtain ⟨-, w₄, -, h⟩ := Session.run_bind_eq_ok_iff.mp h
    obtain ⟨rfl, -⟩ := by simpa using h
    exact hfound
  · obtain ⟨-, w₂, -, h⟩ := Session.run_bind_eq_ok_iff.mp h
    obtain ⟨rfl, -⟩ := by simpa using h
    exact length_merge served hfound

theorem of_useDictionary {error : Error}
    (h : (useDictionary found error).run service w = (.ok translated, w')) :
    translated = found := by
  obtain ⟨-, w₁, -, h⟩ := Session.run_bind_eq_ok_iff.mp h
  obtain ⟨-, w₂, -, h⟩ := Session.run_bind_eq_ok_iff.mp h
  obtain ⟨-, w₃, -, h⟩ := Session.run_bind_eq_ok_iff.mp h
  obtain ⟨rfl, -⟩ := by simpa using h
  rfl

/-- A translation returns one text for each header. -/
theorem length_of_translate {t : Translator} {source : Json}
    (h : (translate t headers source).run service w = (.ok translated, w')) :
    translated.length = headers.length := by
  have hfound : (headers.map (localResult t.dictionary)).length = headers.length :=
    List.length_map _
  unfold translate at h
  simp only at h
  obtain ⟨-, w₁, -, h⟩ := Session.run_bind_eq_ok_iff.mp h
  split at h
  · split at h
    · obtain ⟨-, w₂, -, h⟩ := Session.run_bind_eq_ok_iff.mp h
      obtain ⟨rfl, -⟩ := by simpa using h
      exact hfound
    · obtain ⟨answer, w₂, -, h⟩ := Session.run_bind_eq_ok_iff.mp h
      cases answer with
      | ok served => exact length_of_useAnswer hfound h
      | error error => rw [of_useDictionary h, hfound]
  · obtain ⟨-, w₂, -, h⟩ := Session.run_bind_eq_ok_iff.mp h
    obtain ⟨rfl, -⟩ := by simpa using h
    exact hfound

/-! ## What stays -/

open Session.Respects

/-- The facts that a translation records. -/
def translationFacts : List String :=
  ["dictionaryTranslations", "translationMethod", "translationResponse", "translationWarning",
    "translationError"]

variable {key : String}

theorem extends_post (address : Json) (texts : List Json) (source target : Json) :
    Session.Respects (World.Extends key)
      (Translation.translate address texts source target : Session σ (List String)) := by
  unfold Translation.translate
  split
  · exact pure _
  · refine bind (extends_call _) fun reply => ?_
    cases reply with
    | ok data =>
      simp only
      split
      · exact pure _
      · exact throw _
    | refused code message => exact throw _
    | unreachable reason => exact throw _
    | unreadable reason => exact throw _
    | broken error => exact throw _

/-- A translation keeps the calls made before it and every fact that is not its own. -/
theorem extends_translate (h : key ∉ translationFacts) (t : Translator) (headers : List String)
    (source : Json) : Session.Respects (World.Extends key)
      (translate t headers source : Session σ (List Json)) := by
  have hrecord : ∀ other ∈ translationFacts, ∀ value : Json, Session.Respects (World.Extends key)
      (Session.record other value : Session σ Unit) := by
    intro other hother value
    have hne : other ≠ key := by
      rintro rfl
      exact h hother
    exact extends_record hne value
  have hmethod := hrecord "translationMethod" (by decide)
  unfold translate
  refine bind (hrecord _ (by decide) _) fun _ => ?_
  split
  · split
    · exact bind (hmethod _) fun _ => pure _
    · refine bind ((bind (extends_post _ _ _ _) fun _ => pure _).onTransient fun _ => pure _)
        fun answer => ?_
      cases answer with
      | ok served =>
        refine bind (hrecord _ (by decide) _) fun _ => ?_
        split
        · exact bind (extends_report _ _ _) fun _ => bind (hrecord _ (by decide) _) fun _ =>
            bind (hmethod _) fun _ => pure _
        · exact bind (hmethod _) fun _ => pure _
      | error error =>
        exact bind (extends_report _ _ _) fun _ => bind (hrecord _ (by decide) _) fun _ =>
          bind (hmethod _) fun _ => pure _
  · exact bind (hmethod _) fun _ => pure _

end SheetSchema.Header
