import Mathlib
import SheetSchema.Proofs.Name.Camel
import SheetSchema.Proofs.Text.Ascii

/-!
# How identifiers from free text are spelled

The words of a text in a row are its letters and digits (`flatten_words`), and writing a word small
or with a capital moves none of them. So an identifier is spelled as the letters and digits of its
text are, but for their case (`small_of_camelTrimmed?`), whether the text was in lower camel case
before or was taken apart. No identifier comes of a text without letters and digits, or of one whose
first one is a digit (`camelTrimmed?_eq_none_iff`).

`camelCase_fallback_or_isNameOf` puts both together for every text.
-/

namespace SheetSchema.Name

variable {s t : List Char}

/-! ## Words and letters -/

/-- The words of a text in a row are its letters and digits. -/
theorem flatten_words (s : List Char) : (words s).flatten = s.filter Char.isAlphanum := by
  fun_induction words s with
  | case1 => rfl
  | case2 c rest hc ih => rw [ih, List.filter_cons_of_neg (by simpa using hc)]
  | case3 c rest hc hnext word more hwords ih =>
    rw [hwords] at ih
    rw [List.filter_cons_of_pos (by simpa using hc), ← ih]
    rfl
  | case4 c rest hc hnext hwords ih =>
    rw [hwords] at ih
    rw [List.filter_cons_of_pos (by simpa using hc), ← ih]
    rfl
  | case5 c rest hc hnext ih =>
    rw [List.filter_cons_of_pos (by simpa using hc), ← ih]
    rfl

/-- The first word starts with the first letter or digit. -/
theorem find?_of_words {c : Char} {first : List Char} {more : List (List Char)}
    (h : words s = (c :: first) :: more) : s.find? Char.isAlphanum = some c := by
  rw [← List.head?_filter, ← flatten_words, h]
  rfl

theorem small_append (s t : List Char) : small (s ++ t) = small s ++ small t := List.map_append

@[simp] theorem small_small (s : List Char) : small (small s) = small s := by
  simp [small, Function.comp_def]

@[simp] theorem small_title (s : List Char) : small (title s) = small s := by
  cases s with
  | nil => rfl
  | cons c s => simp [small, title, Function.comp_def]

/-- The capitals of words do not count in small letters. -/
theorem small_flatMap_title (ws : List (List Char)) :
    small (ws.flatMap title) = small ws.flatten := by
  induction ws with
  | nil => rfl
  | cons w ws ih =>
    rw [List.flatMap_cons, small_append, small_title, ih, List.flatten_cons, small_append]

/-! ## Texts without a name -/

/-- The first letter or digit of the text, if it has any, is a digit. -/
def IsNameless (s : List Char) : Prop := ∀ c ∈ s.find? Char.isAlphanum, c.isDigit = true

theorem isAlphanum_of_isLowerCamel (h : isLowerCamel s = true) :
    ∀ c ∈ s, c.isAlphanum = true := by
  cases s with
  | nil => simp
  | cons c rest =>
    simp only [isLowerCamel, Bool.and_eq_true, List.all_eq_true] at h
    exact List.forall_mem_cons.mpr ⟨by simp [Char.isAlphanum, Char.isAlpha, h.1], h.2⟩

theorem not_isNameless_of_isLowerCamel (h : isLowerCamel s = true) : ¬ IsNameless s := by
  cases s with
  | nil => simp [isLowerCamel] at h
  | cons c rest =>
    have hfind : (c :: rest).find? Char.isAlphanum = some c :=
      List.find?_cons_of_pos (isAlphanum_of_isLowerCamel h c List.mem_cons_self)
    simp only [isLowerCamel, Bool.and_eq_true] at h
    intro hs
    have := Text.isAlpha_of_isDigit (hs c hfind)
    simp [Char.isAlpha, h.1] at this

/-- A text has no name if and only if its first letter or digit, if it has any, is a digit. -/
theorem camelTrimmed?_eq_none_iff : camelTrimmed? s = none ↔ IsNameless s := by
  unfold camelTrimmed?
  split
  · next hs => simp [not_isNameless_of_isLowerCamel hs]
  · split
    · next hwords =>
      have hnone : s.find? Char.isAlphanum = none := by
        rw [← List.head?_filter, ← flatten_words, hwords]
        rfl
      simp [IsNameless, hnone]
    · next first more hwords =>
      obtain ⟨hne, -⟩ := of_mem_words (hwords ▸ List.mem_cons_self : first ∈ words s)
      obtain ⟨c, rest, rfl⟩ := List.exists_cons_of_ne_nil hne
      cases hdigit : c.isDigit <;> simp [IsNameless, find?_of_words hwords, hdigit]

theorem isNameless_trim_iff : IsNameless (Text.trim s) ↔ IsNameless s := by
  rw [IsNameless, IsNameless, ← List.head?_filter, ← List.head?_filter, Text.filter_isAlphanum_trim]

theorem camelCase?_eq_none_iff {text : String} :
    camelCase? text = none ↔ IsNameless text.toList := by
  rw [camelCase?, Option.map_eq_none_iff, camelTrimmed?_eq_none_iff, isNameless_trim_iff]

/-! ## Names -/

/-- A name has the letters and digits of its text, in order, and nothing else. -/
theorem small_of_camelTrimmed? (h : camelTrimmed? s = some t) :
    small t = small (s.filter Char.isAlphanum) := by
  unfold camelTrimmed? at h
  split at h
  · next hs =>
    obtain rfl := Option.some.inj h
    rw [List.filter_eq_self.mpr (isAlphanum_of_isLowerCamel hs)]
  · split at h
    · cases h
    · next first more hwords =>
      split at h
      · cases h
      · obtain rfl := Option.some.inj h
        rw [small_append, small_small, small_flatMap_title, ← small_append, ← flatten_words, hwords,
          List.flatten_cons]

/-- The name is in lower camel case, is spelled with the letters and digits of the text in order but
for their case, and is its own name. -/
structure IsNameOf (name text : String) : Prop where
  isLowerCamel : isLowerCamel name.toList = true
  spelling : Text.lower name.toList = Text.lower (text.toList.filter Char.isAlphanum)
  camelCase_eq : ∀ fallback, camelCase name fallback = name

theorem isNameOf_of_camelCase? {name text : String} (h : camelCase? text = some name) :
    IsNameOf name text := by
  obtain ⟨t, ht, rfl⟩ := Option.map_eq_some_iff.mp h
  have hcamel := isLowerCamel_of_camelTrimmed? ht
  have halnum := isAlphanum_of_isLowerCamel hcamel
  have hfilter : ∀ c ∈ text.toList.filter Char.isAlphanum, c.isAlphanum = true :=
    fun c hc => (List.mem_filter.mp hc).2
  have hspelling := small_of_camelTrimmed? ht
  rw [Text.filter_isAlphanum_trim] at hspelling
  refine ⟨by rwa [String.toList_ofList], ?_, fun fallback => ?_⟩
  · rw [String.toList_ofList, Text.lower_of_isAlphanum halnum, Text.lower_of_isAlphanum hfilter]
    exact hspelling
  · rw [camelCase, camelCase?, String.toList_ofList, Text.trim_of_isAlphanum halnum,
      camelTrimmed?_of_camelTrimmed? ht]
    rfl

/-- Exactly a text whose first letter or digit, if it has any, is a digit gives the fallback,
whatever that is. Every other text gives a name of its own, whatever the fallback. -/
theorem camelCase_fallback_or_isNameOf (text : String) :
    ((∀ fallback, camelCase text fallback = fallback) ↔ IsNameless text.toList) ∧
    (¬ IsNameless text.toList →
      ∃ name, IsNameOf name text ∧ ∀ fallback, camelCase text fallback = name) := by
  rw [← camelCase?_eq_none_iff]
  cases h : camelCase? text with
  | none => simp [camelCase, h]
  | some name =>
    have hname := isNameOf_of_camelCase? h
    have hcamel : ∀ fallback, camelCase text fallback = name := fun fallback => by
      simp [camelCase, h]
    refine ⟨iff_of_false (fun hall => ?_) (by simp), fun _ => ⟨name, hname, hcamel⟩⟩
    -- Two fallbacks cannot both be the name.
    have hempty : "" = name := (hall "").symm.trans (hcamel "")
    have := hname.isLowerCamel
    rw [← hempty] at this
    cases this

end SheetSchema.Name
