import Mathlib
import SheetSchema.Name.Camel

/-!
# What identifiers from free text look like

Every identifier that a text gives is in lower camel case (`isLowerCamel_of_camelTrimmed?`): its
words are made of letters and digits, and the first one starts with a letter. So an identifier gives
itself (`camelTrimmed?_of_camelTrimmed?`). Lower camel case is kept by letters and digits behind an
identifier (`isLowerCamel_append`).
-/

namespace SheetSchema.Name

variable {s t : List Char}

theorem isAlphanum_toLower {c : Char} (h : c.isAlphanum = true) : c.toLower.isAlphanum = true := by
  cases halpha : c.isAlpha with
  | true => simp [Char.isAlphanum, halpha]
  | false =>
    have hupper : ¬ c.isUpper = true := by
      intro hup
      simp [Char.isAlpha, hup] at halpha
    rwa [Char.toLower_eq_of_not_isUpper hupper]

theorem isAlphanum_toUpper {c : Char} (h : c.isAlphanum = true) : c.toUpper.isAlphanum = true := by
  cases halpha : c.isAlpha with
  | true => simp [Char.isAlphanum, halpha]
  | false =>
    have hlower : ¬ c.isLower = true := by
      intro hlow
      simp [Char.isAlpha, hlow] at halpha
    rwa [Char.toUpper_eq_of_not_isLower hlower]

theorem isAlphanum_of_mem_small (h : ∀ c ∈ s, c.isAlphanum = true) :
    ∀ c ∈ small s, c.isAlphanum = true := by
  intro c hc
  obtain ⟨d, hd, rfl⟩ := List.mem_map.mp hc
  exact isAlphanum_toLower (h d hd)

theorem isAlphanum_of_mem_title (h : ∀ c ∈ s, c.isAlphanum = true) :
    ∀ c ∈ title s, c.isAlphanum = true := by
  cases s with
  | nil => simp [title]
  | cons d s =>
    intro c hc
    rcases List.mem_cons.mp hc with rfl | hc
    · exact isAlphanum_toUpper (h d List.mem_cons_self)
    · exact isAlphanum_of_mem_small (fun e he => h e (List.mem_cons_of_mem d he)) c hc

/-- The words of a text are made of letters and digits, and none is empty. -/
theorem of_mem_words {word : List Char} (h : word ∈ words s) :
    word ≠ [] ∧ ∀ c ∈ word, c.isAlphanum = true := by
  fun_induction words s generalizing word with
  | case1 => simp at h
  | case2 c rest hc ih => exact ih h
  | case3 c rest hc hnext first more hwords ih =>
    rw [hwords] at ih
    rcases List.mem_cons.mp h with rfl | h
    · obtain ⟨-, hfirst⟩ := ih List.mem_cons_self
      refine ⟨List.cons_ne_nil _ _, fun d hd => ?_⟩
      rcases List.mem_cons.mp hd with rfl | hd
      · simpa using hc
      · exact hfirst d hd
    · exact ih (List.mem_cons_of_mem _ h)
  | case4 c rest hc hnext hwords ih =>
    obtain rfl : word = [c] := by simpa using h
    simpa using hc
  | case5 c rest hc hnext ih =>
    rcases List.mem_cons.mp h with rfl | h
    · simpa using hc
    · exact ih h

/-- Identifiers are in lower camel case. -/
theorem isLowerCamel_of_camelTrimmed? (h : camelTrimmed? s = some t) : isLowerCamel t = true := by
  unfold camelTrimmed? at h
  split at h
  · next hs =>
    obtain rfl := Option.some.inj h
    exact hs
  · split at h
    · cases h
    · next first more hwords =>
      obtain ⟨hne, hfirst⟩ := of_mem_words (hwords ▸ List.mem_cons_self : first ∈ words s)
      obtain ⟨c, rest, rfl⟩ := List.exists_cons_of_ne_nil hne
      split at h
      · cases h
      · next hdigit =>
        obtain rfl := Option.some.inj h
        have halpha : c.isAlpha = true := by
          have := hfirst c List.mem_cons_self
          simp only [List.head?_cons, Option.any_some] at hdigit
          simpa [Char.isAlphanum, hdigit] using this
        have hrest : ∀ d ∈ small rest ++ more.flatMap title, d.isAlphanum = true := by
          intro d hd
          rcases List.mem_append.mp hd with hd | hd
          · exact isAlphanum_of_mem_small (fun e he => hfirst e (List.mem_cons_of_mem c he)) d hd
          · obtain ⟨word, hword, hd⟩ := List.mem_flatMap.mp hd
            have hmem : word ∈ words s := hwords ▸ List.mem_cons_of_mem _ hword
            exact isAlphanum_of_mem_title (of_mem_words hmem).2 d hd
        simp only [small, List.map_cons, List.cons_append, isLowerCamel,
          Char.isLower_toLower_eq_isAlpha, halpha, Bool.true_and, List.all_eq_true]
        exact hrest

/-- The identifier of a text is in lower camel case if its fallback is. -/
theorem isLowerCamel_camelCase {fallback : String} (text : String)
    (hfallback : isLowerCamel fallback.toList = true) :
    isLowerCamel (camelCase text fallback).toList = true := by
  rw [camelCase, camelCase?]
  rcases h : camelTrimmed? (Text.trim text.toList) with _ | t
  · exact hfallback
  · rw [Option.map_some, Option.getD_some, String.toList_ofList]
    exact isLowerCamel_of_camelTrimmed? h

/-- Letters and digits behind an identifier keep it in lower camel case. -/
theorem isLowerCamel_append (hs : isLowerCamel s = true) (ht : ∀ c ∈ t, c.isAlphanum = true) :
    isLowerCamel (s ++ t) = true := by
  cases s with
  | nil => simp [isLowerCamel] at hs
  | cons c rest =>
    simp only [isLowerCamel, Bool.and_eq_true] at hs
    simp only [List.cons_append, isLowerCamel, hs, List.all_append, List.all_eq_true.mpr ht,
      Bool.and_self]

/-- An identifier gives itself. -/
theorem camelTrimmed?_of_camelTrimmed? (h : camelTrimmed? s = some t) :
    camelTrimmed? t = some t := by
  rw [camelTrimmed?, if_pos (isLowerCamel_of_camelTrimmed? h)]

end SheetSchema.Name
