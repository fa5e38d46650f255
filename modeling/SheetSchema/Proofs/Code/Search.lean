import Mathlib
import SheetSchema.Code.Declaration

/-!
# The first place in a file

A declaration is put into the first place of a file that a matcher accepts. A text without such a
place is searched in vain (`replaceFirst?_eq_none`), and every other text is cut in three by the
first one (`IsFirst`, `none_or_exists_isFirst`): what stands before it, the place itself, and what
follows. To put a declaration into the file is to exchange the middle part (`IsFirst.upsertChars`).
So the file stays as it is if and only if the declaration stands in the first place already
(`upsertChars_eq_self_iff`).
-/

namespace SheetSchema.Code

/-- A search ends at once if it starts at the place. -/
theorem replaceFirst?_of_eq_some {match? : List Char → Option (List Char)} {s after : List Char}
    (h : match? s = some after) (new : List Char) :
    replaceFirst? match? new s = some (new ++ after) := by
  cases s with
  | nil => rw [replaceFirst?, h, Option.map_some]
  | cons c s => rw [replaceFirst?, h]

/-- A search walks over a line in which it finds nothing. -/
theorem replaceFirst?_line {match? : List Char → Option (List Char)} {line rest : List Char}
    (h : ∀ tail, tail <:+ line → match? (tail ++ '\n' :: rest) = none) (new : List Char) :
    replaceFirst? match? new (line ++ '\n' :: rest) =
      (replaceFirst? match? new rest).map (line ++ '\n' :: ·) := by
  induction line with
  | nil =>
    have hnone := h [] List.suffix_rfl
    rw [List.nil_append] at hnone
    rw [List.nil_append, replaceFirst?, hnone]
    rfl
  | cons c line ih =>
    have hnone := h (c :: line) List.suffix_rfl
    rw [List.cons_append] at hnone
    rw [List.cons_append, replaceFirst?, hnone]
    simp only
    rw [ih fun tail htail => h tail (htail.trans (List.suffix_cons c line)), Option.map_map]
    rfl

variable {match? : List Char → Option (List Char)} {before place after s : List Char}

/-! ## The first place -/

/-- No place of the text is accepted. -/
def AcceptsNowhere (match? : List Char → Option (List Char)) (s : List Char) : Prop :=
  ∀ tail, tail <:+ s → match? tail = none

/-- In the text that is made of the three parts, `place` is the first place that is accepted. -/
structure IsFirst (match? : List Char → Option (List Char)) (before place after : List Char) :
    Prop where
  accepted : match? (place ++ after) = some after
  first : ∀ tail, tail <:+ before → tail ≠ [] → match? (tail ++ (place ++ after)) = none

theorem replaceFirst?_eq_none (h : AcceptsNowhere match? s) (new : List Char) :
    replaceFirst? match? new s = none := by
  induction s with
  | nil => rw [replaceFirst?, h [] List.suffix_rfl, Option.map_none]
  | cons c s ih =>
    rw [replaceFirst?, h (c :: s) List.suffix_rfl]
    simp only
    rw [ih fun tail htail => h tail (htail.trans (List.suffix_cons c s)), Option.map_none]

/-- A search exchanges the first place. -/
theorem IsFirst.replaceFirst? (h : IsFirst match? before place after) (new : List Char) :
    replaceFirst? match? new (before ++ (place ++ after)) = some (before ++ (new ++ after)) := by
  induction before with
  | nil => exact replaceFirst?_of_eq_some h.accepted new
  | cons c before ih =>
    have hnone := h.first (c :: before) List.suffix_rfl (List.cons_ne_nil c before)
    rw [List.cons_append] at hnone
    have hrest : IsFirst match? before place after :=
      ⟨h.accepted, fun tail htail => h.first tail (htail.trans (List.suffix_cons c before))⟩
    rw [List.cons_append, Code.replaceFirst?, hnone]
    simp only
    rw [ih hrest]
    rfl

/-- A text has no place that is accepted, or a first one. -/
theorem none_or_exists_isFirst
    (hmatch : ∀ {s after}, match? s = some after → after <:+ s) (s : List Char) :
    AcceptsNowhere match? s ∨
      ∃ before place after, s = before ++ (place ++ after) ∧ IsFirst match? before place after := by
  induction s with
  | nil =>
    cases h : match? [] with
    | none => exact .inl fun tail htail => by rw [List.suffix_nil.mp htail, h]
    | some after =>
      obtain rfl : after = [] := List.suffix_nil.mp (hmatch h)
      refine .inr ⟨[], [], [], rfl, h, fun tail htail hne => ?_⟩
      exact absurd (List.suffix_nil.mp htail) hne
  | cons c s ih =>
    cases h : match? (c :: s) with
    | some after =>
      obtain ⟨place, hplace⟩ := hmatch h
      refine .inr ⟨[], place, after, hplace.symm, hplace ▸ h, fun tail htail hne => ?_⟩
      exact absurd (List.suffix_nil.mp htail) hne
    | none =>
      rcases ih with hnone | ⟨before, place, after, rfl, hfirst⟩
      · refine .inl fun tail htail => ?_
        rcases List.suffix_cons_iff.mp htail with rfl | htail
        · exact h
        · exact hnone tail htail
      · refine .inr ⟨c :: before, place, after, rfl, hfirst.accepted, fun tail htail hne => ?_⟩
        rcases List.suffix_cons_iff.mp htail with rfl | htail
        · exact h
        · exact hfirst.first tail htail hne

/-! ## Putting a declaration into a file -/

variable {header declaration : List Char}

/-- A text is completed with a line end unless it ends with one. -/
theorem exists_withFinalNewline (s : List Char) :
    ∃ t, withFinalNewline s = t ++ ['\n'] ∧ (s = t ∨ s = t ++ ['\n']) := by
  rw [withFinalNewline]
  split
  · next h =>
    obtain ⟨t, rfl⟩ := List.getLast?_eq_some_iff.mp h
    exact ⟨t, rfl, .inr rfl⟩
  · exact ⟨s, rfl, .inl rfl⟩

theorem prefix_withFinalNewline (s : List Char) : s <+: withFinalNewline s := by
  rw [withFinalNewline]
  split
  · exact List.prefix_rfl
  · exact List.prefix_append _ _

theorem IsFirst.upsertChars (h : IsFirst match? before place after)
    (hne : before ++ (place ++ after) ≠ []) :
    upsertChars match? header declaration (before ++ (place ++ after)) =
      before ++ (declaration ++ after) := by
  rw [Code.upsertChars, if_neg (by simpa using hne), h.replaceFirst?]

theorem upsertChars_of_acceptsNowhere (h : AcceptsNowhere match? s) (hne : s ≠ []) :
    upsertChars match? header declaration s = withFinalNewline s ++ (declaration ++ ['\n']) := by
  rw [upsertChars, if_neg (by simpa using hne), replaceFirst?_eq_none h]
  exact List.append_assoc _ _ _

/-- A file without text is as good as one with the header. -/
theorem upsertChars_nil (match? : List Char → Option (List Char)) (header declaration : List Char) :
    upsertChars match? header declaration [] = upsertChars match? header declaration header := by
  cases header <;> rfl

/-- A file stays as it is if and only if the declaration stands in the first place. -/
theorem upsertChars_eq_self_iff (hmatch : ∀ {s after}, match? s = some after → after <:+ s)
    (hne : s ≠ []) : upsertChars match? header declaration s = s ↔
      ∃ before after, s = before ++ (declaration ++ after) ∧
        IsFirst match? before declaration after := by
  constructor
  · intro h
    rcases none_or_exists_isFirst hmatch s with hnone | ⟨before, place, after, rfl, hfirst⟩
    · -- What is put at the end makes the text longer.
      have hlength := congrArg List.length h
      obtain ⟨t, ht, hs⟩ := exists_withFinalNewline s
      rw [upsertChars_of_acceptsNowhere hnone hne, ht] at hlength
      rcases hs with rfl | rfl <;> simp at hlength
    · rw [hfirst.upsertChars hne, List.append_cancel_left_eq, List.append_cancel_right_eq] at h
      exact ⟨before, after, by rw [h], h ▸ hfirst⟩
  · rintro ⟨before, after, rfl, hfirst⟩
    exact hfirst.upsertChars hne

end SheetSchema.Code
