import Mathlib
import SheetSchema.Text.Blank
import SheetSchema.Text.Split

/-!
# Trimmed texts and cut texts

A trimmed text has no blank at its ends (`NoBlankEnds`), and a text without one is trimmed already
(`trim_eq_self`). So what starts and ends with a visible character survives trimming, whatever
blanks stand around it (`trim_append`), and no visible character is lost (`filter_trim`). A text is
cut at the first occurrence of a character (`breakOn?_append`), and the part before the cut does not
hold it (`of_breakOn?`), or at every occurrence (`splitOn_cases`). A word occurs in a text exactly
if it is a part of it (`occursIn_iff`), and is cut where it occurs first (`breakOn?_word`). A line
end is taken off only where there is one (`withoutFinalNewline_eq_self`,
`withoutFinalNewline_concat`).
-/

namespace SheetSchema.Text

/-! ## Blanks at the ends -/

/-- Neither the first nor the last character is blank. -/
def NoBlankEnds (s : List Char) : Prop :=
  (∀ c ∈ s.head?, isBlank c = false) ∧ ∀ c ∈ s.getLast?, isBlank c = false

theorem trimEnd_eq_rdropWhile (s : List Char) : trimEnd s = s.rdropWhile isBlank := rfl

theorem dropWhile_isBlank_eq_self {s : List Char} (h : ∀ c ∈ s.head?, isBlank c = false) :
    s.dropWhile isBlank = s := by
  cases s with
  | nil => rfl
  | cons c rest => simp [h c (by simp)]

/-- A text without blanks at its ends is trimmed. -/
theorem trim_eq_self {s : List Char} (h : NoBlankEnds s) : trim s = s := by
  have hrev : ∀ c ∈ s.reverse.head?, isBlank c = false := by simpa using h.2
  rw [trim, trimEnd, dropWhile_isBlank_eq_self h.1, dropWhile_isBlank_eq_self hrev,
    List.reverse_reverse]

theorem isInfix_trim (s : List Char) : trim s <:+: s :=
  (List.rdropWhile_prefix isBlank _).isInfix.trans (List.dropWhile_suffix isBlank).isInfix

theorem mem_of_mem_trim {s : List Char} {c : Char} (h : c ∈ trim s) : c ∈ s :=
  (isInfix_trim s).subset h

theorem length_trim_le (s : List Char) : (trim s).length ≤ s.length :=
  (isInfix_trim s).length_le

/-- A trimmed text has no blank at its ends. -/
theorem noBlankEnds_trim (s : List Char) : NoBlankEnds (trim s) := by
  constructor
  · intro c hc
    -- What is left after trimming the end starts where the untrimmed rest starts.
    obtain ⟨t, ht⟩ := List.rdropWhile_prefix isBlank (s.dropWhile isBlank)
    have hhead : (s.dropWhile isBlank).head? = some c := by
      rw [← ht, List.head?_append]
      simp [show (List.rdropWhile isBlank (s.dropWhile isBlank)).head? = some c from hc]
    have := List.head?_dropWhile_not isBlank s
    rw [hhead] at this
    simpa using this
  · intro c hc
    have hne : List.rdropWhile isBlank (s.dropWhile isBlank) ≠ [] := by
      intro hnil
      rw [trim, trimEnd_eq_rdropWhile, hnil] at hc
      simp at hc
    have hlast := List.rdropWhile_last_not isBlank (s.dropWhile isBlank) hne
    rw [trim, trimEnd_eq_rdropWhile, List.getLast?_eq_some_getLast hne] at hc
    obtain rfl : _ = c := by simpa using hc
    simpa using hlast

@[simp] theorem trim_trim (s : List Char) : trim (trim s) = trim s :=
  trim_eq_self (noBlankEnds_trim s)

/-- Nothing is left of a text exactly if all of it is blank. -/
theorem trim_eq_nil_iff {s : List Char} : trim s = [] ↔ s.all isBlank = true := by
  rw [trim, trimEnd_eq_rdropWhile, List.rdropWhile_eq_nil_iff, List.all_eq_true]
  constructor
  · intro h c hc
    by_contra hb
    have hne : s.dropWhile isBlank ≠ [] := fun hnil => hb (List.dropWhile_eq_nil_iff.mp hnil c hc)
    have := List.head_dropWhile_not isBlank hne
    simp [h _ (List.head_mem hne)] at this
  · intro h c hc
    exact h c ((List.dropWhile_suffix isBlank).subset hc)

/-- Blanks around a text without any at its ends are trimmed away. -/
theorem trim_append {before s after : List Char} (hs : NoBlankEnds s)
    (hbefore : ∀ c ∈ before, isBlank c = true) (hafter : ∀ c ∈ after, isBlank c = true) :
    trim (before ++ s ++ after) = s := by
  by_cases hne : s = []
  · subst hne
    rw [trim_eq_nil_iff, List.append_nil, List.all_append, List.all_eq_true.mpr hbefore,
      List.all_eq_true.mpr hafter, Bool.and_self]
  have hhead : (s ++ after).dropWhile isBlank = s ++ after :=
    dropWhile_isBlank_eq_self (by rw [List.head?_append_of_ne_nil _ hne]; exact hs.1)
  have hlast : s.reverse.dropWhile isBlank = s.reverse :=
    dropWhile_isBlank_eq_self (by rw [List.head?_reverse]; exact hs.2)
  rw [trim, List.append_assoc, List.dropWhile_append_of_pos hbefore, hhead, trimEnd,
    List.reverse_append, List.dropWhile_append_of_pos (by simpa using hafter), hlast,
    List.reverse_reverse]

/-- A text is its trimmed text with blanks around it. -/
theorem exists_eq_append_trim (s : List Char) : ∃ before after, s = before ++ trim s ++ after ∧
    (∀ c ∈ before, isBlank c = true) ∧ ∀ c ∈ after, isBlank c = true := by
  refine ⟨s.takeWhile isBlank, (s.dropWhile isBlank).rtakeWhile isBlank, ?_,
    fun c hc => List.mem_takeWhile_imp hc, fun c hc => List.mem_rtakeWhile_imp hc⟩
  have hend : trim s ++ (s.dropWhile isBlank).rtakeWhile isBlank = s.dropWhile isBlank :=
    List.rdropWhile_append_rtakeWhile
  rw [List.append_assoc, hend, List.takeWhile_append_dropWhile]

/-- Trimming keeps every character of a class that has no blanks. -/
theorem filter_trim {p : Char → Bool} (h : ∀ c, isBlank c = true → p c = false) (s : List Char) :
    (trim s).filter p = s.filter p := by
  obtain ⟨before, after, hs, hbefore, hafter⟩ := exists_eq_append_trim s
  have hnone : ∀ t : List Char, (∀ c ∈ t, isBlank c = true) → t.filter p = [] := fun t ht =>
    List.filter_eq_nil_iff.mpr fun c hc => by simp [h c (ht c hc)]
  conv_rhs => rw [hs]
  rw [List.filter_append, List.filter_append, hnone before hbefore, hnone after hafter,
    List.nil_append, List.append_nil]

/-! ## Cutting at a character -/

theorem breakOn?_append {c : Char} {before : List Char} (h : c ∉ before) (after : List Char) :
    breakOn? [c] (before ++ c :: after) = some (before, after) := by
  induction before with
  | nil => simp [breakOn?, afterPrefix?]
  | cons d before ih =>
    simp only [List.mem_cons, not_or] at h
    simp [breakOn?, afterPrefix?, h.1, ih h.2]

theorem breakOn?_eq_none {c : Char} {s : List Char} (h : c ∉ s) : breakOn? [c] s = none := by
  induction s with
  | nil => rfl
  | cons d s ih =>
    simp only [List.mem_cons, not_or] at h
    simp [breakOn?, afterPrefix?, h.1, ih h.2]

/-- The parts on both sides of a cut make up the text, and the first has no place to cut. -/
theorem of_breakOn? {c : Char} {s before after : List Char}
    (h : breakOn? [c] s = some (before, after)) : s = before ++ c :: after ∧ c ∉ before := by
  induction s generalizing before with
  | nil => simp [breakOn?, afterPrefix?] at h
  | cons d s ih =>
    by_cases hcd : c = d
    · subst hcd
      obtain ⟨rfl, rfl⟩ : [] = before ∧ s = after := by simpa [breakOn?, afterPrefix?] using h
      simp
    · obtain ⟨b, hb, rfl⟩ : ∃ b, breakOn? [c] s = some (b, after) ∧ d :: b = before := by
        simpa [breakOn?, afterPrefix?, hcd] using h
      obtain ⟨rfl, hc⟩ := ih hb
      simp [hcd, hc]

theorem splitOn_eq_singleton {sep : Char} {s : List Char} (h : sep ∉ s) : splitOn sep s = [s] := by
  induction s with
  | nil => rfl
  | cons c s ih =>
    simp only [List.mem_cons, not_or] at h
    simp [splitOn, ih h.2, Ne.symm h.1]

theorem splitOn_append {sep : Char} {before : List Char} (h : sep ∉ before) (after : List Char) :
    splitOn sep (before ++ sep :: after) = before :: splitOn sep after := by
  obtain ⟨piece, pieces, hp⟩ := List.exists_cons_of_ne_nil (splitOn_ne_nil sep after)
  induction before with
  | nil => simp [splitOn, hp]
  | cons c before ih =>
    simp only [List.mem_cons, not_or] at h
    simp [splitOn, ih h.2, Ne.symm h.1]

/-- A text has no separator, or a piece on each side of its only one, or more separators. -/
theorem splitOn_cases (sep : Char) (s : List Char) :
    (sep ∉ s ∧ splitOn sep s = [s]) ∨
    (∃ before after, s = before ++ sep :: after ∧ sep ∉ before ∧ sep ∉ after ∧
      splitOn sep s = [before, after]) ∨
    2 ≤ s.count sep ∧
      ∃ first second third more, splitOn sep s = first :: second :: third :: more := by
  by_cases hs : sep ∈ s
  · obtain ⟨before, rest, rfl, hbefore⟩ := List.eq_append_cons_of_mem hs
    rw [splitOn_append hbefore]
    by_cases hrest : sep ∈ rest
    · obtain ⟨second, after, rfl, hsecond⟩ := List.eq_append_cons_of_mem hrest
      obtain ⟨third, more, hmore⟩ := List.exists_cons_of_ne_nil (splitOn_ne_nil sep after)
      rw [splitOn_append hsecond, hmore]
      refine .inr (.inr ⟨?_, before, second, third, more, rfl⟩)
      simp only [List.count_append, List.count_cons_self]
      omega
    · exact .inr (.inl ⟨before, rest, rfl, hbefore, hrest, by rw [splitOn_eq_singleton hrest]⟩)
  · exact .inl ⟨hs, splitOn_eq_singleton hs⟩

/-! ## A line end at the end -/

theorem withoutFinalNewline_eq_self {s : List Char} (h : s.getLast? ≠ some '\n') :
    withoutFinalNewline s = s := if_neg h

theorem withoutFinalNewline_concat (s : List Char) : withoutFinalNewline (s ++ ['\n']) = s := by
  rw [withoutFinalNewline, if_pos List.getLast?_concat, List.dropLast_concat]

/-! ## Words in a text -/

theorem afterPrefix?_append (word rest : List Char) :
    afterPrefix? word (word ++ rest) = some rest := by
  induction word with
  | nil => rfl
  | cons c word ih => simp [afterPrefix?, ih]

theorem isSome_afterPrefix?_iff {word text : List Char} :
    (afterPrefix? word text).isSome = true ↔ word <+: text := by
  constructor
  · intro h
    obtain ⟨rest, hrest⟩ := Option.isSome_iff_exists.mp h
    exact ⟨rest, (eq_append_of_afterPrefix? hrest).symm⟩
  · rintro ⟨rest, rfl⟩
    rw [afterPrefix?_append, Option.isSome_some]

/-- A word occurs in a text if and only if it is a part of it. -/
theorem occursIn_iff {word text : List Char} : occursIn word text = true ↔ word <:+: text := by
  rw [occursIn]
  induction text with
  | nil =>
    rw [breakOn?, Option.isSome_map, isSome_afterPrefix?_iff, List.prefix_nil, List.infix_nil]
  | cons c text ih =>
    rw [breakOn?, List.infix_cons_iff, ← ih, ← isSome_afterPrefix?_iff]
    cases afterPrefix? word (c :: text) with
    | none => simp
    | some rest => simp

/-- A word of one line that starts where a line does lies in that line. -/
theorem prefix_of_prefix_line {word line rest : List Char} (hword : '\n' ∉ word)
    (h : word <+: line ++ '\n' :: rest) : word <+: line := by
  rcases List.prefix_or_prefix_of_prefix h (List.prefix_append _ _) with hprefix | ⟨t, rfl⟩
  · exact hprefix
  · cases t with
    | nil => rw [List.append_nil]
    | cons c t =>
      rw [List.prefix_append_right_inj] at h
      obtain rfl : c = '\n' := (List.cons_prefix_cons.mp h).1
      exact absurd (by simp) hword

/-- A word is cut at its first occurrence. -/
theorem breakOn?_word {word before : List Char} (hword : word ≠ [])
    (h : ¬ word <:+: (before ++ word).dropLast) (rest : List Char) :
    breakOn? word (before ++ word ++ rest) = some (before, rest) := by
  induction before with
  | nil =>
    obtain ⟨c, word, rfl⟩ := List.exists_cons_of_ne_nil hword
    have hstart := afterPrefix?_append (c :: word) rest
    rw [List.cons_append] at hstart
    rw [List.nil_append, List.cons_append, breakOn?, hstart]
  | cons c before ih =>
    have hne : before ++ word ≠ [] := by simp [hword]
    rw [List.cons_append, List.dropLast_cons_of_ne_nil hne, List.infix_cons_iff, not_or] at h
    have hnone : afterPrefix? word (c :: (before ++ word ++ rest)) = none := by
      rw [← Option.not_isSome_iff_eq_none, isSome_afterPrefix?_iff]
      intro hprefix
      refine h.1 (List.prefix_of_prefix_length_le hprefix ?_ ?_)
      · exact List.cons_prefix_cons.mpr
          ⟨rfl, (List.dropLast_prefix _).trans (List.prefix_append _ _)⟩
      · have := List.length_pos_iff.mpr hword
        simp
        omega
    rw [List.cons_append, List.cons_append, breakOn?, hnone]
    simp only
    rw [ih h.2]
    rfl

end SheetSchema.Text
