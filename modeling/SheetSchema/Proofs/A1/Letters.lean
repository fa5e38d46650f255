import Mathlib
import SheetSchema.Proofs.A1.Numbering

/-!
# Texts that are read as columns

A text is read as a column if it is a word of letters, or a word with one line end behind it
(`Column.isLetters_iff`), and every other text is refused. A word is read as the index whose letters
are its capitals. The line end counts as a last letter with a value far below zero, so a word and a
line end have an index of their own (`Column.indexOf_concat_newline`): it is negative for the
columns `A` and `B`, and belongs to a column with other letters for all that come after them.

`Column.isReadRightly_iff` says that such a text is the only one that is read as what it is not.
-/

namespace SheetSchema.Column

variable {s : List Char}

/-- A word with one line end behind it. -/
def IsWordLine (s : List Char) : Prop := ∃ word, IsWord word ∧ s = word ++ ['\n']

theorem IsWord.newline_not_mem (h : IsWord s) : '\n' ∉ s := fun hmem => by
  cases h.2 _ hmem

theorem IsWordLine.not_isWord (h : IsWordLine s) : ¬ IsWord s := by
  obtain ⟨word, -, rfl⟩ := h
  exact fun hword => hword.newline_not_mem (by simp)

/-- Letters are a word, with or without a line end behind it. -/
theorem isLetters_iff : isLetters s = true ↔ IsWord s ∨ IsWordLine s := by
  have hbody : ∀ t : List Char, (!t.isEmpty && t.all Char.isAlpha) = true ↔ IsWord t := fun t => by
    simp [IsWord]
  rw [isLetters, hbody]
  by_cases hlast : s.getLast? = some '\n'
  · obtain ⟨body, rfl⟩ := List.getLast?_eq_some_iff.mp hlast
    rw [Text.withoutFinalNewline_concat]
    refine ⟨fun hbody => .inr ⟨body, hbody, rfl⟩, ?_⟩
    rintro (hword | ⟨word, hword, heq⟩)
    · exact absurd (by simp) hword.newline_not_mem
    · rwa [List.append_cancel_right heq]
  · rw [Text.withoutFinalNewline_eq_self hlast]
    refine ⟨.inl, ?_⟩
    rintro (hword | ⟨word, -, rfl⟩)
    · exact hword
    · exact absurd List.getLast?_concat hlast

/-- A line end behind a word moves it to an index of its own. -/
theorem indexOf_concat_newline (word : List Char) :
    indexOf (word ++ ['\n']) = 26 * indexOf word - 29 := by
  have hvalue : letterValue '\n' = -54 := by decide
  rw [indexOf, indexOf, numberFrom_concat, hvalue]
  ring

/-- The text is a word, and the index is the one whose letters are its capitals. -/
structure Names (s : String) (i : ℤ) : Prop where
  isWord : IsWord s.toList
  nonneg : 0 ≤ i
  letters : lettersOf i = .ok (String.ofList (Text.upper s.toList))

theorem names_indexOf {s : String} (h : IsWord s.toList) : Names s (indexOf s.toList) :=
  ⟨h, h.indexOf_nonneg, lettersOf_indexOf h⟩

/-- The text is read as the column that it names, or it is no word and is refused as not valid. -/
def IsReadRightly (s : String) : Prop :=
  (∃ i, index s = .ok i ∧ Names s i) ∨
    ¬ IsWord s.toList ∧ ∃ e, index s = .error e ∧ e.category = .validation

theorem not_isReadRightly_of_isWordLine {s : String} (h : IsWordLine s.toList) :
    ¬ IsReadRightly s := by
  have hread : index s = .ok (indexOf s.toList) := if_pos (isLetters_iff.mpr (.inr h))
  rintro (⟨i, -, hnames⟩ | ⟨-, e, he, -⟩)
  · exact h.not_isWord hnames.isWord
  · rw [hread] at he
    cases he

/-- A text is read as the column that it names, or refused if it names none, unless it is a word
with a line end behind it. Such a text is read as an index of its own. -/
theorem isReadRightly_iff (s : String) :
    (IsReadRightly s ↔ ¬ IsWordLine s.toList) ∧
      ∀ word, IsWord word → s.toList = word ++ ['\n'] →
        index s = .ok (26 * indexOf word - 29) := by
  refine ⟨⟨fun h hline => not_isReadRightly_of_isWordLine hline h, fun hline => ?_⟩, ?_⟩
  · by_cases hword : IsWord s.toList
    · exact .inl ⟨_, index_of_isWord hword, names_indexOf hword⟩
    · have hletters : ¬ isLetters s.toList = true := fun h =>
        (isLetters_iff.mp h).elim hword hline
      exact .inr ⟨hword, .invalidColumn (.str s), if_neg hletters, rfl⟩
  · intro word hword heq
    have hletters : isLetters s.toList = true := isLetters_iff.mpr (.inr ⟨word, hword, heq⟩)
    rw [index, if_pos hletters, heq, indexOf_concat_newline]

/-- Behind the first column a line end makes the index negative, and behind the third one it makes
it that of the column `X`. -/
theorem not_isReadRightly_newline :
    (index "A\n" = .ok (-29) ∧ ¬ IsReadRightly "A\n") ∧
      index "C\n" = .ok 23 ∧ lettersOf 23 = .ok "X" ∧ ¬ IsReadRightly "C\n" := by
  have hword : ∀ c : Char, c.isAlpha = true → IsWord [c] := fun c hc => by simp [IsWord, hc]
  have ha : IsWord ['A'] := hword 'A' rfl
  have hc : IsWord ['C'] := hword 'C' rfl
  obtain ⟨hfirst, hfirstIndex⟩ := isReadRightly_iff "A\n"
  obtain ⟨hthird, hthirdIndex⟩ := isReadRightly_iff "C\n"
  refine ⟨⟨hfirstIndex ['A'] ha rfl, fun h => hfirst.mp h ⟨_, ha, rfl⟩⟩,
    hthirdIndex ['C'] hc rfl, by decide +kernel, fun h => hthird.mp h ⟨_, hc, rfl⟩⟩

end SheetSchema.Column
