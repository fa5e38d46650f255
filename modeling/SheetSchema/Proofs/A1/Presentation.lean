import Mathlib
import SheetSchema.Proofs.A1.Qualified
import SheetSchema.Proofs.Json.Numerals

/-!
# Presentations of a range

On its way through shells and tools a range gets a backslash before its separator, quotes around the
whole and blanks around these (`Presents`). All of this is taken off again, and nothing more, so the
range is normalized to itself however it was presented (`normalize_of_presents`).

The title of the sheet may hold quotes, backslashes and blanks of its own. What tells them from
those of the presentation is the last character before the separator: a title that holds any of them
stands in single quotes, and of another one the last character is plain. So no backslash of a title
stands before the separator (`IsTyped.unescapeSeparator_eq`), and quotes around the whole are never
taken for quotes around a name (`not_isInfix_of_getLast?_ne`). Single quotes around the whole are
taken for that if the name has its own, and are not put around such a range.
-/

namespace SheetSchema.A1

variable {name title cells s : List Char}

/-- The name and the cells with the separator between them, or with the escaped one. -/
inductive IsTyped (name cells : List Char) : List Char → Prop
  | plain : IsTyped name cells (name ++ '!' :: cells)
  | escaped : IsTyped name cells (name ++ '\\' :: '!' :: cells)

/-- The range of the sheet `title` as it was typed, or quotes around that. -/
inductive IsWrapped (title cells : List Char) : List Char → Prop
  | bare {s : List Char} (h : IsTyped (quoteTrimmed title) cells s) : IsWrapped title cells s
  | double {s : List Char} (h : IsTyped (quoteTrimmed title) cells s) :
      IsWrapped title cells ('"' :: s ++ ['"'])
  | single {s : List Char} (hplain : title.all isPlain = true)
      (h : IsTyped (quoteTrimmed title) cells s) : IsWrapped title cells ('\'' :: s ++ ['\''])

/-- The text is a presentation of the range that has the cells `cells` on the sheet `sheet`. -/
def Presents (sheet cells given : String) : Prop :=
  ∃ before s after, given.toList = before ++ s ++ after ∧
    (∀ c ∈ before, Text.isBlank c = true) ∧ (∀ c ∈ after, Text.isBlank c = true) ∧
    IsWrapped (Text.trim sheet.toList) cells.toList s

/-! ## Backslashes -/

/-- A backslash before the separator is taken away, and no other character. -/
theorem unescapeSeparator_escaped (hname : '!' ∉ name) (hcells : '!' ∉ cells) :
    unescapeSeparator (name ++ '\\' :: '!' :: cells) = name ++ '!' :: cells := by
  induction name with
  | nil =>
    rw [List.nil_append, unescapeSeparator, unescapeSeparator_of_not_mem hcells, List.nil_append]
  | cons c name ih =>
    simp only [List.mem_cons, not_or] at hname
    rw [List.cons_append, unescapeSeparator, ih hname.2, List.cons_append]
    rintro rest rfl hrest
    cases name with
    | nil => simp at hrest
    | cons d name =>
      obtain ⟨rfl, -⟩ := List.cons.inj hrest
      simp at hname

theorem IsTyped.unescapeSeparator_eq (h : IsTyped name cells s) (hname : '!' ∉ name)
    (hcells : '!' ∉ cells) (hlast : name.getLast? ≠ some '\\') :
    unescapeSeparator s = name ++ '!' :: cells := by
  cases h with
  | plain => exact unescapeSeparator_append hname hcells hlast
  | escaped => exact unescapeSeparator_escaped hname hcells

/-- Quotes around what was typed can be counted to the name and to the cells. -/
theorem IsTyped.wrap (h : IsTyped name cells s) (quote : Char) :
    IsTyped (quote :: name) (cells ++ [quote]) (quote :: s ++ [quote]) := by
  cases h with
  | plain => simpa using @IsTyped.plain (quote :: name) (cells ++ [quote])
  | escaped => simpa using @IsTyped.escaped (quote :: name) (cells ++ [quote])

/-! ## Quotes -/

/-- A quote stands before the separator only if the name ends in it. -/
theorem not_isInfix_of_getLast?_ne {quote : Char} (hne : name ≠ [])
    (hlast : name.getLast? ≠ some quote) (hname : '!' ∉ quote :: name) (hcells : '!' ∉ cells) :
    ¬ [quote, '!'] <:+: quote :: name ++ '!' :: cells := by
  rintro ⟨before, after, h⟩
  have hcut : quote :: name ++ '!' :: cells = (before ++ [quote]) ++ '!' :: after := by
    rw [← h]
    simp
  obtain ⟨heq, -⟩ := (List.append_cons_inj_of_notMem hname hcells).mp hcut
  have hends := congrArg List.getLast? heq
  rw [List.getLast?_concat, List.getLast?_cons_of_ne_nil hne] at hends
  exact hlast hends

/-- Quotes around the whole text are taken off, with the blanks inside them. -/
theorem normalizeChars_of_quoted {raw t : List Char} {quote : Char}
    (hquote : quote = '\'' ∨ quote = '"')
    (hs : unescapeSeparator (Text.trim raw) = quote :: t ++ [quote])
    (hname : ¬ [quote, '!'] <:+: quote :: t) : normalizeChars raw = Text.trim t := by
  have hoccurs : Text.occursIn [quote, '!'] (quote :: t ++ [quote]).dropLast = false := by
    rwa [List.dropLast_concat, ← Bool.not_eq_true, Text.occursIn_iff]
  have hunwrap : unwrap quote (quote :: t ++ [quote]) = Text.trim t := by
    rw [unwrap, isQuotedBy_iff.mpr ⟨t, rfl⟩, hoccurs, inner_quoted]
    rfl
  rw [normalizeChars, hs]
  rcases hquote with rfl | rfl
  · exact hunwrap
  · exact hunwrap

/-! ## Normalizing a presentation -/

/-- The title is given, and the cells are and end in no blank. Neither holds the separator. -/
structure IsRange (title cells : List Char) : Prop where
  title_ne_nil : title ≠ []
  not_mem_title : '!' ∉ title
  cells_ne_nil : cells ≠ []
  not_mem_cells : '!' ∉ cells
  cells_end : ∀ c ∈ cells.getLast?, Text.isBlank c = false

namespace IsRange

theorem noBlankEnds (h : IsRange title cells) (between : List Char) :
    Text.NoBlankEnds (quoteTrimmed title ++ between ++ cells) :=
  noBlankEnds_append (noBlankEnds_quoteTrimmed title).1 h.cells_end
    (quoteTrimmed_ne_nil h.title_ne_nil) h.cells_ne_nil between

theorem noBlankEnds_of_isTyped (h : IsRange title cells)
    (hs : IsTyped (quoteTrimmed title) cells s) : Text.NoBlankEnds s := by
  cases hs with
  | plain => simpa using h.noBlankEnds ['!']
  | escaped => simpa using h.noBlankEnds ['\\', '!']

theorem noBlankEnds_of_isWrapped (h : IsRange title cells) (hs : IsWrapped title cells s) :
    Text.NoBlankEnds s := by
  cases hs with
  | bare hs => exact h.noBlankEnds_of_isTyped hs
  | double hs => exact noBlankEnds_of_isQuotedBy (by decide) (isQuotedBy_iff.mpr ⟨_, rfl⟩)
  | single _ hs => exact noBlankEnds_of_isQuotedBy (by decide) (isQuotedBy_iff.mpr ⟨_, rfl⟩)

/-- Quotes that do not close the name are taken off what was typed. -/
theorem normalizeChars_of_wrap (h : IsRange title cells) (hs : IsTyped (quoteTrimmed title) cells s)
    {quote : Char} (hquote : quote = '\'' ∨ quote = '"')
    (hlast : (quoteTrimmed title).getLast? ≠ some quote) {raw : List Char}
    (hraw : Text.trim raw = quote :: s ++ [quote]) :
    normalizeChars raw = quoteTrimmed title ++ '!' :: cells := by
  have hseparator : '!' ≠ quote := by rcases hquote with rfl | rfl <;> decide
  have hname : '!' ∉ quote :: quoteTrimmed title := by
    simp [hseparator, not_mem_quoteTrimmed h.not_mem_title]
  have hcells : '!' ∉ cells ++ [quote] := by simp [hseparator, h.not_mem_cells]
  have hne := quoteTrimmed_ne_nil h.title_ne_nil
  have hunescape : unescapeSeparator (Text.trim raw) =
      quote :: (quoteTrimmed title ++ '!' :: cells) ++ [quote] := by
    rw [hraw, (hs.wrap quote).unescapeSeparator_eq hname hcells]
    · simp
    · rw [List.getLast?_cons_of_ne_nil hne]
      exact getLast?_quoteTrimmed_ne (by decide) (by decide)
  rw [normalizeChars_of_quoted hquote hunescape
    (not_isInfix_of_getLast?_ne hne hlast hname h.not_mem_cells)]
  exact Text.trim_eq_self (h.noBlankEnds_of_isTyped .plain)

/-- Whatever a range is wrapped in, it is normalized to the range. -/
theorem normalizeChars_of_isWrapped (h : IsRange title cells) (hs : IsWrapped title cells s)
    {raw : List Char} (hraw : Text.trim raw = s) :
    normalizeChars raw = quoteTrimmed title ++ '!' :: cells := by
  cases hs with
  | bare hs =>
    refine normalizeChars_of_unescape h.title_ne_nil h.cells_ne_nil ?_
    rw [hraw]
    exact hs.unescapeSeparator_eq (not_mem_quoteTrimmed h.not_mem_title) h.not_mem_cells
      (getLast?_quoteTrimmed_ne (by decide) (by decide))
  | double hs =>
    exact h.normalizeChars_of_wrap hs (.inr rfl)
      (getLast?_quoteTrimmed_ne (by decide) (by decide)) hraw
  | single hplain hs =>
    refine h.normalizeChars_of_wrap hs (.inl rfl) ?_ hraw
    rw [quoteTrimmed, if_pos hplain]
    intro hlast
    cases List.all_eq_true.mp hplain _ (List.mem_of_getLast? hlast)

end IsRange

/-! ## Ranges that are written -/

theorem isDigit_or_eq_of_mem_toString {n : ℤ} {c : Char} (h : c ∈ (toString n).toList) :
    c.isDigit = true ∨ c = '-' := by
  rw [Text.toList_toString, List.mem_append] at h
  rcases h with h | h
  · split at h
    · exact .inr (List.mem_singleton.mp h)
    · cases h
  · exact .inl (Text.isDigit_of_mem_digitsOf h)

theorem not_mem_toString (n : ℤ) : '!' ∉ (toString n).toList := fun h => by
  rcases isDigit_or_eq_of_mem_toString h with h | h <;> revert h <;> decide

theorem isBlank_of_mem_toString {n : ℤ} {c : Char} (h : c ∈ (toString n).toList) :
    Text.isBlank c = false := by
  rcases isDigit_or_eq_of_mem_toString h with h | rfl
  · exact Text.isBlank_of_isAlphanum (Text.isAlphanum_of_isDigit h)
  · decide

/-- The cells of a range that is written hold no separator and end in no blank if this is so for the
columns. -/
theorem isRange_of_rangeOf {sheet first last cells : String} {row : ℤ} {last? : Option ℤ}
    (hgiven : Text.trim sheet.toList ≠ []) (hname : '!' ∉ Text.trim sheet.toList)
    (hfirst : '!' ∉ first.toList) (hlast : '!' ∉ last.toList)
    (hend : ∀ c ∈ last.toList.getLast?, Text.isBlank c = false)
    (h : rangeOf sheet first row last last? true = .ok (quoteSheet sheet ++ "!" ++ cells)) :
    IsRange (Text.trim sheet.toList) cells.toList := by
  have hcells : cells.toList = first.toList ++ (toString row).toList ++ [':'] ++ last.toList ++
      (last?.elim "" toString).toList := by
    have htext := congrArg String.toList (rangeOf_eq_ok_iff.mp h).2.2
    rw [toList_range, sheetPart, if_pos rfl] at htext
    simpa using htext
  have hrow := not_mem_toString row
  have hstop : '!' ∉ (last?.elim "" toString).toList ∧
      ∀ c ∈ (last?.elim "" toString).toList.getLast?, Text.isBlank c = false := by
    cases last? with
    | none => simp
    | some n =>
      exact ⟨not_mem_toString n, fun c hc => isBlank_of_mem_toString (List.mem_of_getLast? hc)⟩
  refine ⟨hgiven, hname, by simp [hcells], ?_, ?_⟩
  · simp only [hcells, List.mem_append, List.mem_singleton, hfirst, hlast, hrow, hstop.1, or_self,
      or_false, false_or]
    decide
  · intro c hc
    rw [hcells, List.getLast?_append, List.getLast?_append, List.getLast?_concat, Option.mem_def,
      Option.or_eq_some_iff, Option.or_eq_some_iff, Option.some.injEq] at hc
    rcases hc with hc | ⟨-, hc | ⟨-, rfl⟩⟩
    · exact hstop.2 c hc
    · exact hend c hc
    · decide

/-- However a range is presented, it is normalized to the range. The columns may be any texts
without the separator, of which the last one ends in no blank. -/
theorem normalize_of_presents {sheet first last cells given : String} {row : ℤ} {last? : Option ℤ}
    (hgiven : Text.trim sheet.toList ≠ []) (hname : '!' ∉ Text.trim sheet.toList)
    (hfirst : '!' ∉ first.toList) (hlast : '!' ∉ last.toList)
    (hend : ∀ c ∈ last.toList.getLast?, Text.isBlank c = false)
    (h : rangeOf sheet first row last last? true = .ok (quoteSheet sheet ++ "!" ++ cells))
    (hpresents : Presents sheet cells given) :
    normalize given = quoteSheet sheet ++ "!" ++ cells := by
  have hrange := isRange_of_rangeOf hgiven hname hfirst hlast hend h
  obtain ⟨before, s, after, htext, hbefore, hafter, hs⟩ := hpresents
  have htrim : Text.trim given.toList = s := by
    rw [htext, Text.trim_append (hrange.noBlankEnds_of_isWrapped hs) hbefore hafter]
  rw [normalize, hrange.normalizeChars_of_isWrapped hs htrim, quoteSheet]
  exact String.toList_injective (by simp)

/-- A quote, a backslash and blanks in the title, inside what a shell adds, and a plain title in
single quotes. -/
theorem normalize_quoted_escaped :
    normalize " \"'Bob''s \\'\\!A2:C\"\n" = "'Bob''s \\'!A2:C" ∧
      normalize "'Tasks\\!A1:B2'" = "Tasks!A1:B2" := by
  have hquoted : quoteSheet " Bob's \\ " ++ "!" ++ "A2:C" = "'Bob''s \\'!A2:C" := by decide +kernel
  have hplain : quoteSheet "Tasks" ++ "!" ++ "A1:B2" = "Tasks!A1:B2" := by decide +kernel
  rw [← hquoted, ← hplain]
  constructor
  · have h : rangeOf " Bob's \\ " "A" 2 "C" none true =
        .ok (quoteSheet " Bob's \\ " ++ "!" ++ "A2:C") := by decide +kernel
    have hend : ∀ c ∈ "C".toList.getLast?, Text.isBlank c = false := by simp; decide
    have htyped : IsTyped (quoteTrimmed "Bob's \\".toList) "A2:C".toList
        "'Bob''s \\'\\!A2:C".toList := .escaped
    have hpresents : Presents " Bob's \\ " "A2:C" " \"'Bob''s \\'\\!A2:C\"\n" :=
      ⟨[' '], _, ['\n'], rfl, by simp; decide, by simp; decide, .double htyped⟩
    exact normalize_of_presents (by decide) (by decide) (by decide) (by decide) hend h hpresents
  · have h : rangeOf "Tasks" "A" 1 "B" (some 2) true =
        .ok (quoteSheet "Tasks" ++ "!" ++ "A1:B2") := by decide +kernel
    have hend : ∀ c ∈ "B".toList.getLast?, Text.isBlank c = false := by simp; decide
    have htyped : IsTyped (quoteTrimmed "Tasks".toList) "A1:B2".toList "Tasks\\!A1:B2".toList :=
      .escaped
    have hpresents : Presents "Tasks" "A1:B2" "'Tasks\\!A1:B2'" :=
      ⟨[], _, [], rfl, by simp, by simp, .single (by decide) htyped⟩
    exact normalize_of_presents (by decide) (by decide) (by decide) (by decide) hend h hpresents

end SheetSchema.A1
