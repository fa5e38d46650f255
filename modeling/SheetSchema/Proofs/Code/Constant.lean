import Mathlib
import SheetSchema.Code.Declaration
import SheetSchema.Proofs.Code.Search
import SheetSchema.Proofs.Text.Lines
import SheetSchema.Schema.Field

/-!
# Range constants in any file

What counts as the declaration of a constant is a text of one line (`IsDeclaration`): its first
words, a quote, anything, another quote and a semicolon. The search takes the longest such text that
starts where it stands (`afterConstant?_eq_some_iff`), and a file declares a constant if and only if
there is such a text anywhere in it (`hasConstant_iff`).

The first words of a constant do not overlap with those of another place
(`exists_of_append_constantStart`). So where a declaration stands does not change when another one
is put into its place (`IsFirst.exchange`), whatever surrounds it. A constant is set by putting it
into the file (`setsConstant_of_isConstantName`): of two ranges the last one wins, and one line
changes or is added.
-/

namespace SheetSchema.Code

/-- A name of letters, digits, low lines and dollar signs. -/
def IsConstantName (name : List Char) : Prop := ∀ c ∈ name, Field.isNamePart c = true

variable {name other : List Char}

theorem IsConstantName.not_mem (h : IsConstantName name) {c : Char}
    (hc : Field.isNamePart c = false) : c ∉ name := fun hmem => by
  rw [h c hmem] at hc
  cases hc

/-- The words that every constant starts with. -/
def constantWords : List Char := "export const ".toList

theorem constantStart_eq (name : List Char) :
    constantStart name = constantWords ++ (name ++ [' ', '=', ' ']) := by
  unfold constantStart constantWords
  exact List.append_assoc _ _ _

/-- The first words of a constant have nothing in them that a name does not have, but for blanks and
the equality sign. -/
theorem IsConstantName.not_mem_constantStart (h : IsConstantName name) {c : Char}
    (hc : Field.isNamePart c = false) (hblank : c ≠ ' ') (hequal : c ≠ '=') :
    c ∉ constantStart name := by
  have hwords : constantWords.all (fun d => Field.isNamePart d || d == ' ') = true := by
    decide +kernel
  rw [constantStart_eq, List.mem_append, List.mem_append]
  rintro (hmem | hmem | hmem)
  · have hword := List.all_eq_true.mp hwords c hmem
    simp [hc, hblank] at hword
  · exact h.not_mem hc hmem
  · simp [hblank, hequal] at hmem

theorem ne_newline_of_isQuote {q : Char} (h : isQuote q = true) : q ≠ '\n' := by
  rintro rfl
  cases h

/-! ## The last quote of a line -/

/-- A quote before a semicolon is the last one, unless there is one after it. -/
theorem afterLastQuote?_append {value : List Char} {q : Char} (hvalue : '\n' ∉ value)
    (hq : isQuote q = true) (after : List Char) :
    afterLastQuote? (value ++ q :: ';' :: after) = some ((afterLastQuote? after).getD after) := by
  induction value with
  | nil =>
    have hsemicolon : isQuote ';' = false := rfl
    rw [List.nil_append, afterLastQuote?, if_neg (ne_newline_of_isQuote hq), afterLastQuote?,
      if_neg (by decide)]
    cases afterLastQuote? after with
    | some more => rfl
    | none => simp [hq, hsemicolon]
  | cons c value ih =>
    simp only [List.mem_cons, not_or] at hvalue
    rw [List.cons_append, afterLastQuote?, if_neg (Ne.symm hvalue.1), ih hvalue.2]

theorem of_afterLastQuote? {s after : List Char} (h : afterLastQuote? s = some after) :
    ∃ value q, s = value ++ q :: ';' :: after ∧ isQuote q = true ∧ '\n' ∉ value ∧
      afterLastQuote? after = none := by
  induction s with
  | nil => cases h
  | cons c s ih =>
    rw [afterLastQuote?] at h
    by_cases hc : c = '\n'
    · rw [if_pos hc] at h
      cases h
    · rw [if_neg hc] at h
      cases hs : afterLastQuote? s with
      | some more =>
        rw [hs] at h
        obtain ⟨value, q, rfl, hq, hvalue, hnone⟩ := ih (hs.trans h)
        exact ⟨c :: value, q, rfl, hq, by simp [hvalue, Ne.symm hc], hnone⟩
      | none =>
        simp only [hs, Option.ite_none_right_eq_some, Bool.and_eq_true, beq_iff_eq] at h
        obtain ⟨⟨hq, hhead⟩, hafter⟩ := h
        obtain ⟨rest, rfl⟩ := List.head?_eq_some_iff.mp hhead
        obtain rfl : rest = after := Option.some.inj hafter
        refine ⟨[], c, rfl, hq, List.not_mem_nil, ?_⟩
        -- A later quote would have been found from the semicolon on.
        cases hrest : afterLastQuote? rest with
        | none => rfl
        | some more => simp [afterLastQuote?, hrest] at hs

/-! ## Declarations -/

/-- A declaration of the constant, in one line. -/
inductive IsDeclaration (name : List Char) : List Char → Prop where
  | intro {value : List Char} {q q' : Char} (hq : isQuote q = true) (hvalue : '\n' ∉ value)
      (hq' : isQuote q' = true) :
      IsDeclaration name (constantStart name ++ q :: (value ++ [q', ';']))

/-- The search takes a declaration after which no quote and semicolon are left in the line. -/
theorem afterConstant?_eq_some_iff {s after : List Char} :
    afterConstant? name s = some after ↔
      ∃ place, IsDeclaration name place ∧ s = place ++ after ∧ afterLastQuote? after = none := by
  constructor
  · intro h
    rw [afterConstant?] at h
    split at h
    · next q rest hrest =>
      split at h
      · next hq =>
        obtain ⟨value, q', rfl, hq', hvalue, hnone⟩ := of_afterLastQuote? h
        refine ⟨_, .intro hq hvalue hq', ?_, hnone⟩
        rw [Text.eq_append_of_afterPrefix? hrest]
        simp
      · cases h
    · cases h
  · rintro ⟨_, ⟨hq, hvalue, hq'⟩, rfl, hnone⟩
    have hclose := afterLastQuote?_append hvalue hq' after
    rw [hnone, Option.getD_none] at hclose
    rw [afterConstant?, List.append_assoc, Text.afterPrefix?_append]
    simp only [List.cons_append, List.append_assoc, List.nil_append, hq, if_true]
    exact hclose

theorem suffix_of_afterConstant? {s after : List Char} (h : afterConstant? name s = some after) :
    after <:+ s := by
  obtain ⟨place, -, rfl, -⟩ := afterConstant?_eq_some_iff.mp h
  exact List.suffix_append _ _

/-- Something is taken if and only if the text starts with a declaration. -/
theorem isSome_afterConstant?_iff {s : List Char} :
    (afterConstant? name s).isSome = true ↔ ∃ place, IsDeclaration name place ∧ place <+: s := by
  constructor
  · intro h
    obtain ⟨after, hafter⟩ := Option.isSome_iff_exists.mp h
    obtain ⟨place, hplace, rfl, -⟩ := afterConstant?_eq_some_iff.mp hafter
    exact ⟨place, hplace, List.prefix_append _ _⟩
  · rintro ⟨_, ⟨hq, hvalue, hq'⟩, after, rfl⟩
    have hclose := afterLastQuote?_append hvalue hq' after
    rw [afterConstant?, List.append_assoc, Text.afterPrefix?_append]
    simp only [List.cons_append, List.append_assoc, List.nil_append, hq, if_true]
    rw [hclose, Option.isSome_some]

/-- The text has no declaration. -/
theorem acceptsNowhere_iff {s : List Char} :
    AcceptsNowhere (afterConstant? name) s ↔
      ∀ place, IsDeclaration name place → ¬ place <:+: s := by
  constructor
  · intro h place hplace hinside
    obtain ⟨tail, hstarts, hsuffix⟩ := List.infix_iff_prefix_suffix.mp hinside
    have hsome := isSome_afterConstant?_iff.mpr ⟨place, hplace, hstarts⟩
    rw [h tail hsuffix] at hsome
    cases hsome
  · intro h tail hsuffix
    rw [← Option.not_isSome_iff_eq_none, isSome_afterConstant?_iff]
    rintro ⟨place, hplace, hstarts⟩
    exact h place hplace (hstarts.isInfix.trans hsuffix.isInfix)

/-- A file declares a constant if and only if a declaration of it is anywhere in the text. -/
theorem hasConstant_iff {content name : String} :
    hasConstant content name = true ↔
      ∃ place, IsDeclaration name.toList place ∧ place <:+: content.toList := by
  rw [hasConstant]
  constructor
  · intro h
    by_contra hnone
    have hnowhere :=
      acceptsNowhere_iff.mpr fun place hplace hinside => hnone ⟨place, hplace, hinside⟩
    rw [replaceFirst?_eq_none hnowhere] at h
    cases h
  · rintro ⟨place, hplace, hinside⟩
    rcases none_or_exists_isFirst suffix_of_afterConstant? content.toList with
      hnone | ⟨before, span, after, hcontent, hfirst⟩
    · exact absurd hinside (acceptsNowhere_iff.mp hnone place hplace)
    · rw [hcontent, hfirst.replaceFirst?, Option.isSome_some]

/-- What a part of the file declares, the file declares. -/
theorem hasConstant_of_isInfix {part content name : String} (h : hasConstant part name = true)
    (hpart : part.toList <:+: content.toList) : hasConstant content name = true := by
  obtain ⟨place, hplace, hinside⟩ := hasConstant_iff.mp h
  exact hasConstant_iff.mpr ⟨place, hplace, hinside.trans hpart⟩

theorem IsDeclaration.not_mem_newline (hname : IsConstantName name) {place : List Char}
    (h : IsDeclaration name place) : '\n' ∉ place := by
  obtain ⟨hq, hvalue, hq'⟩ := h
  have hstart := hname.not_mem_constantStart (c := '\n') (by decide) (by decide) (by decide)
  simp [hstart, hvalue, Ne.symm (ne_newline_of_isQuote hq), Ne.symm (ne_newline_of_isQuote hq')]

/-- A literal has no line end in it. -/
theorem newline_not_mem_literalChar (c : Char) : '\n' ∉ literalChar c := by
  rw [literalChar]
  split
  · decide
  · split
    · decide
    · split
      · decide
      · next hc => simpa using Ne.symm hc

theorem isDeclaration_constantDeclaration (name range : String) :
    IsDeclaration name.toList (constantDeclaration name range) := by
  have hvalue : '\n' ∉ range.toList.flatMap literalChar := fun hmem => by
    obtain ⟨c, -, hc⟩ := List.mem_flatMap.mp hmem
    exact newline_not_mem_literalChar c hc
  have hshape : constantDeclaration name range = constantStart name.toList ++
      '\'' :: (range.toList.flatMap literalChar ++ ['\'', ';']) := by
    simp [constantDeclaration, literalChars]
  rw [hshape]
  exact .intro rfl hvalue rfl

/-! ## First words do not overlap -/

/-- A tail of the first words of a constant, and the quote after them, do not start like first words
again. -/
theorem constantWords_append_ne (hname : IsConstantName name) {head w rest more : List Char}
    {q : Char} (hhead : head ≠ []) (hstart : constantStart name = head ++ w)
    (hq : isQuote q = true) :
    constantWords ++ more ≠ w ++ q :: rest := by
  intro h
  have hfirst : ∀ c u, w ++ q :: rest = c :: u → c = 'e' := fun c u hw =>
    (List.cons.inj (h.trans hw)).1.symm
  rw [constantStart_eq] at hstart
  -- The letter that the words start with is not in them again, so the tail starts after them.
  obtain ⟨u, rfl⟩ : ∃ u, head = constantWords ++ u := by
    rcases List.append_eq_append_iff.mp hstart with ⟨u, hu, -⟩ | ⟨u, hu, rfl⟩
    · exact ⟨u, hu⟩
    · cases u with
      | nil => exact ⟨[], by rw [hu, List.append_nil, List.append_nil]⟩
      | cons c u =>
        obtain rfl := hfirst c _ rfl
        have hmem : 'e' ∈ constantWords.tail := by
          rw [hu, List.tail_append_of_ne_nil hhead]
          exact List.mem_append_right _ List.mem_cons_self
        exact absurd hmem (by decide)
  rw [List.append_assoc, List.append_cancel_left_eq] at hstart
  rcases List.append_eq_append_iff.mp hstart with ⟨v, -, hv⟩ | ⟨v, hv, rfl⟩
  · -- Nothing in the equality sign between blanks and the quote is that letter.
    have hmem : 'e' ∈ [' ', '=', ' '] ++ [q] := by
      rw [hv, List.append_assoc]
      refine List.mem_append_right _ ?_
      cases w with
      | nil => rw [hfirst q rest rfl]; exact List.mem_singleton_self _
      | cons c w => rw [hfirst c _ rfl]; exact List.mem_cons_self
    simp only [List.cons_append, List.nil_append, List.mem_cons, List.not_mem_nil, or_false] at hmem
    rcases hmem with hmem | hmem | hmem | rfl
    · cases hmem
    · cases hmem
    · cases hmem
    · cases hq
  · -- In the name there is no blank, so the equality sign would have to start with the next word.
    have hblank : ' ' ∉ v := fun hmem =>
      hname.not_mem (c := ' ') (by decide) (by rw [hv]; exact List.mem_append_right _ hmem)
    have hcut : constantWords = "export".toList ++ ' ' :: "const ".toList := rfl
    rw [hcut, List.append_assoc, List.append_assoc] at h
    have hafter := (Text.eq_of_append_cons_eq (by decide) hblank h).2
    cases hafter

/-- Where first words are followed by those of another constant, they are complete before. -/
theorem exists_of_append_constantStart (hname : IsConstantName name) {head rest more : List Char}
    {q : Char} (hhead : head ≠ []) (hq : isQuote q = true)
    (h : head ++ (constantWords ++ more) = constantStart name ++ q :: rest) :
    ∃ value, head = constantStart name ++ q :: value ∧ rest = value ++ (constantWords ++ more) := by
  rcases List.append_eq_append_iff.mp h with ⟨w, hstart, hw⟩ | ⟨w, rfl, hw⟩
  · exact absurd hw (constantWords_append_ne hname hhead hstart hq)
  · cases w with
    | nil =>
      obtain rfl : q = 'e' := (List.cons.inj hw).1
      cases hq
    | cons c value =>
      obtain ⟨rfl, rfl⟩ := List.cons.inj hw
      exact ⟨value, rfl, rfl⟩

/-! ## One declaration for another -/

variable {place old new before after : List Char}

theorem IsDeclaration.exists_words (h : IsDeclaration name place) :
    ∃ rest, place = constantWords ++ rest := by
  obtain ⟨hq, hvalue, hq'⟩ := h
  rw [constantStart_eq, List.append_assoc]
  exact ⟨_, rfl⟩

theorem IsDeclaration.ne_nil (h : IsDeclaration name place) : place ≠ [] := by
  have hwords : constantWords ≠ [] := by decide
  obtain ⟨rest, rfl⟩ := h.exists_words
  exact List.append_ne_nil_of_left_ne_nil hwords rest

theorem IsDeclaration.exists_close (hname : IsConstantName name) (h : IsDeclaration name place) :
    ∃ body q, place = body ++ [q, ';'] ∧ isQuote q = true ∧ '\n' ∉ body := by
  have hline := h.not_mem_newline hname
  obtain @⟨value, q, q', hq, hvalue, hq'⟩ := h
  refine ⟨constantStart name ++ q :: value, q', by simp, hq', fun hmem => hline ?_⟩
  simp only [List.mem_append, List.mem_cons] at hmem ⊢
  tauto

/-- A declaration of any constant that starts before another declaration is there whatever the other
one says. -/
theorem isSome_afterConstant?_exchange (hname : IsConstantName name) (hother : IsConstantName other)
    (hold : IsDeclaration name old) (hnew : IsDeclaration name new) {head : List Char}
    (hhead : head ≠ []) (h : (afterConstant? other (head ++ (old ++ after))).isSome = true) :
    (afterConstant? other (head ++ (new ++ after))).isSome = true := by
  rw [isSome_afterConstant?_iff] at h ⊢
  obtain ⟨_, @⟨value, q, q', hq, hvalue, hq'⟩, rest, hrest⟩ := h
  obtain ⟨words, rfl⟩ := hold.exists_words
  rw [List.append_assoc, List.append_assoc, List.cons_append] at hrest
  obtain ⟨start, rfl, hstart⟩ := exists_of_append_constantStart hother hhead hq hrest.symm
  rcases List.append_eq_append_iff.mp hstart with ⟨w, rfl, -⟩ | ⟨w, hw, -⟩
  · -- It ends before the other one starts.
    exact ⟨_, .intro hq hvalue hq', by simp⟩
  · -- It goes on into the other one, so it can end where that one ends.
    obtain ⟨body, close, rfl, hclose, hbody⟩ := hnew.exists_close hname
    have hline : '\n' ∉ start ++ body := by
      have hmem : '\n' ∉ value ++ [q', ';'] := by
        simp [hvalue, Ne.symm (ne_newline_of_isQuote hq')]
      rw [hw, List.mem_append, not_or] at hmem
      simp [hmem.1, hbody]
    exact ⟨_, .intro hq hline hclose, by simp⟩

/-- The first place is a declaration, with no quote and semicolon left in the line. -/
theorem IsFirst.isDeclaration (h : IsFirst (afterConstant? name) before old after) :
    IsDeclaration name old ∧ afterLastQuote? after = none := by
  obtain ⟨place, hplace, heq, hnone⟩ := afterConstant?_eq_some_iff.mp h.accepted
  obtain rfl := List.append_cancel_right heq
  exact ⟨hplace, hnone⟩

/-- Another declaration in the same place is in the first place as well. -/
theorem IsFirst.exchange (hname : IsConstantName name)
    (h : IsFirst (afterConstant? name) before old after) (hnew : IsDeclaration name new) :
    IsFirst (afterConstant? name) before new after := by
  obtain ⟨hold, hnone⟩ := h.isDeclaration
  refine ⟨afterConstant?_eq_some_iff.mpr ⟨new, hnew, rfl, hnone⟩, fun tail htail hne => ?_⟩
  have hbefore := h.first tail htail hne
  rw [← Option.not_isSome_iff_eq_none] at hbefore ⊢
  exact mt (isSome_afterConstant?_exchange hname hname hnew hold hne) hbefore

/-- What follows a line plays no part in its declarations. -/
theorem isSome_afterConstant?_line (hname : IsConstantName name) {line rest : List Char} :
    (afterConstant? name (line ++ '\n' :: rest)).isSome = (afterConstant? name line).isSome := by
  rw [Bool.eq_iff_iff, isSome_afterConstant?_iff, isSome_afterConstant?_iff]
  constructor
  · rintro ⟨place, hplace, hstarts⟩
    exact ⟨place, hplace, Text.prefix_of_prefix_line (hplace.not_mem_newline hname) hstarts⟩
  · rintro ⟨place, hplace, hstarts⟩
    exact ⟨place, hplace, hstarts.trans (List.prefix_append _ _)⟩

/-- A declaration put at the end of a text without one is the first. -/
theorem isFirst_concat (hname : IsConstantName name) {s : List Char}
    (h : AcceptsNowhere (afterConstant? name) s) (hnew : IsDeclaration name new) :
    IsFirst (afterConstant? name) (withFinalNewline s) new ['\n'] := by
  refine ⟨afterConstant?_eq_some_iff.mpr ⟨new, hnew, rfl, by decide⟩, fun tail htail hne => ?_⟩
  obtain ⟨t, ht, hs⟩ := exists_withFinalNewline s
  rw [ht, List.suffix_concat_iff] at htail
  obtain ⟨line, rfl, hline⟩ := htail.resolve_left hne
  rw [List.append_assoc, List.singleton_append, ← Option.not_isSome_iff_eq_none,
    isSome_afterConstant?_line hname, Option.not_isSome_iff_eq_none]
  rcases hs with rfl | rfl
  · exact h line hline
  · have hend := h (line ++ ['\n']) (by obtain ⟨u, rfl⟩ := hline; exact ⟨u, by simp⟩)
    rwa [← Option.not_isSome_iff_eq_none, isSome_afterConstant?_line hname,
      Option.not_isSome_iff_eq_none] at hend

/-! ## Putting a constant into a file -/

theorem acceptsNowhere_constantsHeader (name : List Char) :
    AcceptsNowhere (afterConstant? name) constantsHeader.toList := by
  have hwords : ¬ constantWords <:+: constantsHeader.toList := by decide +kernel
  refine acceptsNowhere_iff.mpr fun place hplace hinside => hwords ?_
  obtain ⟨rest, rfl⟩ := hplace.exists_words
  exact (List.prefix_append _ _).isInfix.trans hinside

variable {content : String}

theorem toList_upsertConstant (content name range : String) :
    (upsertConstant content name range).toList =
      upsertChars (afterConstant? name.toList) constantsHeader.toList
        (constantDeclaration name range) content.toList := String.toList_ofList

theorem hasConstant_eq_false_iff {content name : String} :
    hasConstant content name = false ↔
      AcceptsNowhere (afterConstant? name.toList) content.toList := by
  rw [acceptsNowhere_iff, ← Bool.not_eq_true, hasConstant_iff]
  exact not_exists.trans (forall_congr' fun _ => not_and)

/-- In a file with the constant its first declaration is exchanged. -/
theorem toList_upsertConstant_of_isFirst {name : String}
    (hcontent : content.toList = before ++ (old ++ after))
    (hfirst : IsFirst (afterConstant? name.toList) before old after) (range : String) :
    (upsertConstant content name range).toList =
      before ++ (constantDeclaration name range ++ after) := by
  have hne : before ++ (old ++ after) ≠ [] := by simp [hfirst.isDeclaration.1.ne_nil]
  rw [toList_upsertConstant, hcontent, hfirst.upsertChars hne]

theorem exists_isFirst_of_hasConstant {name : String} (h : hasConstant content name = true) :
    ∃ before old after, content.toList = before ++ (old ++ after) ∧
      IsFirst (afterConstant? name.toList) before old after := by
  rcases none_or_exists_isFirst suffix_of_afterConstant? content.toList with hnone | hfirst
  · rw [hasConstant_eq_false_iff.mpr hnone] at h
    cases h
  · exact hfirst

/-- To a file without the constant its declaration is added. -/
theorem toList_upsertConstant_of_eq_false {name : String} (h : hasConstant content name = false)
    (hne : content ≠ "") (range : String) :
    (upsertConstant content name range).toList =
      withFinalNewline content.toList ++ (constantDeclaration name range ++ ['\n']) := by
  rw [toList_upsertConstant,
    upsertChars_of_acceptsNowhere (hasConstant_eq_false_iff.mp h) (by simpa using hne)]

/-- Afterwards the declaration is the first of its name, and what surrounds it does not depend on
it. -/
theorem exists_isFirst_upsertConstant {name : String} (hname : IsConstantName name.toList)
    (content : String) : ∃ before after, ∀ range,
      (upsertConstant content name range).toList =
        before ++ (constantDeclaration name range ++ after) ∧
      IsFirst (afterConstant? name.toList) before (constantDeclaration name range) after := by
  by_cases hempty : content = ""
  · subst hempty
    have hnowhere := acceptsNowhere_constantsHeader name.toList
    refine ⟨withFinalNewline constantsHeader.toList, ['\n'], fun range => ⟨?_, ?_⟩⟩
    · rw [toList_upsertConstant, String.toList_empty, upsertChars_nil,
        upsertChars_of_acceptsNowhere hnowhere (by decide)]
    · exact isFirst_concat hname hnowhere (isDeclaration_constantDeclaration name range)
  · cases h : hasConstant content name with
    | true =>
      obtain ⟨before, old, after, hcontent, hfirst⟩ := exists_isFirst_of_hasConstant h
      exact ⟨before, after, fun range => ⟨toList_upsertConstant_of_isFirst hcontent hfirst range,
        hfirst.exchange hname (isDeclaration_constantDeclaration name range)⟩⟩
    | false =>
      exact ⟨withFinalNewline content.toList, ['\n'], fun range =>
        ⟨toList_upsertConstant_of_eq_false h hempty range,
          isFirst_concat hname (hasConstant_eq_false_iff.mp h)
            (isDeclaration_constantDeclaration name range)⟩⟩

/-! ## Line by line -/

/-- No declaration is in what stands before the first one. -/
theorem IsFirst.not_isInfix (h : IsFirst (afterConstant? name) before old after)
    (hplace : IsDeclaration name place) : ¬ place <:+: before := by
  intro hinside
  obtain ⟨tail, hstarts, hsuffix⟩ := List.infix_iff_prefix_suffix.mp hinside
  have hne : tail ≠ [] := by
    rintro rfl
    exact hplace.ne_nil (List.prefix_nil.mp hstarts)
  have hsome := isSome_afterConstant?_iff.mpr
    ⟨_, hplace, hstarts.trans (List.prefix_append tail (old ++ after))⟩
  rw [h.first tail hsuffix hne] at hsome
  cases hsome

/-- In a file with the constant, the first line that declares it is the only one to change. -/
theorem exists_changed_line {name : String} (hname : IsConstantName name.toList)
    (h : hasConstant content name = true) (range : String) : ∃ above line changed below,
      Text.lines content = above ++ line :: below ∧
      (∀ l ∈ above, hasConstant l name = false) ∧ hasConstant line name = true ∧
      Text.lines (upsertConstant content name range) = above ++ changed :: below := by
  obtain ⟨before, old, after, hcontent, hfirst⟩ := exists_isFirst_of_hasConstant h
  obtain ⟨above, left, right, below, habove, hcut⟩ := Text.exists_splitOn_around before after
  have hold := hfirst.isDeclaration.1
  have hnew := isDeclaration_constantDeclaration name range
  refine ⟨above.map String.ofList, String.ofList (left ++ (old ++ right)),
    String.ofList (left ++ (constantDeclaration name range ++ right)), below.map String.ofList,
    ?_, fun l hl => ?_, ?_, ?_⟩
  · rw [Text.lines, hcontent, hcut old (hold.not_mem_newline hname), List.map_append, List.map_cons]
  · obtain ⟨line, hline, rfl⟩ := List.mem_map.mp hl
    rw [← Bool.not_eq_true, hasConstant_iff, String.toList_ofList]
    rintro ⟨place, hplace, hinside⟩
    exact hfirst.not_isInfix hplace (hinside.trans (habove line hline))
  · rw [hasConstant_iff, String.toList_ofList]
    exact ⟨old, hold, (List.prefix_append old right).isInfix.trans (List.suffix_append _ _).isInfix⟩
  · rw [Text.lines, toList_upsertConstant_of_isFirst hcontent hfirst,
      hcut _ (hnew.not_mem_newline hname), List.map_append, List.map_cons]

/-- What putting a constant into a file comes to. -/
structure SetsConstant (content name : String) : Prop where
  /-- Of two ranges the last one wins, and nothing is left of the first. -/
  last_wins : ∀ first second, upsertConstant (upsertConstant content name first) name second =
    upsertConstant content name second
  declared : ∀ range, hasConstant (upsertConstant content name range) name = true
  /-- If the constant is in the file, the first line that declares it is the only one to change. -/
  replaced : hasConstant content name = true → ∀ range, ∃ above line changed below,
    Text.lines content = above ++ line :: below ∧
    (∀ l ∈ above, hasConstant l name = false) ∧ hasConstant line name = true ∧
    Text.lines (upsertConstant content name range) = above ++ changed :: below
  /-- If it is not, the file is completed with a line end and one line is added. -/
  appended : hasConstant content name = false → content ≠ "" → ∀ range, ∃ line, '\n' ∉ line ∧
    (upsertConstant content name range).toList =
      withFinalNewline content.toList ++ (line ++ ['\n'])

/-- Whatever the file says, a constant is set by putting it into the file. -/
theorem setsConstant_of_isConstantName {name : String} (hname : IsConstantName name.toList)
    (content : String) : SetsConstant content name := by
  obtain ⟨before, after, hput⟩ := exists_isFirst_upsertConstant hname content
  refine ⟨fun first second => ?_, fun range => ?_, exists_changed_line hname,
    fun hnone hne range => ⟨_, ?_, toList_upsertConstant_of_eq_false hnone hne range⟩⟩
  · -- The first range stands where the second one will, and is taken as a whole.
    obtain ⟨hfirst, hplace⟩ := hput first
    have hne : before ++ (constantDeclaration name first ++ after) ≠ [] := by
      simp [(isDeclaration_constantDeclaration name first).ne_nil]
    rw [← String.toList_inj, toList_upsertConstant, hfirst, hplace.upsertChars hne, (hput second).1]
  · rw [hasConstant_iff, (hput range).1]
    exact ⟨_, isDeclaration_constantDeclaration name range,
      (List.prefix_append _ _).isInfix.trans (List.suffix_append _ _).isInfix⟩
  · exact (isDeclaration_constantDeclaration name range).not_mem_newline hname

/-- A file that declares the same constant in two of its lines, one of them with quotes after the
declaration. -/
def doubledFile : String := "export const TASK_$ = 'x'; // or \"y\";\nexport const TASK_$ = `z`;"

theorem setsConstant_doubledFile :
    IsConstantName "TASK_$".toList ∧ hasConstant doubledFile "TASK_$" = true ∧
      SetsConstant doubledFile "TASK_$" := by
  have hname : IsConstantName "TASK_$".toList := List.all_eq_true.mp (by decide +kernel)
  exact ⟨hname, by decide +kernel, setsConstant_of_isConstantName hname doubledFile⟩

end SheetSchema.Code
