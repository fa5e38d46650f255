import Mathlib
import SheetSchema.Code.Context
import SheetSchema.Code.Expression
import SheetSchema.Proofs.Code.Constant

/-!
# Literals read back

A literal of generated code is read as the emitted language reads it (`readLiteral?`): from the
opening quote to the first quote that is not escaped, with the escapes for one character. Whatever
text is written as a literal, the literal is read back as this text and ends with its own closing
quote, as long as the characters that may not stand in it as they are get an escape
(`readLiteral?_literalChars`).

The line feed gets one and the carriage return does not. So where only a line feed ends a line all
texts are embedded faithfully, and where a carriage return does as well, exactly those without one
(`isFaithful_iff`). That goes for the literals of sentinels in conversion expressions, for those of
ranges in expressions, and for the values of range constants in their file.
-/

namespace SheetSchema.Code

/-! ## Reading literals -/

/-- The characters that an escape stands for, by the letter after the backslash. -/
def escapes : List (Char × Char) := [
  ('\\', '\\'), ('\'', '\''), ('"', '"'), ('b', '\x08'), ('f', '\x0c'), ('n', '\n'), ('r', '\r'),
  ('t', '\t'), ('v', '\x0b')]

/-- The text up to the closing quote, and what follows the quote. A character among `ends` may not
stand in it as it is. -/
def readQuoted? (ends : List Char) : List Char → Option (List Char × List Char)
  | [] => none
  | ['\\'] => none
  | '\\' :: letter :: rest =>
    match escapes.lookup letter with
    | some c => (readQuoted? ends rest).map fun (value, tail) => (c :: value, tail)
    | none => none
  | c :: rest =>
    if c = '\'' then some ([], rest)
    else if c ∈ ends then none
    else (readQuoted? ends rest).map fun (value, tail) => (c :: value, tail)

/-- The text that the literal in front stands for, and what follows the literal. -/
def readLiteral? (ends : List Char) : List Char → Option (List Char × List Char)
  | '\'' :: rest => readQuoted? ends rest
  | _ => none

/-- The characters that end a line. -/
def lineEnds : List Char := ['\n', '\r']

variable {ends lead tail text : List Char} {value : String}

theorem readQuoted?_quote (rest : List Char) :
    readQuoted? ends ('\'' :: rest) = some ([], rest) := by
  simp [readQuoted?]

theorem readQuoted?_cons {c : Char} (hquote : c ≠ '\'') (hslash : c ≠ '\\') (rest : List Char) :
    readQuoted? ends (c :: rest) = if c ∈ ends then none else
      (readQuoted? ends rest).map fun (value, tail) => (c :: value, tail) := by
  rw [readQuoted?, if_neg hquote]
  · rintro rfl
    exact absurd rfl hslash
  · rintro _ _ rfl
    exact absurd rfl hslash

/-- A character is read back, unless it stands as it is where it may not. -/
theorem readQuoted?_literalChar (c : Char) (rest : List Char) :
    readQuoted? ends (literalChar c ++ rest) = if literalChar c = [c] ∧ c ∈ ends then none else
      (readQuoted? ends rest).map fun (value, tail) => (c :: value, tail) := by
  by_cases hslash : c = '\\'
  · subst hslash
    rfl
  by_cases hquote : c = '\''
  · subst hquote
    rfl
  by_cases hline : c = '\n'
  · subst hline
    rfl
  have hplain : literalChar c = [c] := by
    rw [literalChar, if_neg hslash, if_neg hquote, if_neg hline]
  simp only [hplain, true_and]
  exact readQuoted?_cons hquote hslash rest

/-- A literal is read back if and only if each character that may not stand in it has an escape. -/
theorem readLiteral?_literalChars (ends value tail : List Char) :
    readLiteral? ends (literalChars value ++ tail) =
      if ∀ c ∈ value, c ∈ ends → literalChar c ≠ [c] then some (value, tail) else none := by
  have hshape : literalChars value ++ tail =
      '\'' :: (value.flatMap literalChar ++ '\'' :: tail) := by
    simp [literalChars]
  rw [hshape, readLiteral?]
  clear hshape
  induction value with
  | nil =>
    rw [List.flatMap_nil, List.nil_append, readQuoted?_quote, if_pos (by simp)]
  | cons c value ih =>
    rw [List.flatMap_cons, List.append_assoc, readQuoted?_literalChar, ih]
    simp only [List.forall_mem_cons]
    by_cases hc : literalChar c = [c] ∧ c ∈ ends
    · rw [if_pos hc, if_neg fun h => h.1 hc.2 hc.1]
    · have hescaped : c ∈ ends → literalChar c ≠ [c] := fun hmem hplain => hc ⟨hplain, hmem⟩
      rw [if_neg hc]
      simp only [eq_true hescaped, true_and]
      split <;> rfl

/-! ## Where literals are emitted -/

/-- The text has the words `lead` in front of a literal that is read as `value`, and goes on with
`tail` after it. -/
def Carries (ends lead value tail text : List Char) : Prop :=
  ∃ written, text = lead ++ (written ++ tail) ∧
    readLiteral? ends (written ++ tail) = some (value, tail)

/-- A text is read back wherever it is emitted as a literal. -/
structure IsFaithful (ends : List Char) (value : String) : Prop where
  literal : ∀ tail, readLiteral? ends ((literal value).toList ++ tail) = some (value.toList, tail)
  /-- The sentinel that a cell is compared with. -/
  decoded : ∀ (f : Field) no accessor, f.sentinels? = some (value, no) →
    Carries ends (accessor ++ " === ").toList value.toList [] (f.decodeExpression accessor).toList
  /-- The sentinel that is written for true. -/
  encodedTrue : ∀ (f : Field) no accessor, f.sentinels? = some (value, no) →
    Carries ends (accessor ++ " ? ").toList value.toList (" : " ++ Code.literal no).toList
      (f.encodeExpression accessor).toList
  /-- The sentinel that is written for false. -/
  encodedFalse : ∀ (f : Field) yes accessor, f.sentinels? = some (yes, value) →
    Carries ends (accessor ++ " ? " ++ Code.literal yes ++ " : ").toList value.toList []
      (f.encodeExpression accessor).toList
  /-- The data range of a schema, where no constant holds it. -/
  range : ∀ (ctx : Context) s, ctx.rangeName.truthy = false → ctx.fieldedSchema? = some s →
    s.dataRange true = .ok value →
    ∃ text, ctx.rangeExpression = .ok (.str text) ∧ Carries ends [] value.toList [] text.toList
  /-- The range of a constant, in the file that it is put into. -/
  constant : ∀ content name, ∃ before after,
    Carries ends (before ++ constantStart name.toList) value.toList (';' :: after)
      (upsertConstant content name value).toList

theorem toList_literal (value : String) : (literal value).toList = literalChars value.toList :=
  String.toList_ofList

/-- A declaration stands in the file that it is put into. -/
theorem exists_toList_upsertConstant (content name range : String) : ∃ before after,
    (upsertConstant content name range).toList =
      before ++ (constantDeclaration name range ++ after) := by
  by_cases hempty : content = ""
  · subst hempty
    refine ⟨withFinalNewline constantsHeader.toList, ['\n'], ?_⟩
    rw [toList_upsertConstant, String.toList_empty, upsertChars_nil,
      upsertChars_of_acceptsNowhere (acceptsNowhere_constantsHeader name.toList) (by decide)]
  · cases h : hasConstant content name with
    | true =>
      obtain ⟨before, old, after, hcontent, hfirst⟩ := exists_isFirst_of_hasConstant h
      exact ⟨before, after, toList_upsertConstant_of_isFirst hcontent hfirst range⟩
    | false => exact ⟨_, _, toList_upsertConstant_of_eq_false h hempty range⟩

theorem toList_decodeExpression {f : Field} {yes no : String} (h : f.sentinels? = some (yes, no))
    (accessor : String) : (f.decodeExpression accessor).toList =
      (accessor ++ " === ").toList ++ (literalChars yes.toList ++ []) := by
  have htype : f.type = .boolean := by
    by_contra hne
    rw [Field.sentinels?, if_neg hne] at h
    cases h
  rw [Field.decodeExpression, if_pos htype, h, ← toList_literal]
  simp [toString]

theorem toList_encodeExpression {f : Field} {yes no : String} (h : f.sentinels? = some (yes, no))
    (accessor : String) : (f.encodeExpression accessor).toList =
      (accessor ++ " ? ").toList ++ (literalChars yes.toList ++ (" : " ++ literal no).toList) := by
  rw [Field.encodeExpression, h, ← toList_literal]
  simp [toString]

/-- A text whose literal is read back is read back wherever the literal is emitted. -/
theorem isFaithful_of_readLiteral? (h : ∀ tail,
    readLiteral? ends (literalChars value.toList ++ tail) = some (value.toList, tail)) :
    IsFaithful ends value where
  literal tail := by rw [toList_literal, h]
  decoded f no accessor hf := ⟨_, toList_decodeExpression hf accessor, h []⟩
  encodedTrue f no accessor hf := ⟨_, toList_encodeExpression hf accessor, h _⟩
  encodedFalse f yes accessor hf := by
    refine ⟨literalChars value.toList, ?_, h []⟩
    rw [toList_encodeExpression hf, ← toList_literal, ← toList_literal]
    simp
  range ctx s hname hs hrange := by
    refine ⟨literal value, ?_, literalChars value.toList, ?_, h []⟩
    · rw [Context.rangeExpression, if_neg (by simp [hname]), hs]
      simp only [hrange]
      rfl
    · rw [toList_literal, List.nil_append, List.append_nil]
  constant content name := by
    obtain ⟨before, after, hcontent⟩ := exists_toList_upsertConstant content name value
    refine ⟨before, after, literalChars value.toList, ?_, h _⟩
    rw [hcontent, constantDeclaration]
    simp

/-! ## The main result -/

/-- As far as line feeds go every text is embedded faithfully. A text is embedded faithfully
altogether if and only if it has no carriage return. -/
theorem isFaithful_iff (value : String) :
    IsFaithful ['\n'] value ∧ (IsFaithful lineEnds value ↔ '\r' ∉ value.toList) := by
  refine ⟨isFaithful_of_readLiteral? fun tail => ?_, fun h hmem => ?_, fun h => ?_⟩
  · rw [readLiteral?_literalChars, if_pos]
    rintro _ - hc
    rw [List.mem_singleton.mp hc]
    decide
  · have hread := h.literal []
    rw [toList_literal, readLiteral?_literalChars, if_neg] at hread
    · cases hread
    · exact fun hall => hall '\r' hmem (by decide) (by decide)
  · refine isFaithful_of_readLiteral? fun tail => ?_
    rw [readLiteral?_literalChars, if_pos]
    rintro c hc hend
    rcases List.mem_pair.mp hend with rfl | rfl
    · decide
    · exact absurd hc h

/-- The literal of a text of two lines that are parted by a carriage return breaks off. -/
theorem not_isFaithful_carriageReturn : literal "yes\r" = "'yes\r'" ∧
    readLiteral? lineEnds (literal "yes\r").toList = none ∧ ¬ IsFaithful lineEnds "yes\r" :=
  ⟨by decide +kernel, by decide +kernel, fun h => (isFaithful_iff "yes\r").2.mp h (by decide)⟩

end SheetSchema.Code
