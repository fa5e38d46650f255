import Mathlib
import SheetSchema.Proofs.Text.Cut

/-!
# Lines and marks of a text

A text is one line, or a line, its end and the lines that follow (`line_induction`). Where one part
of a text has no line end, the lines around it do not depend on it (`exists_splitOn_around`). A word
is cut at its first occurrence and at no other place (`breakOn?_eq_some_iff`). A mark of two
characters lies in one of the two parts of a text, unless one character of it is at the end of the
first part and the other at the start of the second (`pair_infix_append_iff`).
-/

namespace SheetSchema.Text

/-! ## Parts of a text in two parts -/

/-- A tail of a text in two parts is a tail of the second part or starts in the first. -/
theorem suffix_append_iff {tail s t : List Char} :
    tail <:+ s ++ t ↔ tail <:+ t ∨ ∃ u, u ≠ [] ∧ u <:+ s ∧ tail = u ++ t := by
  constructor
  · rintro ⟨head, h⟩
    rcases List.append_eq_append_iff.mp h with ⟨u, rfl, rfl⟩ | ⟨u, rfl, rfl⟩
    · by_cases hu : u = []
      · exact .inl (by simp [hu])
      · exact .inr ⟨u, hu, List.suffix_append _ _, rfl⟩
    · exact .inl (List.suffix_append _ _)
  · rintro (h | ⟨u, -, h, rfl⟩)
    · exact h.trans (List.suffix_append _ _)
    · obtain ⟨head, rfl⟩ := h
      exact ⟨head, (List.append_assoc _ _ _).symm⟩

/-- A mark of two characters in a text in two parts. -/
theorem pair_infix_append_iff {a b : Char} {s t : List Char} :
    [a, b] <:+: s ++ t ↔
      [a, b] <:+: s ∨ (s.getLast? = some a ∧ t.head? = some b) ∨ [a, b] <:+: t := by
  induction s with
  | nil => simp
  | cons c s ih =>
    rw [List.cons_append, List.infix_cons_iff, ih, List.infix_cons_iff]
    cases s with
    | nil =>
      cases t with
      | nil => simp
      | cons d t => simp [List.cons_prefix_cons, eq_comm (a := a), eq_comm (a := b)]
    | cons d s =>
      simp only [List.cons_append, List.cons_prefix_cons, List.nil_prefix, and_true,
        List.getLast?_cons_cons, or_assoc]

/-! ## Words -/

theorem breakOn?_eq_none_iff {word s : List Char} : breakOn? word s = none ↔ ¬ word <:+: s := by
  rw [← occursIn_iff, occursIn, Option.not_isSome_iff_eq_none]

/-- A word is cut at its first occurrence and at no other place. -/
theorem breakOn?_eq_some_iff {word s before after : List Char} (hword : word ≠ []) :
    breakOn? word s = some (before, after) ↔
      s = before ++ word ++ after ∧ ¬ word <:+: (before ++ word).dropLast := by
  constructor
  · intro h
    induction s generalizing before with
    | nil =>
      obtain ⟨c, word, rfl⟩ := List.exists_cons_of_ne_nil hword
      simp [breakOn?, afterPrefix?] at h
    | cons c s ih =>
      rw [breakOn?] at h
      split at h
      · next rest hrest =>
        obtain ⟨rfl, rfl⟩ : [] = before ∧ rest = after := by simpa using h
        refine ⟨eq_append_of_afterPrefix? hrest, fun hinside => ?_⟩
        have hle := hinside.length_le
        have hpos := List.length_pos_iff.mpr hword
        rw [List.nil_append, List.length_dropLast] at hle
        omega
      · next hnone =>
        obtain ⟨b, hb, rfl⟩ : ∃ b, breakOn? word s = some (b, after) ∧ c :: b = before := by
          simpa using h
        obtain ⟨rfl, hfirst⟩ := ih hb
        refine ⟨rfl, ?_⟩
        have hne : b ++ word ≠ [] := List.append_ne_nil_of_right_ne_nil b hword
        rw [List.cons_append, List.dropLast_cons_of_ne_nil hne, List.infix_cons_iff, not_or]
        refine ⟨fun hstarts => ?_, hfirst⟩
        rw [← Option.not_isSome_iff_eq_none, isSome_afterPrefix?_iff] at hnone
        refine hnone (hstarts.trans ?_)
        exact List.cons_prefix_cons.mpr
          ⟨rfl, (List.dropLast_prefix _).trans (List.prefix_append _ _)⟩
  · rintro ⟨rfl, h⟩
    exact breakOn?_word hword h after

/-- There is one way to cut a text at the first occurrence of a character. -/
theorem eq_of_append_cons_eq {c : Char} {s t rest more : List Char} (hs : c ∉ s) (ht : c ∉ t)
    (h : s ++ c :: rest = t ++ c :: more) : s = t ∧ rest = more := by
  have hcut := breakOn?_append hs rest
  rw [h, breakOn?_append ht more] at hcut
  exact ⟨(congrArg Prod.fst (Option.some.inj hcut)).symm,
    (congrArg Prod.snd (Option.some.inj hcut)).symm⟩

/-! ## Lines -/

/-- A text is one line, or a line and what follows its end. -/
theorem line_induction {P : List Char → Prop} (last : ∀ line, '\n' ∉ line → P line)
    (more : ∀ line rest, '\n' ∉ line → P rest → P (line ++ '\n' :: rest)) (s : List Char) :
    P s := by
  induction hlength : s.length using Nat.strong_induction_on generalizing s with
  | _ n ih =>
    by_cases hs : '\n' ∈ s
    · obtain ⟨line, rest, rfl, hline⟩ := List.eq_append_cons_of_mem hs
      refine more line rest hline (ih rest.length ?_ rest rfl)
      simp only [List.length_append, List.length_cons] at hlength
      omega
    · exact last s hs

/-- The lines of a text. -/
def lines (s : String) : List String := (splitOn '\n' s.toList).map String.ofList

theorem isInfix_of_mem_splitOn {s line : List Char} (h : line ∈ splitOn '\n' s) : line <:+: s := by
  induction s using line_induction with
  | last s hs =>
    rw [splitOn_eq_singleton hs, List.mem_singleton] at h
    rw [h]
  | more first rest hfirst ih =>
    rw [splitOn_append hfirst, List.mem_cons] at h
    rcases h with rfl | h
    · exact (List.prefix_append _ _).isInfix
    · exact (ih h).trans ((List.suffix_cons _ _).trans (List.suffix_append _ _)).isInfix

theorem isInfix_of_mem_lines {s line : String} (h : line ∈ lines s) :
    line.toList <:+: s.toList := by
  obtain ⟨l, hl, rfl⟩ := List.mem_map.mp h
  rw [String.toList_ofList]
  exact isInfix_of_mem_splitOn hl

/-- A part without line end lies in one line, and the lines around that one do not depend on it. -/
theorem exists_splitOn_around (before after : List Char) : ∃ above left right below,
    (∀ line ∈ above, line <:+: before) ∧
    ∀ part, '\n' ∉ part → splitOn '\n' (before ++ (part ++ after)) =
      above ++ (left ++ (part ++ right)) :: below := by
  induction before using line_induction with
  | last line hline =>
    by_cases hafter : '\n' ∈ after
    · obtain ⟨right, rest, rfl, hright⟩ := List.eq_append_cons_of_mem hafter
      refine ⟨[], line, right, splitOn '\n' rest, nofun, fun part hpart => ?_⟩
      have hall : '\n' ∉ line ++ (part ++ right) := by simp [hline, hpart, hright]
      have hcut := splitOn_append hall rest
      rw [List.append_assoc, List.append_assoc] at hcut
      exact hcut
    · refine ⟨[], line, after, [], nofun, fun part hpart => ?_⟩
      exact splitOn_eq_singleton (by simp [hline, hpart, hafter])
  | more line rest hline ih =>
    obtain ⟨above, left, right, below, habove, hcut⟩ := ih
    refine ⟨line :: above, left, right, below, fun l hl => ?_, fun part hpart => ?_⟩
    · rcases List.mem_cons.mp hl with rfl | hl
      · exact (List.prefix_append _ _).isInfix
      · have hrest : rest <:+ line ++ '\n' :: rest :=
          (List.suffix_cons _ _).trans (List.suffix_append _ _)
        exact (habove l hl).trans hrest.isInfix
    · rw [List.append_assoc, List.cons_append, splitOn_append hline, hcut part hpart]
      rfl

end SheetSchema.Text
