import Mathlib
import SheetSchema.Proofs.Code.Declaration
import SheetSchema.Proofs.Text.Lines

/-!
# An interface that is put into a file again

What is taken for an interface goes from its first words to the first line that starts with a
closing brace (`afterInterface?_eq_some_iff`). So the place that a definition is put into need not
be the place where it is found again. There are two ways for that to happen. A line of the
definition may start with a brace before its end, and only a description can bring such a line
(`blockEnd_isInfix_typeDefinition_iff`). Or the file has left an interface of the name open
(`LeavesOpen`): the definition is put at the end, where it closes what was open. Apart from an
interface without a name there is no other way, so in all other cases the file stays as it is when
the interface is put into it again (`upsertSchema_again_iff`).
-/

namespace SheetSchema.Code

/-- The end of an interface: a line that starts with a closing brace. -/
def blockEnd : List Char := ['\n', '\x7d']

/-- An interface `name` starts here, whether or not it ends anywhere. -/
def OpensInterface (name s : List Char) : Prop :=
  ∃ rest, s = interfaceStart name ++ rest ∧
    Text.wordBoundary (interfaceStart name).getLast? rest.head? = true

variable {name s before place after : List Char}

/-! ## Where an interface starts -/

theorem newline_not_mem_interfaceStart (hname : '\n' ∉ name) : '\n' ∉ interfaceStart name := by
  have hwords : '\n' ∉ interfaceWords := by decide +kernel
  rw [interfaceStart_eq]
  simp [hwords, hname]

/-- What follows a line plays no part in where an interface starts. -/
theorem opensInterface_line_iff (hname : '\n' ∉ name) {rest : List Char} :
    OpensInterface name (s ++ '\n' :: rest) ↔ OpensInterface name s := by
  have hnewline : Text.isWord '\n' = false := by decide +kernel
  have hhead (t : List Char) : (t ++ '\n' :: rest).head?.any Text.isWord =
      t.head?.any Text.isWord := by
    cases t with
    | nil => simp [hnewline]
    | cons c t => rfl
  constructor
  · rintro ⟨more, hmore, hboundary⟩
    obtain ⟨t, rfl⟩ := Text.prefix_of_prefix_line (newline_not_mem_interfaceStart hname)
      ⟨more, hmore.symm⟩
    rw [List.append_assoc, List.append_cancel_left_eq] at hmore
    subst hmore
    rw [Text.wordBoundary, hhead] at hboundary
    exact ⟨t, rfl, hboundary⟩
  · rintro ⟨t, rfl, hboundary⟩
    refine ⟨t ++ '\n' :: rest, List.append_assoc _ _ _, ?_⟩
    rw [Text.wordBoundary, hhead]
    exact hboundary

/-- Whether an interface starts before the first words of another one does not depend on what
follows those words. -/
theorem OpensInterface.exchange {head old new : List Char} (hhead : head ≠ [])
    (h : OpensInterface name (head ++ (interfaceStart name ++ old))) :
    OpensInterface name (head ++ (interfaceStart name ++ new)) := by
  obtain ⟨rest, hrest, hboundary⟩ := h
  rw [← List.append_assoc] at hrest
  rcases List.append_eq_append_iff.mp hrest with ⟨t, ht, -⟩ | ⟨t, ht, rfl⟩
  · have hlength := congrArg List.length ht
    have hpos := List.length_pos_iff.mpr hhead
    simp only [List.length_append] at hlength
    omega
  · refine ⟨t ++ new, by rw [← List.append_assoc, ht, List.append_assoc], ?_⟩
    cases t with
    | nil =>
      have hlength := congrArg List.length ht
      have hpos := List.length_pos_iff.mpr hhead
      simp only [List.length_append, List.length_nil] at hlength
      omega
    | cons c t => exact hboundary

/-! ## Where an interface ends -/

/-- A line that closes an interface lies in one of the two parts of a text, unless it is the line
between them. -/
theorem blockEnd_isInfix_append_iff {t : List Char}
    (h : s.getLast? ≠ some '\n' ∨ t.head? ≠ some '\x7d') :
    blockEnd <:+: s ++ t ↔ blockEnd <:+: s ∨ blockEnd <:+: t := by
  rw [blockEnd, Text.pair_infix_append_iff]
  tauto

theorem blockEnd_isInfix_line_iff {t : List Char} (h : '\n' ∉ s) :
    blockEnd <:+: s ++ t ↔ blockEnd <:+: t := by
  have hs : ¬ blockEnd <:+: s := fun hinside => h (hinside.subset List.mem_cons_self)
  rw [blockEnd_isInfix_append_iff (.inl fun hlast => h (List.mem_of_getLast? hlast)),
    or_iff_right hs]

/-- Where no line of two texts closes an interface, none does in the one after the other, unless the
second one starts with a closing brace. -/
theorem blockEnd_not_isInfix_lines {t : List Char} (hs : ¬ blockEnd <:+: s) (ht : ¬ blockEnd <:+: t)
    (hhead : t.head? ≠ some '\x7d') : ¬ blockEnd <:+: s ++ '\n' :: t := by
  rw [blockEnd_isInfix_append_iff (.inr (by simp)), or_iff_right hs]
  intro hinside
  rcases List.infix_cons_iff.mp hinside with hstarts | hinside
  · obtain ⟨rest, rfl⟩ := (List.cons_prefix_cons.mp hstarts).2
    exact hhead rfl
  · exact ht hinside

/-- The search takes an interface up to the first line that closes it. -/
theorem afterInterface?_eq_some_iff : afterInterface? name s = some after ↔
    ∃ body, s = interfaceStart name ++ (body ++ blockEnd ++ after) ∧
      Text.wordBoundary (interfaceStart name).getLast? (body ++ blockEnd).head? = true ∧
      ¬ blockEnd <:+: (body ++ blockEnd).dropLast := by
  have hend : blockEnd ≠ [] := List.cons_ne_nil _ _
  have hhead (body : List Char) : (body ++ blockEnd ++ after).head? = (body ++ blockEnd).head? :=
    List.head?_append_of_ne_nil _ (List.append_ne_nil_of_right_ne_nil body hend)
  rw [afterInterface?]
  constructor
  · intro h
    cases hrest : Text.afterPrefix? (interfaceStart name) s with
    | none => simp [hrest] at h
    | some rest =>
      simp only [hrest, Option.ite_none_right_eq_some, Option.map_eq_some_iff, Prod.exists,
        exists_eq_right] at h
      obtain ⟨hboundary, body, hbody⟩ := h
      obtain ⟨rfl, hfirst⟩ := (Text.breakOn?_eq_some_iff hend).mp hbody
      exact ⟨body, Text.eq_append_of_afterPrefix? hrest, hhead body ▸ hboundary, hfirst⟩
  · rintro ⟨body, rfl, hboundary, hfirst⟩
    rw [Text.afterPrefix?_append]
    simp only
    rw [if_pos ((hhead body).symm ▸ hboundary)]
    exact congrArg (Option.map Prod.snd) ((Text.breakOn?_eq_some_iff hend).mpr ⟨rfl, hfirst⟩)

theorem suffix_of_afterInterface? (h : afterInterface? name s = some after) : after <:+ s := by
  obtain ⟨body, rfl, -⟩ := afterInterface?_eq_some_iff.mp h
  exact (List.suffix_append _ _).trans (List.suffix_append _ _)

/-- Something is taken if and only if an interface starts and a line closes it. -/
theorem isSome_afterInterface?_iff (hname : '\n' ∉ name) :
    (afterInterface? name s).isSome = true ↔ OpensInterface name s ∧ blockEnd <:+: s := by
  constructor
  · intro h
    obtain ⟨after, hafter⟩ := Option.isSome_iff_exists.mp h
    obtain ⟨body, rfl, hboundary, -⟩ := afterInterface?_eq_some_iff.mp hafter
    refine ⟨⟨_, rfl, ?_⟩, ?_⟩
    · rwa [List.head?_append_of_ne_nil _ (List.append_ne_nil_of_right_ne_nil body (by decide))]
    · exact ⟨interfaceStart name ++ body, after, by simp⟩
  · rintro ⟨⟨rest, rfl, hboundary⟩, hinside⟩
    rw [blockEnd_isInfix_line_iff (newline_not_mem_interfaceStart hname)] at hinside
    rw [afterInterface?, Text.afterPrefix?_append]
    simp only
    rw [if_pos hboundary, Option.isSome_map]
    exact Text.occursIn_iff.mpr hinside

theorem afterInterface?_eq_none_iff (hname : '\n' ∉ name) :
    afterInterface? name s = none ↔ ¬ (OpensInterface name s ∧ blockEnd <:+: s) := by
  rw [← isSome_afterInterface?_iff hname, Option.not_isSome_iff_eq_none]

theorem acceptsNowhere_iff_of_opens (hname : '\n' ∉ name) :
    AcceptsNowhere (afterInterface? name) s ↔
      ∀ tail, tail <:+ s → OpensInterface name tail → ¬ blockEnd <:+: tail := by
  refine forall₂_congr fun tail _ => ?_
  rw [afterInterface?_eq_none_iff hname, not_and]

/-! ## Interfaces that are left open -/

/-- The interface `name` starts somewhere in the text, and no line closes it. -/
def LeavesOpen (name s : List Char) : Prop :=
  (∃ tail, tail <:+ s ∧ OpensInterface name tail) ∧
    ∀ tail, tail <:+ s → OpensInterface name tail → ¬ blockEnd <:+: tail

theorem leavesOpen_iff (hname : '\n' ∉ name) : LeavesOpen name s ↔
    (∃ tail, tail <:+ s ∧ OpensInterface name tail) ∧ AcceptsNowhere (afterInterface? name) s := by
  rw [LeavesOpen, acceptsNowhere_iff_of_opens hname]

theorem LeavesOpen.isInfix (h : LeavesOpen name s) : interfaceWords <:+: s := by
  obtain ⟨⟨tail, htail, rest, hrest, -⟩, -⟩ := h
  rw [interfaceStart_eq, List.append_assoc] at hrest
  exact (hrest ▸ (List.prefix_append _ _).isInfix).trans htail.isInfix

section Completed

variable {t : List Char}

/-- A line end at the end of a text starts no interface. -/
theorem exists_opensInterface_iff (hname : '\n' ∉ name) (hs : s = t ∨ s = t ++ ['\n']) :
    (∃ tail, tail <:+ s ∧ OpensInterface name tail) ↔
      ∃ tail, tail <:+ t ∧ OpensInterface name tail := by
  rcases hs with rfl | rfl
  · rfl
  constructor
  · rintro ⟨tail, htail, hopens⟩
    rcases List.suffix_concat_iff.mp htail with rfl | ⟨line, rfl, hline⟩
    · obtain ⟨rest, hrest, -⟩ := hopens
      rw [interfaceStart_eq] at hrest
      exact absurd hrest.symm (by simp)
    · exact ⟨line, hline, (opensInterface_line_iff hname).mp hopens⟩
  · rintro ⟨line, ⟨u, rfl⟩, hopens⟩
    exact ⟨line ++ ['\n'], ⟨u, (List.append_assoc _ _ _).symm⟩,
      (opensInterface_line_iff hname).mpr hopens⟩

/-- A line end at the end of a text closes no interface. -/
theorem acceptsNowhere_of_completed (hname : '\n' ∉ name) (hs : s = t ∨ s = t ++ ['\n'])
    (h : AcceptsNowhere (afterInterface? name) s) : AcceptsNowhere (afterInterface? name) t := by
  rcases hs with rfl | rfl
  · exact h
  rw [acceptsNowhere_iff_of_opens hname] at h ⊢
  rintro line ⟨u, rfl⟩ hopens hinside
  exact h (line ++ ['\n']) ⟨u, (List.append_assoc _ _ _).symm⟩
    ((opensInterface_line_iff hname).mpr hopens) (hinside.trans (List.prefix_append _ _).isInfix)

end Completed

/-! ## The same definition again -/

section Again

variable {name : String} {definition body : List Char}

theorem newline_not_mem_of_plain (hplain : ∀ c ∈ name.toList, c.isAlphanum = true ∨ c = '_') :
    '\n' ∉ name.toList := fun hmem => by
  rcases hplain _ hmem with h | h <;> cases h

/-- The words before the body of an interface end with a whole word if it has a name. -/
theorem wordBoundary_blank_iff (hplain : ∀ c ∈ name.toList, c.isAlphanum = true ∨ c = '_') :
    Text.wordBoundary (interfaceStart name.toList).getLast? (some ' ') = true ↔ name ≠ "" := by
  have hblank : Text.isWord ' ' = false := by decide +kernel
  constructor
  · rintro hboundary rfl
    rw [interfaceStart_eq, String.toList_empty,
      List.getLast?_append_of_ne_nil _ (by simp)] at hboundary
    simp [Text.wordBoundary] at hboundary
  · intro hne
    rw [Text.wordBoundary, (IsPlainName.mk hne hplain).isWord_getLast?, Option.any_some, hblank]
    rfl

/-- A definition is taken as a whole if it has a name and no line before its end closes it. -/
theorem afterInterface?_definition_iff (hplain : ∀ c ∈ name.toList, c.isAlphanum = true ∨ c = '_')
    (hshape : definition = interfaceStart name.toList ++ (' ' :: body) ++ blockEnd)
    (after : List Char) : afterInterface? name.toList (definition ++ after) = some after ↔
      name ≠ "" ∧ ¬ blockEnd <:+: definition.dropLast := by
  have hline := newline_not_mem_interfaceStart (newline_not_mem_of_plain hplain)
  have hdrop : definition.dropLast =
      interfaceStart name.toList ++ (' ' :: body ++ blockEnd).dropLast := by
    rw [hshape, List.append_assoc, List.dropLast_append_of_ne_nil (by simp)]
  rw [afterInterface?_eq_some_iff, hdrop, blockEnd_isInfix_line_iff hline,
    ← wordBoundary_blank_iff hplain]
  constructor
  · rintro ⟨body', heq, hboundary, hfirst⟩
    obtain rfl : ' ' :: body = body' := by
      simpa only [hshape, List.append_assoc, List.append_cancel_left_eq,
        List.append_cancel_right_eq] using heq
    exact ⟨hboundary, hfirst⟩
  · rintro ⟨hboundary, hfirst⟩
    exact ⟨' ' :: body, by simp [hshape], hboundary, hfirst⟩

/-- A definition does not end before another place where it starts. -/
theorem definition_append_ne
    (hshape : definition = interfaceStart name.toList ++ (' ' :: body) ++ blockEnd)
    (hends : ¬ blockEnd <:+: definition.dropLast) (hs : ¬ blockEnd <:+: s) {rest : List Char} :
    definition ++ after ≠ s ++ '\n' :: (definition ++ rest) := by
  have hend : blockEnd ≠ [] := List.cons_ne_nil _ _
  obtain ⟨words, hwords⟩ : ∃ words, definition = words ++ blockEnd := ⟨_, hshape⟩
  have hhead : definition.dropLast.head? ≠ some '\x7d' := by
    have hletter : interfaceWords.head? ≠ some '\x7d' := by decide +kernel
    rw [hshape, List.dropLast_append_of_ne_nil hend, interfaceStart_eq]
    simp only [List.append_assoc]
    rwa [List.head?_append_of_ne_nil _ (by decide +kernel)]
  have hlater : ¬ blockEnd <:+: (s ++ '\n' :: words ++ blockEnd).dropLast := by
    have hdrop : (s ++ '\n' :: words ++ blockEnd).dropLast = s ++ '\n' :: definition.dropLast := by
      rw [hwords, List.dropLast_append_of_ne_nil hend, List.dropLast_append_of_ne_nil hend,
        List.append_assoc, List.cons_append]
    exact hdrop ▸ blockEnd_not_isInfix_lines hs hends hhead
  intro h
  -- Both sides are cut at their first closing line.
  have hcut : Text.breakOn? blockEnd (definition ++ after) = some (words, after) :=
    (Text.breakOn?_eq_some_iff hend).mpr ⟨by rw [hwords], hwords ▸ hends⟩
  have hcut' : Text.breakOn? blockEnd (definition ++ after) = some (s ++ '\n' :: words, rest) :=
    (Text.breakOn?_eq_some_iff hend).mpr ⟨by rw [h, hwords]; simp, hlater⟩
  have hlength := congrArg List.length (congrArg Prod.fst (Option.some.inj (hcut.symm.trans hcut')))
  simp only [List.length_append, List.length_cons] at hlength
  omega

/-- If the definition stands in the first place after it has been put at the end of a text without
it, then the text leaves no interface of its name open. -/
theorem not_opensInterface_of_isFirst (hname : '\n' ∉ name.toList)
    (hshape : definition = interfaceStart name.toList ++ (' ' :: body) ++ blockEnd)
    (hends : ¬ blockEnd <:+: definition.dropLast) {t : List Char}
    (ht : AcceptsNowhere (afterInterface? name.toList) t)
    (heq : t ++ '\n' :: (definition ++ ['\n']) = before ++ (definition ++ after))
    (hfirst : IsFirst (afterInterface? name.toList) before definition after) :
    ¬ ∃ tail, tail <:+ t ∧ OpensInterface name.toList tail := by
  rintro ⟨line, hline, hopens⟩
  obtain ⟨words, hwords⟩ : ∃ words, definition = words ++ blockEnd := ⟨_, hshape⟩
  -- The open interface is taken, so the first place is not after it.
  have htaken : (afterInterface? name.toList (line ++ '\n' :: (definition ++ ['\n']))).isSome := by
    rw [isSome_afterInterface?_iff hname, opensInterface_line_iff hname]
    refine ⟨hopens, ?_⟩
    rw [hwords]
    exact ⟨line ++ '\n' :: words, ['\n'], by simp⟩
  have hsuffix : line ++ '\n' :: (definition ++ ['\n']) <:+ before ++ (definition ++ after) := by
    obtain ⟨u, rfl⟩ := hline
    exact heq ▸ ⟨u, (List.append_assoc _ _ _).symm⟩
  rcases Text.suffix_append_iff.mp hsuffix with ⟨y, hy⟩ | ⟨u, hu, hbefore, htail⟩
  · -- Between the two places no line closes an interface, so they cannot be two.
    rw [← List.append_assoc] at hy
    have hopens : OpensInterface name.toList (y ++ line) := by
      rw [← opensInterface_line_iff hname, hy]
      exact ((isSome_afterInterface?_iff hname).mp (Option.isSome_of_eq_some hfirst.accepted)).1
    have hclosed : ¬ blockEnd <:+: y ++ line := by
      refine (acceptsNowhere_iff_of_opens hname).mp ht _ ?_ hopens
      rw [← hy, ← List.append_assoc, List.append_cancel_right_eq] at heq
      exact ⟨before, heq.symm⟩
    exact definition_append_ne hshape hends hclosed hy.symm
  · rw [htail, hfirst.first u hbefore hu] at htaken
    cases htaken

/-- In a text that leaves no interface of its name open, a definition at the end is the first one.
-/
theorem isFirst_of_not_opensInterface (hname : '\n' ∉ name.toList) {t : List Char}
    (haccepted : afterInterface? name.toList (definition ++ ['\n']) = some ['\n'])
    (hclosed : ¬ ∃ tail, tail <:+ t ∧ OpensInterface name.toList tail) :
    IsFirst (afterInterface? name.toList) (t ++ ['\n']) definition ['\n'] := by
  refine ⟨haccepted, fun tail htail hne => ?_⟩
  rw [afterInterface?_eq_none_iff hname]
  rintro ⟨hopens, -⟩
  obtain ⟨line, rfl, hline⟩ := (List.suffix_concat_iff.mp htail).resolve_left hne
  rw [List.append_assoc, List.singleton_append, opensInterface_line_iff hname] at hopens
  exact hclosed ⟨line, hline, hopens⟩

/-- A definition that is put into the first place is in the first place, if it is taken as a whole.
-/
theorem IsFirst.exchange_definition (hname : '\n' ∉ name.toList)
    (hshape : definition = interfaceStart name.toList ++ (' ' :: body) ++ blockEnd)
    (hfirst : IsFirst (afterInterface? name.toList) before place after)
    (haccepted : afterInterface? name.toList (definition ++ after) = some after) :
    IsFirst (afterInterface? name.toList) before definition after := by
  refine ⟨haccepted, fun tail htail hne => ?_⟩
  have hnone := hfirst.first tail htail hne
  obtain ⟨old, hold, -⟩ := afterInterface?_eq_some_iff.mp hfirst.accepted
  rw [hold, afterInterface?_eq_none_iff hname, not_and] at hnone
  rw [afterInterface?_eq_none_iff hname]
  rintro ⟨hopens, -⟩
  rw [hshape, List.append_assoc, List.append_assoc] at hopens
  refine hnone (hopens.exchange hne) ?_
  exact ⟨tail ++ (interfaceStart name.toList ++ old), after, by simp⟩

/-- To put the definition into a text again changes nothing if and only if it is taken as a whole
and the text has left no interface of its name open. -/
theorem upsertChars_again_iff (hplain : ∀ c ∈ name.toList, c.isAlphanum = true ∨ c = '_')
    (hshape : definition = interfaceStart name.toList ++ (' ' :: body) ++ blockEnd)
    (header : List Char) (hne : s ≠ []) :
    upsertChars (afterInterface? name.toList) header definition
        (upsertChars (afterInterface? name.toList) header definition s) =
      upsertChars (afterInterface? name.toList) header definition s ↔
    (name ≠ "" ∧ ¬ blockEnd <:+: definition.dropLast) ∧ ¬ LeavesOpen name.toList s := by
  have hname := newline_not_mem_of_plain hplain
  have hdefinition : definition ≠ [] := by simp [hshape]
  have hwhole := afterInterface?_definition_iff hplain hshape
  have hmatch : ∀ {s after}, afterInterface? name.toList s = some after → after <:+ s :=
    suffix_of_afterInterface?
  rcases none_or_exists_isFirst hmatch s with hnone | ⟨before, place, after, rfl, hfirst⟩
  · -- The definition is put at the end, and has to be the first one there.
    obtain ⟨t, ht, hs⟩ := exists_withFinalNewline s
    rw [upsertChars_of_acceptsNowhere hnone hne, ht, upsertChars_eq_self_iff hmatch (by simp),
      leavesOpen_iff hname, and_iff_left hnone, exists_opensInterface_iff hname hs]
    constructor
    · rintro ⟨before, after, heq, hfirst⟩
      obtain ⟨hword, hends⟩ := (hwhole after).mp hfirst.accepted
      refine ⟨⟨hword, hends⟩, not_opensInterface_of_isFirst hname hshape hends
        (acceptsNowhere_of_completed hname hs hnone) ?_ hfirst⟩
      rw [← heq, List.append_assoc, List.singleton_append]
    · rintro ⟨htaken, hclosed⟩
      exact ⟨_, _, rfl, isFirst_of_not_opensInterface hname ((hwhole _).mpr htaken) hclosed⟩
  · -- The definition is put into the first place, and stays there if it is taken as a whole.
    have hclosed : ¬ LeavesOpen name.toList (before ++ (place ++ after)) := by
      rw [leavesOpen_iff hname]
      rintro ⟨-, hnone⟩
      have hnone := hnone _ (List.suffix_append before _)
      rw [hfirst.accepted] at hnone
      cases hnone
    rw [hfirst.upsertChars hne, upsertChars_eq_self_iff hmatch (by simp [hdefinition]),
      and_iff_left hclosed, ← hwhole after]
    constructor
    · rintro ⟨_, after', -, hfirst'⟩
      exact (hwhole after).mpr ((hwhole after').mp hfirst'.accepted)
    · exact fun haccepted =>
        ⟨before, after, rfl, hfirst.exchange_definition hname hshape haccepted⟩

end Again

/-! ## What is generated for a schema, again -/

theorem blockEnd_isInfix_commentText_iff (f : Field) : blockEnd <:+: commentText f ↔
    f.description.truthy = true ∧ blockEnd <:+: f.description.text.toList := by
  rw [commentText]
  split
  · next h =>
    rw [blockEnd_isInfix_append_iff (.inr (by simp)), blockEnd_isInfix_append_iff (.inl (by simp))]
    have hopening : ¬ blockEnd <:+: ['\n', ' ', ' ', '/', '*', '*', ' '] := by decide
    have hclosing : ¬ blockEnd <:+: [' ', '*', '/'] := by decide
    rw [or_iff_right hopening, or_iff_left hclosing, and_iff_right h]
  · next h => simp [h, blockEnd]

/-- The lines of the fields close the interface where a description does. -/
theorem blockEnd_isInfix_fields_iff (fields : List Field) :
    blockEnd <:+: (fields.flatMap fun f => commentText f ++ attributeText f) ++ ['\n'] ↔
      ∃ f ∈ fields, f.description.truthy = true ∧ blockEnd <:+: f.description.text.toList := by
  induction fields with
  | nil => simp [blockEnd, List.infix_cons_iff]
  | cons f fields ih =>
    have hattribute : ¬ blockEnd <:+: attributeText f := fun hinside =>
      not_mem_attributeText f (by decide +kernel) (by decide)
        (hinside.subset (List.mem_cons_of_mem _ List.mem_cons_self))
    have hhead : (attributeText f).head? ≠ some '\x7d' := by simp [attributeText]
    have hlast : (commentText f ++ attributeText f).getLast? ≠ some '\n' := by
      rw [attributeText, ← List.append_assoc, List.getLast?_concat]
      decide
    rw [List.flatMap_cons, List.append_assoc, blockEnd_isInfix_append_iff (.inl hlast),
      blockEnd_isInfix_append_iff (.inr hhead), blockEnd_isInfix_commentText_iff,
      or_iff_left hattribute, ih]
    simp

theorem blockEnd_isInfix_typeDefinition_iff {name : String} (hname : '\n' ∉ name.toList)
    (s : Schema) : blockEnd <:+: (s.typeDefinition name).toList.dropLast ↔
      ∃ f ∈ s.fields, f.description.truthy = true ∧ blockEnd <:+: f.description.text.toList := by
  rw [toList_typeDefinition, List.dropLast_append_of_ne_nil (by simp), List.append_assoc,
    blockEnd_isInfix_line_iff (newline_not_mem_interfaceStart hname), ← blockEnd_isInfix_fields_iff]
  exact blockEnd_isInfix_line_iff (s := [' ', '\x7b']) (by simp)

/-- The file with the interface of a schema put into it. -/
def upsertSchema (content name : String) (s : Schema) : String :=
  upsertType content name (s.typeDefinition name)

/-- To put the interface of a schema into a file again leaves the file as it is if and only if the
interface has a name, no description has a line after its first that starts with a closing brace,
and the file has left no interface of the name open. -/
theorem upsertSchema_again_iff {name : String}
    (hplain : ∀ c ∈ name.toList, c.isAlphanum = true ∨ c = '_') (content : String) (s : Schema) :
    upsertSchema (upsertSchema content name s) name s = upsertSchema content name s ↔
      name ≠ "" ∧
      (∀ f ∈ s.fields, f.description.truthy = true → ¬ blockEnd <:+: f.description.text.toList) ∧
      ¬ LeavesOpen name.toList content.toList := by
  have hagain {t : List Char} (ht : t ≠ []) :=
    upsertChars_again_iff hplain (toList_typeDefinition s name) typesHeader.toList ht
  have hdescriptions : (∀ f ∈ s.fields, f.description.truthy = true →
      ¬ blockEnd <:+: f.description.text.toList) ↔
      ¬ blockEnd <:+: (s.typeDefinition name).toList.dropLast := by
    rw [blockEnd_isInfix_typeDefinition_iff (newline_not_mem_of_plain hplain)]
    simp only [not_exists, not_and]
  rw [← String.toList_inj, hdescriptions, ← and_assoc]
  simp only [upsertSchema, upsertType, String.toList_ofList]
  by_cases hcontent : content.toList = []
  · -- A new file starts with the header, in which nothing is left open.
    have hheader : typesHeader.toList ≠ [] := by decide
    have hnil : ¬ LeavesOpen name.toList [] := fun h => absurd h.isInfix (by decide +kernel)
    have hclosed : ¬ LeavesOpen name.toList typesHeader.toList := fun h =>
      absurd h.isInfix (by decide +kernel)
    rw [hcontent, upsertChars_nil, hagain hheader, iff_true_intro hnil, iff_true_intro hclosed]
  · exact hagain hcontent

/-- A file with an interface on one line, which ends with no line that starts with a brace. -/
def openTask : String := "export interface Task \x7b\x7d\n"

/-- The interface is put at the end of a file that has left one open, or is described in two lines,
the second of them with a closing brace. -/
theorem upsertSchema_again_ne : (∀ c ∈ "Task".toList, c.isAlphanum = true ∨ c = '_') ∧
    upsertSchema (upsertSchema openTask "Task" .plainTasks) "Task" .plainTasks ≠
      upsertSchema openTask "Task" .plainTasks ∧
    upsertSchema (upsertSchema "" "Task" (describedTasks "Key\n\x7d")) "Task"
        (describedTasks "Key\n\x7d") ≠
      upsertSchema "" "Task" (describedTasks "Key\n\x7d") := by
  have hplain : ∀ c ∈ "Task".toList, c.isAlphanum = true ∨ c = '_' := by simp
  refine ⟨hplain, fun h => ?_, fun h => ?_⟩
  · have hopens : OpensInterface "Task".toList openTask.toList :=
      ⟨[' ', '\x7b', '\x7d', '\n'], by decide +kernel, by decide +kernel⟩
    have hclosed : ¬ blockEnd <:+: openTask.toList := by decide +kernel
    exact ((upsertSchema_again_iff hplain openTask .plainTasks).mp h).2.2 ⟨
      ⟨_, List.suffix_rfl, hopens⟩, fun _ htail _ hinside => hclosed (hinside.trans htail.isInfix)⟩
  · obtain ⟨-, hdescriptions, -⟩ :=
      (upsertSchema_again_iff hplain "" (describedTasks "Key\n\x7d")).mp h
    exact hdescriptions _ List.mem_cons_self (by decide +kernel) (by decide +kernel)

end SheetSchema.Code
