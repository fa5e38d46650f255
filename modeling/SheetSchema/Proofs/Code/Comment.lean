import Mathlib
import SheetSchema.Proofs.Code.Interface
import SheetSchema.Proofs.Text.Lines

/-!
# Descriptions and their comments

A description is written into its comment as it is. When comments are erased from an interface
(`eraseComments`), a description is gone with its comment if it has no end of a comment in it, and
else what follows the first end is left over (`escaped_append`). So nothing is left over if and only
if each end in the description is at once followed by the start of another comment
(`escaped_eq_nil_iff`).

What is left over of one comment does not depend on the others, since each of them ends before the
next attribute (`eraseComments_comment`). The name of the interface may leave a comment open, and
that one then ends with the first description (`exists_eraseComments_append`). Either way two
schemas that differ in their descriptions only have the same interface up to comments as long as the
descriptions stay inside, and no longer (`eraseComments_typeDefinition_eq_iff`).
-/

namespace SheetSchema.Code

/-! ## Texts without their comments -/

/-- The start of a comment. -/
def opening : List Char := ['/', '*', '*']

/-- The end of a comment. -/
def closing : List Char := ['*', '/']

/-- What follows the comment that starts here. -/
def afterComment? (s : List Char) : Option (List Char) :=
  match Text.afterPrefix? opening s with
  | some rest => (Text.breakOn? closing rest).map (·.2)
  | none => none

variable {s t u v after : List Char}

/-- A comment goes up to the first end. -/
theorem afterComment?_eq_some_iff : afterComment? s = some after ↔
    ∃ text, s = opening ++ (text ++ closing ++ after) ∧ ¬ closing <:+: text := by
  have hend : closing ≠ [] := List.cons_ne_nil _ _
  have hfirst (text : List Char) : closing <:+: (text ++ closing).dropLast ↔ closing <:+: text := by
    rw [List.dropLast_append_of_ne_nil hend]
    simp [closing, Text.pair_infix_append_iff, List.infix_cons_iff]
  rw [afterComment?]
  constructor
  · intro h
    cases hrest : Text.afterPrefix? opening s with
    | none => simp [hrest] at h
    | some rest =>
      simp only [hrest, Option.map_eq_some_iff, Prod.exists, exists_eq_right] at h
      obtain ⟨text, htext⟩ := h
      obtain ⟨rfl, hclosing⟩ := (Text.breakOn?_eq_some_iff hend).mp htext
      exact ⟨text, Text.eq_append_of_afterPrefix? hrest, mt (hfirst text).mpr hclosing⟩
  · rintro ⟨text, rfl, htext⟩
    have hcut : Text.breakOn? closing (text ++ closing ++ after) = some (text, after) :=
      (Text.breakOn?_eq_some_iff hend).mpr ⟨rfl, mt (hfirst text).mp htext⟩
    rw [Text.afterPrefix?_append]
    simp only
    rw [hcut, Option.map_some]

/-- A comment starts here and does not end. -/
theorem afterComment?_eq_none_iff : afterComment? s = none ↔
    ∀ rest, s = opening ++ rest → ¬ closing <:+: rest := by
  rw [afterComment?]
  cases hrest : Text.afterPrefix? opening s with
  | none =>
    refine iff_of_true rfl fun rest hs => ?_
    rw [hs, Text.afterPrefix?_append] at hrest
    cases hrest
  | some rest =>
    simp only [Option.map_eq_none_iff, Text.breakOn?_eq_none_iff,
      Text.eq_append_of_afterPrefix? hrest, List.append_cancel_left_eq]
    exact ⟨fun h _ hrest => hrest ▸ h, fun h => h _ rfl⟩

theorem length_lt_of_afterComment? (h : afterComment? s = some after) :
    after.length < s.length := by
  obtain ⟨text, rfl, -⟩ := afterComment?_eq_some_iff.mp h
  simp only [opening, List.length_append, List.length_cons]
  omega

/-- The text without its comments, each from its start to the first end after that. What starts and
does not end is no comment. -/
def eraseComments : List Char → List Char
  | [] => []
  | c :: rest =>
    match _h : afterComment? (c :: rest) with
    | some after => eraseComments after
    | none => c :: eraseComments rest
termination_by s => s.length
decreasing_by
  · exact length_lt_of_afterComment? _h
  · exact Nat.lt_succ_self _

theorem eraseComments_of_eq_some (h : afterComment? s = some after) :
    eraseComments s = eraseComments after := by
  cases s with
  | nil => cases h
  | cons c s =>
    rw [eraseComments]
    split
    · next h' => rw [Option.some.inj (h.symm.trans h')]
    · next h' => simp [h'] at h

theorem eraseComments_cons {c : Char} (h : afterComment? (c :: s) = none) :
    eraseComments (c :: s) = c :: eraseComments s := by
  rw [eraseComments]
  split
  · next h' => simp [h'] at h
  · rfl

/-- A text of which nothing is left starts with a comment. -/
theorem opening_prefix_of_eraseComments_eq_nil (hs : s ≠ []) (h : eraseComments s = []) :
    opening <+: s := by
  obtain ⟨c, s, rfl⟩ := List.exists_cons_of_ne_nil hs
  cases hcomment : afterComment? (c :: s) with
  | some after =>
    obtain ⟨text, htext, -⟩ := afterComment?_eq_some_iff.mp hcomment
    exact ⟨_, htext.symm⟩
  | none =>
    rw [eraseComments_cons hcomment] at h
    cases h

/-! ## A text in two parts -/

theorem closing_not_isInfix_append (hs : ¬ closing <:+: s) (ht : ¬ closing <:+: t)
    (h : s.getLast? ≠ some '*' ∨ t.head? ≠ some '/') : ¬ closing <:+: s ++ t := by
  rw [closing] at hs ht
  rw [closing, Text.pair_infix_append_iff]
  tauto

/-- A comment that ends in the first part. -/
theorem afterComment?_append_of_eq_some (h : afterComment? s = some after) (t : List Char) :
    afterComment? (s ++ t) = some (after ++ t) := by
  obtain ⟨text, rfl, htext⟩ := afterComment?_eq_some_iff.mp h
  exact afterComment?_eq_some_iff.mpr ⟨text, by simp, htext⟩

/-- No comment starts between two parts if the second one starts with no asterisk. -/
theorem opening_prefix_append (hs : s ≠ []) (ht : t.head? ≠ some '*') (h : opening <+: s ++ t) :
    opening <+: s := by
  match s, t with
  | [_], [] | [_, _], [] => simpa using h
  | [_], c :: t =>
    simp only [opening, List.singleton_append, List.cons_prefix_cons] at h
    exact absurd (congrArg some h.2.1.symm) ht
  | [_, _], c :: t =>
    simp only [opening, List.cons_append, List.nil_append, List.cons_prefix_cons] at h
    exact absurd (congrArg some h.2.2.1.symm) ht
  | _ :: _ :: _ :: _, _ => simpa [opening] using h

/-- A text keeps to itself what is erased from it, or it leaves a comment open that takes from what
follows. -/
theorem exists_eraseComments_append (s : List Char) : ∃ kept,
    (∀ t, t.head? ≠ some '*' → eraseComments (s ++ t) = kept ++ eraseComments t) ∨
    ∃ text, opening ++ text <:+ s ∧ ¬ closing <:+: text ∧ ∀ t, t.head? ≠ some '*' →
      eraseComments (s ++ t) = kept ++ eraseComments (opening ++ (text ++ t)) := by
  induction s using eraseComments.induct with
  | case1 => exact ⟨[], .inl fun _ _ => rfl⟩
  | case2 c s after hcomment ih =>
    obtain ⟨kept, hkept⟩ := ih
    have herase t : eraseComments (c :: s ++ t) = eraseComments (after ++ t) :=
      eraseComments_of_eq_some (afterComment?_append_of_eq_some hcomment t)
    refine ⟨kept, hkept.imp (fun h t ht => ?_) ?_⟩
    · rw [herase, h t ht]
    · rintro ⟨text, hsuffix, hopen, h⟩
      refine ⟨text, hsuffix.trans ?_, hopen, fun t ht => ?_⟩
      · obtain ⟨text, htext, -⟩ := afterComment?_eq_some_iff.mp hcomment
        exact ⟨opening ++ (text ++ closing), by rw [htext]; simp⟩
      · rw [herase, h t ht]
  | case3 c s hcomment ih =>
    by_cases hopening : opening <+: c :: s
    · -- The comment does not end here.
      obtain ⟨text, htext⟩ := hopening
      refine ⟨[], .inr ⟨text, ⟨[], htext⟩, ?_, fun t _ => ?_⟩⟩
      · exact afterComment?_eq_none_iff.mp hcomment text htext.symm
      · rw [← htext, List.append_assoc, List.nil_append]
    · obtain ⟨kept, hkept⟩ := ih
      have herase t (ht : t.head? ≠ some '*') :
          eraseComments (c :: s ++ t) = c :: eraseComments (s ++ t) := by
        refine eraseComments_cons (afterComment?_eq_none_iff.mpr fun rest hrest => ?_)
        exact absurd (opening_prefix_append (List.cons_ne_nil c s) ht ⟨rest, hrest.symm⟩) hopening
      refine ⟨c :: kept, hkept.imp (fun h t ht => ?_) ?_⟩
      · rw [herase t ht, h t ht, List.cons_append]
      · rintro ⟨text, hsuffix, hopen, h⟩
        refine ⟨text, hsuffix.trans (List.suffix_cons c s), hopen, fun t ht => ?_⟩
        rw [herase t ht, h t ht, List.cons_append]

/-- Every comment that starts in the text ends in it. -/
def IsClosed (s : List Char) : Prop := ∀ text, opening ++ text <:+ s → closing <:+: text

theorem IsClosed.eraseComments_append (hs : IsClosed s) (ht : t.head? ≠ some '*') :
    eraseComments (s ++ t) = eraseComments s ++ eraseComments t := by
  obtain ⟨kept, h | ⟨text, hsuffix, hopen, -⟩⟩ := exists_eraseComments_append s
  · have hkept := h [] (by simp)
    rw [List.append_nil, eraseComments, List.append_nil] at hkept
    rw [h t ht, hkept]
  · exact absurd (hs text hsuffix) hopen

theorem IsClosed.of_suffix (hs : IsClosed s) (h : t <:+ s) : IsClosed t :=
  fun text htext => hs text (htext.trans h)

/-- Nothing is erased from a text without a slash. -/
theorem eraseComments_append_of_not_mem (hs : '/' ∉ s) (t : List Char) :
    eraseComments (s ++ t) = s ++ eraseComments t := by
  induction s with
  | nil => rfl
  | cons c s ih =>
    rw [List.mem_cons, not_or] at hs
    have hcomment : afterComment? (c :: (s ++ t)) = none := by
      refine afterComment?_eq_none_iff.mpr fun rest hrest => ?_
      exact absurd (List.cons.inj hrest).1.symm hs.1
    rw [List.cons_append, eraseComments_cons hcomment, ih hs.2, List.cons_append]

/-! ## Descriptions -/

/-- The end of the line of a description. -/
def ending : List Char := [' ', '*', '/']

theorem isClosed_append_ending (u : List Char) : IsClosed (u ++ ending) := by
  intro text hsuffix
  rcases Text.suffix_append_iff.mp hsuffix with h | ⟨w, hw, -, htext⟩
  · have hnone : ¬ opening <:+: ending := by decide
    exact absurd ((List.prefix_append _ _).isInfix.trans h.isInfix) hnone
  · obtain ⟨v, rfl⟩ := opening_prefix_append hw (by decide) ⟨text, htext⟩
    rw [List.append_assoc, List.append_cancel_left_eq] at htext
    exact htext ▸ ⟨v ++ [' '], [], by simp [ending, closing]⟩

/-- What is left of a comment with this text when comments are erased. -/
def escaped (u : List Char) : List Char := eraseComments (opening ++ (u ++ ending))

/-- A comment is cut at its first end. -/
theorem exists_first_closing (h : closing <:+: s) :
    ∃ text after, s = text ++ closing ++ after ∧ ¬ closing <:+: text := by
  cases hcomment : afterComment? (opening ++ s) with
  | none => exact absurd h (afterComment?_eq_none_iff.mp hcomment s rfl)
  | some after =>
    obtain ⟨text, hs, htext⟩ := afterComment?_eq_some_iff.mp hcomment
    exact ⟨text, after, List.append_cancel_left hs, htext⟩

/-- What is left of a comment does not depend on how it begins and what follows it. -/
theorem eraseComments_comment {lead : List Char} (hlead : ¬ closing <:+: lead)
    (hlast : lead.getLast? ≠ some '*') (ht : t.head? ≠ some '*') (u : List Char) :
    eraseComments (opening ++ (lead ++ (u ++ ending)) ++ t) = escaped u ++ eraseComments t := by
  have hinside : closing <:+: u ++ ending := ⟨u ++ [' '], [], by simp [ending, closing]⟩
  obtain ⟨text, after, hu, htext⟩ := exists_first_closing hinside
  have hclosed : IsClosed after :=
    (isClosed_append_ending u).of_suffix (hu ▸ List.suffix_append _ _)
  have hescaped : escaped u = eraseComments after :=
    eraseComments_of_eq_some (afterComment?_eq_some_iff.mpr ⟨text, by rw [hu], htext⟩)
  have hbefore : ¬ closing <:+: lead ++ text :=
    closing_not_isInfix_append hlead htext (.inl hlast)
  rw [hescaped, ← hclosed.eraseComments_append ht]
  refine eraseComments_of_eq_some (afterComment?_eq_some_iff.mpr ⟨lead ++ text, ?_, hbefore⟩)
  rw [hu]
  simp

/-- Each end of a comment in the text is at once followed by the start of the next one. -/
inductive IsEnclosed : List Char → Prop
  | plain {u : List Char} (h : ¬ closing <:+: u) : IsEnclosed u
  | reopened {u v : List Char} (h : ¬ closing <:+: u) (hv : IsEnclosed v) :
    IsEnclosed (u ++ closing ++ (opening ++ v))

theorem escaped_of_not_isInfix (h : ¬ closing <:+: u) : escaped u = [] := by
  have htext : ¬ closing <:+: u ++ [' '] := by
    simpa [closing, Text.pair_infix_append_iff, List.infix_cons_iff] using h
  have hcomment : afterComment? (opening ++ (u ++ ending)) = some [] :=
    afterComment?_eq_some_iff.mpr ⟨u ++ [' '], by simp [ending, closing], htext⟩
  rw [escaped, eraseComments_of_eq_some hcomment, eraseComments]

/-- What follows the first end in the text is outside the comment. -/
theorem escaped_append (h : ¬ closing <:+: u) :
    escaped (u ++ closing ++ v) = eraseComments (v ++ ending) :=
  eraseComments_of_eq_some (afterComment?_eq_some_iff.mpr ⟨u, by simp, h⟩)

/-- Nothing is left of a comment if and only if its text is enclosed. -/
theorem escaped_eq_nil_iff : escaped u = [] ↔ IsEnclosed u := by
  constructor
  · induction hlength : u.length using Nat.strong_induction_on generalizing u with
    | _ n ih =>
      intro hnil
      by_cases hinside : closing <:+: u
      · obtain ⟨text, v, rfl, htext⟩ := exists_first_closing hinside
        rw [escaped_append htext] at hnil
        have hopening : opening <+: v ++ ending :=
          opening_prefix_of_eraseComments_eq_nil (by simp [ending]) hnil
        have hv : v ≠ [] := by
          rintro rfl
          exact absurd hopening (by decide)
        obtain ⟨w, rfl⟩ := opening_prefix_append hv (by decide) hopening
        rw [List.append_assoc] at hnil
        refine .reopened htext (ih w.length ?_ rfl hnil)
        rw [← hlength]
        simp only [opening, closing, List.length_append, List.length_cons]
        omega
      · exact .plain hinside
  · intro h
    induction h with
    | plain h => exact escaped_of_not_isInfix h
    | reopened h _ ih => rw [escaped_append h, List.append_assoc, ← escaped, ih]

instance : DecidablePred IsEnclosed := fun u => decidable_of_iff (escaped u = []) escaped_eq_nil_iff

/-! ## Other descriptions -/

/-- The two fields differ in their descriptions only, and both are described or none is. -/
structure IsRedescription (f g : Field) : Prop where
  eq : g = { f with description := g.description }
  truthy : f.description.truthy = g.description.truthy

/-- The two schemas have fields that differ in their descriptions only. -/
def SameButDescriptions (s t : Schema) : Prop := List.Forall₂ IsRedescription s.fields t.fields

/-- The descriptions stay inside their comments. -/
def KeepsDescriptions (fields : List Field) : Prop :=
  ∀ f ∈ fields, f.description.truthy = true → IsEnclosed f.description.text.toList

/-- The text `t` has all of `s`, and no more than that if and only if `p` holds. -/
structure Extends (p : Prop) (s t : List Char) : Prop where
  sublist : s.Sublist t
  eq_iff : t = s ↔ p

theorem Extends.refl {p : Prop} (hp : p) (s : List Char) : Extends p s s :=
  ⟨List.Sublist.refl s, iff_of_true rfl hp⟩

theorem Extends.append {p q : Prop} {s' t' : List Char} (h : Extends p s t) (h' : Extends q s' t') :
    Extends (p ∧ q) (s ++ s') (t ++ t') := by
  refine ⟨h.sublist.append h'.sublist, ?_⟩
  rw [← h.eq_iff, ← h'.eq_iff]
  constructor
  · intro heq
    have hlength := congrArg List.length heq
    have hle := h.sublist.length_le
    have hle' := h'.sublist.length_le
    simp only [List.length_append] at hlength
    exact ⟨(h.sublist.eq_of_length (by omega)).symm, (h'.sublist.eq_of_length (by omega)).symm⟩
  · rintro ⟨rfl, rfl⟩
    rfl

theorem Extends.congr {p q : Prop} (h : Extends p s t) (hpq : p ↔ q) : Extends q s t :=
  ⟨h.sublist, h.eq_iff.trans hpq⟩

theorem extends_escaped (h : IsEnclosed v) : Extends (IsEnclosed u) (escaped v) (escaped u) := by
  rw [escaped_eq_nil_iff.mpr h]
  exact ⟨List.nil_sublist _, escaped_eq_nil_iff⟩

/-! ### The fields of an interface -/

/-- The text of the fields and the end of an interface. -/
def fieldsText (fields : List Field) : List Char :=
  (fields.flatMap fun f => commentText f ++ attributeText f) ++ ['\n', '\x7d']

variable {f g : Field} {fields others : List Field}

theorem fieldsText_cons (f : Field) (fields : List Field) :
    fieldsText (f :: fields) = commentText f ++ (attributeText f ++ fieldsText fields) := by
  simp [fieldsText]

theorem head?_fieldsText_ne (fields : List Field) : (fieldsText fields).head? ≠ some '*' := by
  cases fields with
  | nil => decide
  | cons f fields =>
    rw [fieldsText_cons, commentText]
    split <;> simp [attributeText]

theorem slash_not_mem_attributeText (f : Field) : '/' ∉ attributeText f :=
  not_mem_attributeText f (by decide +kernel) (by decide)

theorem commentText_of_truthy (h : f.description.truthy = true) : commentText f =
    ['\n', ' ', ' '] ++ (opening ++ ([' '] ++ (f.description.text.toList ++ ending))) := by
  rw [commentText, if_pos h]
  simp [opening, ending]

theorem commentText_of_not_truthy (h : f.description.truthy ≠ true) : commentText f = [] := by
  rw [commentText, if_neg h]

theorem keepsDescriptions_cons : KeepsDescriptions (f :: fields) ↔
    (f.description.truthy = true → IsEnclosed f.description.text.toList) ∧
      KeepsDescriptions fields :=
  List.forall_mem_cons

theorem IsRedescription.attributeText_eq (h : IsRedescription f g) :
    attributeText g = attributeText f := by
  rw [h.eq]
  rfl

/-- One comment, however it begins, and the fields that follow it. -/
theorem extends_comment {lead : List Char} {p : Prop} (hlead : ¬ closing <:+: lead)
    (hlast : lead.getLast? ≠ some '*') (hv : IsEnclosed v) (f : Field)
    (h : Extends p (eraseComments (fieldsText others)) (eraseComments (fieldsText fields))) :
    Extends (IsEnclosed u ∧ p)
      (eraseComments (opening ++ (lead ++ (v ++ ending)) ++ (attributeText f ++ fieldsText others)))
      (eraseComments
        (opening ++ (lead ++ (u ++ ending)) ++ (attributeText f ++ fieldsText fields))) := by
  have herase (u : List Char) (fields : List Field) : eraseComments
      (opening ++ (lead ++ (u ++ ending)) ++ (attributeText f ++ fieldsText fields)) =
      escaped u ++ (attributeText f ++ eraseComments (fieldsText fields)) := by
    rw [eraseComments_comment hlead hlast (by simp [attributeText]),
      eraseComments_append_of_not_mem (slash_not_mem_attributeText f)]
  rw [herase, herase]
  have hrest := (Extends.refl trivial (attributeText f)).append h
  exact ((extends_escaped hv).append hrest).congr (by rw [true_and])

/-- Outside of comments, other descriptions lead to another text if they leave their comments. -/
theorem extends_fieldsText (h : List.Forall₂ IsRedescription fields others)
    (hothers : KeepsDescriptions others) : Extends (KeepsDescriptions fields)
      (eraseComments (fieldsText others)) (eraseComments (fieldsText fields)) := by
  induction h with
  | nil => exact .refl nofun _
  | @cons f g fields others hfg _ ih =>
    rw [keepsDescriptions_cons] at hothers
    have hrest := ih hothers.2
    rw [fieldsText_cons, fieldsText_cons, hfg.attributeText_eq, keepsDescriptions_cons]
    by_cases hf : f.description.truthy = true
    · have hg : g.description.truthy = true := hfg.truthy ▸ hf
      have hblank : '/' ∉ ['\n', ' ', ' '] := by decide
      have hlead : ¬ closing <:+: [' '] := by decide
      have hcomment (u t : List Char) :
          eraseComments (['\n', ' ', ' '] ++ (opening ++ ([' '] ++ (u ++ ending))) ++ t) =
            ['\n', ' ', ' '] ++ eraseComments (opening ++ ([' '] ++ (u ++ ending)) ++ t) := by
        rw [List.append_assoc, eraseComments_append_of_not_mem hblank]
      rw [commentText_of_truthy hf, commentText_of_truthy hg, hcomment, hcomment]
      have hall := (Extends.refl trivial ['\n', ' ', ' ']).append
        (extends_comment (u := f.description.text.toList) hlead (by decide) (hothers.1 hg) f hrest)
      exact hall.congr (by simp [hf])
    · have hg : g.description.truthy ≠ true := hfg.truthy ▸ hf
      have hslash := slash_not_mem_attributeText f
      rw [commentText_of_not_truthy hf, commentText_of_not_truthy hg, List.nil_append,
        List.nil_append, eraseComments_append_of_not_mem hslash,
        eraseComments_append_of_not_mem hslash]
      exact ((Extends.refl trivial _).append hrest).congr (by simp [hf])

/-- Inside a comment that has been opened before the fields, the same holds. -/
theorem extends_fieldsText_of_open (h : List.Forall₂ IsRedescription fields others)
    (hothers : KeepsDescriptions others) {text : List Char} (htext : ¬ closing <:+: text) :
    Extends (KeepsDescriptions fields) (eraseComments (opening ++ (text ++ fieldsText others)))
      (eraseComments (opening ++ (text ++ fieldsText fields))) := by
  induction h generalizing text with
  | nil => exact .refl nofun _
  | @cons f g fields others hfg hrest ih =>
    rw [keepsDescriptions_cons] at hothers
    rw [fieldsText_cons, fieldsText_cons, hfg.attributeText_eq, keepsDescriptions_cons]
    by_cases hf : f.description.truthy = true
    · have hg : g.description.truthy = true := hfg.truthy ▸ hf
      have hlead : ¬ closing <:+: text ++ (['\n', ' ', ' '] ++ opening ++ [' ']) :=
        closing_not_isInfix_append htext (by decide) (.inr (by decide))
      have hlast : (text ++ (['\n', ' ', ' '] ++ opening ++ [' '])).getLast? ≠ some '*' := by
        rw [← List.append_assoc, List.getLast?_concat]
        decide
      have hall := extends_comment (u := f.description.text.toList) hlead hlast (hothers.1 hg) f
        (extends_fieldsText hrest hothers.2)
      rw [commentText_of_truthy hf, commentText_of_truthy hg]
      simp only [List.append_assoc] at hall ⊢
      exact hall.congr (by simp [hf])
    · have hg : g.description.truthy ≠ true := hfg.truthy ▸ hf
      have hattribute : ¬ closing <:+: attributeText f := fun h =>
        slash_not_mem_attributeText f (h.subset (by simp [closing]))
      have hnext := closing_not_isInfix_append htext hattribute (.inr (by simp [attributeText]))
      rw [commentText_of_not_truthy hf, commentText_of_not_truthy hg, List.nil_append,
        List.nil_append, ← List.append_assoc text, ← List.append_assoc text]
      exact (ih hothers.2 hnext).congr (by simp [hf])

variable {s t : Schema}

/-- Let the descriptions of `t` stay inside their comments, and let `s` have other descriptions.
Then the two interfaces are the same up to comments if and only if the descriptions of `s` stay
inside as well. -/
theorem eraseComments_typeDefinition_eq_iff (h : SameButDescriptions s t)
    (ht : KeepsDescriptions t.fields) (feature : String) :
    eraseComments (s.typeDefinition feature).toList =
        eraseComments (t.typeDefinition feature).toList ↔
      KeepsDescriptions s.fields := by
  have hshape (s : Schema) : (s.typeDefinition feature).toList =
      interfaceStart feature.toList ++ [' ', '\x7b'] ++ fieldsText s.fields := by
    rw [toList_typeDefinition, fieldsText]
    simp
  have hnext := head?_fieldsText_ne
  rw [hshape, hshape]
  obtain ⟨kept, hkept | ⟨text, -, htext, hkept⟩⟩ :=
    exists_eraseComments_append (interfaceStart feature.toList ++ [' ', '\x7b'])
  · rw [hkept _ (hnext _), hkept _ (hnext _), List.append_cancel_left_eq]
    exact (extends_fieldsText h ht).eq_iff
  · rw [hkept _ (hnext _), hkept _ (hnext _), List.append_cancel_left_eq]
    exact (extends_fieldsText_of_open h ht htext).eq_iff

/-- A description that leaves its comment, next to one that does not. -/
theorem eraseComments_typeDefinition_ne :
    SameButDescriptions (describedTasks "Key */ token: string; /*") (describedTasks "Key") ∧
    KeepsDescriptions (describedTasks "Key").fields ∧
    eraseComments ((describedTasks "Key */ token: string; /*").typeDefinition "Task").toList ≠
      eraseComments ((describedTasks "Key").typeDefinition "Task").toList := by
  have hsame : SameButDescriptions (describedTasks "Key */ token: string; /*")
      (describedTasks "Key") :=
    .cons ⟨rfl, by decide +kernel⟩ (.cons ⟨rfl, by decide +kernel⟩ .nil)
  have hkeeps : KeepsDescriptions (describedTasks "Key").fields := by
    rintro _ hf -
    obtain ⟨f, -, rfl⟩ := List.mem_map.mp hf
    have hkey : IsEnclosed "Key".toList := by decide +kernel
    exact hkey
  refine ⟨hsame, hkeeps, fun h => ?_⟩
  have hall := (eraseComments_typeDefinition_eq_iff hsame hkeeps "Task").mp h
  exact absurd (hall _ List.mem_cons_self (by decide +kernel)) (by decide +kernel)

end SheetSchema.Code
