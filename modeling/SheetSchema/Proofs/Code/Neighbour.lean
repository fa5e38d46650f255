import Mathlib
import SheetSchema.Proofs.Code.Constant
import SheetSchema.Proofs.Text.Lines

/-!
# Constants that share a line

To put a constant into a file is to exchange one declaration of it. Where each line has one
declaration, every other constant stays (`hasConstant_upsertConstant_of_mem_lines`). But what is
exchanged goes up to the last quote and semicolon of the line, and it may have declarations of
another constant in it. If all of them start there (`Covers`), then that constant is lost, and if
one of them does not, it stays (`hasConstant_upsertConstant_iff`).
-/

namespace SheetSchema.Code

variable {name other before place old new after : List Char} {content : String}

/-! ## Declarations that meet -/

/-- A declaration does not start in another one and end after it, if no quote and semicolon are left
in the line there. -/
theorem IsDeclaration.not_straddles (hname : IsConstantName name) (h : IsDeclaration name place)
    {left right rest : List Char} (hplace : place = left ++ right)
    (hleft : left.getLast? = some ';') (hright : right ≠ []) :
    afterLastQuote? (right ++ rest) ≠ none := by
  obtain ⟨body, q, rfl, hq, hbody⟩ := h.exists_close hname
  obtain ⟨x, rfl, hx⟩ : ∃ x, right = x ++ [q, ';'] ∧ '\n' ∉ x := by
    rcases List.append_eq_append_iff.mp hplace with ⟨x, rfl, hx⟩ | ⟨x, rfl, rfl⟩
    · rcases x with _ | ⟨c, _ | ⟨d, x⟩⟩
      · exact ⟨[], hx.symm, List.not_mem_nil⟩
      · -- The first part ends with a semicolon, and not with the quote.
        obtain rfl : q = c := (List.cons.inj hx).1
        obtain rfl : q = ';' := by simpa using hleft
        cases hq
      · have hlength := congrArg List.length hx
        have hpos := List.length_pos_iff.mpr hright
        simp only [List.length_append, List.length_cons, List.length_nil] at hlength
        omega
    · exact ⟨x, rfl, fun hmem => hbody (List.mem_append_right _ hmem)⟩
  rw [List.append_assoc, List.cons_append, List.cons_append, List.nil_append,
    afterLastQuote?_append hx hq]
  simp

theorem IsDeclaration.getLast?_eq (h : IsDeclaration name place) : place.getLast? = some ';' := by
  obtain @⟨value, q, q', hq, hvalue, hq'⟩ := h
  rw [List.getLast?_append_of_ne_nil _ (List.cons_ne_nil _ _),
    List.getLast?_cons_of_ne_nil (by simp), List.getLast?_append_of_ne_nil _ (List.cons_ne_nil _ _)]
  rfl

/-- A declaration that starts in another one ends in it, if no quote and semicolon are left in the
line after that. -/
theorem IsDeclaration.prefix_of_prefix_append (hother : IsConstantName other)
    (hplace : IsDeclaration other place) (hnew : IsDeclaration name new) {start : List Char}
    (hne : start ≠ []) (hstart : start <:+ new) (hafter : afterLastQuote? after = none)
    (h : place <+: start ++ after) : place <+: start := by
  obtain ⟨rest, hrest⟩ := h
  rcases List.append_eq_append_iff.mp hrest with ⟨w, rfl, -⟩ | ⟨w, hw, rfl⟩
  · exact List.prefix_append _ _
  · by_cases hright : w = []
    · rw [hw, hright, List.append_nil]
    · have hlast : start.getLast? = some ';' := by
        obtain ⟨u, rfl⟩ := hstart
        rw [← hnew.getLast?_eq, List.getLast?_append_of_ne_nil u hne]
      exact absurd hafter (hplace.not_straddles hother hw hlast hright)

/-- A declaration in a text around a new one starts before that, lies in it or starts after it. -/
theorem cases_of_isSome_afterConstant? (hother : IsConstantName other)
    (hnew : IsDeclaration name new) (hafter : afterLastQuote? after = none) {tail : List Char}
    (htail : tail <:+ before ++ (new ++ after)) (h : (afterConstant? other tail).isSome = true) :
    (∃ head, head ≠ [] ∧ head <:+ before ∧ tail = head ++ (new ++ after)) ∨
      (∃ place, IsDeclaration other place ∧ place <:+: new) ∨ tail <:+ after := by
  rcases Text.suffix_append_iff.mp htail with htail | hbefore
  · rcases Text.suffix_append_iff.mp htail with htail | ⟨start, hne, hstart, rfl⟩
    · exact .inr (.inr htail)
    · obtain ⟨place, hplace, hstarts⟩ := isSome_afterConstant?_iff.mp h
      have hin := hplace.prefix_of_prefix_append hother hnew hne hstart hafter hstarts
      exact .inr (.inl ⟨place, hplace, hin.isInfix.trans hstart.isInfix⟩)
  · exact .inl hbefore

/-! ## Other constants in the file -/

/-- If the constant is new to the file, every other one stays. -/
theorem hasConstant_upsertConstant_of_eq_false {name other : String}
    (h : hasConstant content name = false) (hother : hasConstant content other = true)
    (range : String) : hasConstant (upsertConstant content name range) other = true := by
  have hne : content ≠ "" := by
    rintro rfl
    obtain ⟨place, hplace, hinside⟩ := hasConstant_iff.mp hother
    exact hplace.ne_nil (List.infix_nil.mp hinside)
  refine hasConstant_of_isInfix hother ?_
  rw [toList_upsertConstant_of_eq_false h hne]
  exact ((prefix_withFinalNewline _).trans (List.prefix_append _ _)).isInfix

/-- A constant in a line that does not declare the other one stays. -/
theorem hasConstant_upsertConstant_of_mem_lines {name other line : String}
    (hname : IsConstantName name.toList) (hline : line ∈ Text.lines content)
    (h : hasConstant line other = true) (hnone : hasConstant line name = false) (range : String) :
    hasConstant (upsertConstant content name range) other = true := by
  cases hdeclared : hasConstant content name with
  | false =>
    have hcontent := hasConstant_of_isInfix h (Text.isInfix_of_mem_lines hline)
    exact hasConstant_upsertConstant_of_eq_false hdeclared hcontent range
  | true =>
    obtain ⟨above, old, new, below, hlines, -, hold, hput⟩ :=
      exists_changed_line hname hdeclared range
    have hne : line ≠ old := by
      rintro rfl
      rw [hold] at hnone
      cases hnone
    rw [hlines, List.mem_append, List.mem_cons] at hline
    refine hasConstant_of_isInfix h (Text.isInfix_of_mem_lines ?_)
    rw [hput, List.mem_append, List.mem_cons]
    exact hline.imp_right fun hbelow => .inr (hbelow.resolve_left hne)

/-! ## Covered constants -/

/-- Every declaration of `other` in the file starts in the text that a declaration of `name` takes
the place of. -/
def Covers (content name other : String) : Prop :=
  ∃ before old after, content.toList = before ++ (old ++ after) ∧
    IsFirst (afterConstant? name.toList) before old after ∧
    ∀ tail, tail <:+ content.toList → (afterConstant? other.toList tail).isSome = true →
      ∃ start, start ≠ [] ∧ start <:+ old ∧ tail = start ++ after

/-- A file declares a constant if and only if it does so somewhere. -/
theorem hasConstant_iff_exists_tail {name : String} : hasConstant content name = true ↔
    ∃ tail, tail <:+ content.toList ∧ (afterConstant? name.toList tail).isSome = true := by
  rw [← Bool.not_eq_false, hasConstant_eq_false_iff, AcceptsNowhere]
  simp only [not_forall, exists_prop, ← Option.not_isSome_iff_eq_none, not_not]

/-- What is covered is gone, unless the new range spells it. -/
theorem exists_isInfix_of_covers {name other : String} (hname : IsConstantName name.toList)
    (hother : IsConstantName other.toList) (hcovers : Covers content name other) {range : String}
    (h : hasConstant (upsertConstant content name range) other = true) :
    ∃ place, IsDeclaration other.toList place ∧ place <:+: constantDeclaration name range := by
  obtain ⟨before, old, after, hcontent, hfirst, hcovers⟩ := hcovers
  obtain ⟨hold, hafter⟩ := hfirst.isDeclaration
  have hnew := isDeclaration_constantDeclaration name range
  obtain ⟨tail, htail, hsome⟩ := hasConstant_iff_exists_tail.mp h
  rw [toList_upsertConstant_of_isFirst hcontent hfirst] at htail
  rw [hcontent] at hcovers
  rcases cases_of_isSome_afterConstant? hother hnew hafter htail hsome with
    ⟨head, hne, hhead, rfl⟩ | hspells | htail
  · -- It starts before the place, and did so already.
    have hsome := isSome_afterConstant?_exchange hname hother hnew hold hne hsome
    obtain ⟨start, -, hstart, heq⟩ :=
      hcovers _ (Text.suffix_append_iff.mpr (.inr ⟨head, hne, hhead, rfl⟩)) hsome
    have hlength := congrArg List.length heq
    have hpos := List.length_pos_iff.mpr hne
    have hle := hstart.length_le
    simp only [List.length_append] at hlength
    omega
  · exact hspells
  · obtain ⟨start, hne, -, rfl⟩ := hcovers tail
      (htail.trans ((List.suffix_append _ _).trans (List.suffix_append _ _))) hsome
    have hle := htail.length_le
    have hpos := List.length_pos_iff.mpr hne
    rw [List.length_append] at hle
    omega

/-- What is not covered stays. -/
theorem hasConstant_upsertConstant_of_not_covers {name other : String}
    (hname : IsConstantName name.toList) (hother : IsConstantName other.toList)
    (h : hasConstant content other = true) (hcovers : ¬ Covers content name other)
    (range : String) : hasConstant (upsertConstant content name range) other = true := by
  cases hdeclared : hasConstant content name with
  | false => exact hasConstant_upsertConstant_of_eq_false hdeclared h range
  | true =>
    obtain ⟨before, old, after, hcontent, hfirst⟩ := exists_isFirst_of_hasConstant hdeclared
    have hold := hfirst.isDeclaration.1
    have hnew := isDeclaration_constantDeclaration name range
    obtain ⟨tail, htail, hsome, houtside⟩ : ∃ tail, tail <:+ content.toList ∧
        (afterConstant? other.toList tail).isSome = true ∧
        ¬ ∃ start, start ≠ [] ∧ start <:+ old ∧ tail = start ++ after := by
      by_contra hnone
      refine hcovers ⟨before, old, after, hcontent, hfirst, fun tail htail hsome => ?_⟩
      by_contra hstart
      exact hnone ⟨tail, htail, hsome, hstart⟩
    rw [hasConstant_iff_exists_tail, toList_upsertConstant_of_isFirst hcontent hfirst]
    rw [hcontent] at htail
    rcases Text.suffix_append_iff.mp htail with htail | ⟨head, hne, hhead, rfl⟩
    · rcases Text.suffix_append_iff.mp htail with htail | hstart
      · exact ⟨tail, htail.trans ((List.suffix_append _ _).trans (List.suffix_append _ _)), hsome⟩
      · exact absurd hstart houtside
    · exact ⟨_, Text.suffix_append_iff.mpr (.inr ⟨head, hne, hhead, rfl⟩),
        isSome_afterConstant?_exchange hname hother hold hnew hne hsome⟩

/-- A file that declares a constant goes on to declare it when another constant is put into it,
unless all declarations of it are covered and the new range does not spell one. -/
theorem hasConstant_upsertConstant_iff {name other : String} (hname : IsConstantName name.toList)
    (hother : IsConstantName other.toList) (h : hasConstant content other = true) (range : String) :
    hasConstant (upsertConstant content name range) other = true ↔
      ¬ Covers content name other ∨
        hasConstant (String.ofList (constantDeclaration name range)) other = true := by
  have hspells : hasConstant (String.ofList (constantDeclaration name range)) other = true ↔
      ∃ place, IsDeclaration other.toList place ∧ place <:+: constantDeclaration name range := by
    rw [hasConstant_iff, String.toList_ofList]
  rw [hspells]
  constructor
  · intro hput
    rw [or_iff_not_imp_left, not_not]
    exact fun hcovers => exists_isInfix_of_covers hname hother hcovers hput
  · rintro (hcovers | ⟨place, hplace, hinside⟩)
    · exact hasConstant_upsertConstant_of_not_covers hname hother h hcovers range
    · obtain ⟨before, after, hput⟩ := exists_isFirst_upsertConstant hname content
      rw [hasConstant_iff, (hput range).1]
      exact ⟨place, hplace, hinside.trans
        ((List.prefix_append _ _).isInfix.trans (List.suffix_append _ _).isInfix)⟩

/-- Two constants in one line. -/
def sharedLine : String :=
  "export const TASK_RANGE = 'Tasks!A2:D'; export const MAIL_RANGE = 'Mail!A2:B';"

/-- The second constant is lost when the first one is put into the file. -/
theorem sharedLine_loses_constant :
    IsConstantName "TASK_RANGE".toList ∧ IsConstantName "MAIL_RANGE".toList ∧
    hasConstant sharedLine "MAIL_RANGE" = true ∧
    (hasConstant (upsertConstant sharedLine "TASK_RANGE" "Tasks!A2:C") "MAIL_RANGE" = true ↔
      ¬ Covers sharedLine "TASK_RANGE" "MAIL_RANGE" ∨
        hasConstant (String.ofList (constantDeclaration "TASK_RANGE" "Tasks!A2:C")) "MAIL_RANGE" =
          true) ∧
    hasConstant (upsertConstant sharedLine "TASK_RANGE" "Tasks!A2:C") "MAIL_RANGE" = false := by
  have htask : IsConstantName "TASK_RANGE".toList := List.all_eq_true.mp (by decide +kernel)
  have hmail : IsConstantName "MAIL_RANGE".toList := List.all_eq_true.mp (by decide +kernel)
  have hdeclared : hasConstant sharedLine "MAIL_RANGE" = true := by decide +kernel
  exact ⟨htask, hmail, hdeclared,
    hasConstant_upsertConstant_iff htask hmail hdeclared "Tasks!A2:C", by decide +kernel⟩

end SheetSchema.Code
