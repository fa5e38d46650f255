import Mathlib
import SheetSchema.Code.Declaration
import SheetSchema.Code.Mapper
import SheetSchema.Proofs.Schema.Field
import SheetSchema.Proofs.Schema.Order

/-!
# The text of an interface

What is generated for a schema is cut at its fields (`toList_typeDefinition`). Each field has a line
for its description, if there is one (`commentText`), and a line for its attribute
(`attributeText`). A description is free text and stands in its line as it is. The line of an
attribute has nothing in it but words and a few marks (`not_mem_attributeText`).
-/

namespace SheetSchema.Code

/-- The text of lines between a first and a last one. -/
theorem toList_unlines (first : String) (lines : List String) (last : String) :
    (Schema.unlines ([first] ++ lines ++ [last])).toList =
      first.toList ++ lines.flatMap ('\n' :: ·.toList) ++ '\n' :: last.toList := by
  rw [Schema.unlines, String.toList_intercalate]
  induction lines generalizing first with
  | nil => simp [List.intercalate_cons_cons]
  | cons line lines ih =>
    have hrest := ih line
    simp only [List.cons_append, List.nil_append, List.map_cons] at hrest ⊢
    rw [List.intercalate_cons_cons, hrest]
    simp

/-- The line of a description. -/
def commentText (f : Field) : List Char :=
  if f.description.truthy then
    ['\n', ' ', ' ', '/', '*', '*', ' '] ++ f.description.text.toList ++ [' ', '*', '/']
  else []

/-- The line of an attribute. -/
def attributeText (f : Field) : List Char :=
  ['\n', ' ', ' '] ++ f.name.toList ++ (if f.required then [] else ['?']) ++ [':', ' '] ++
    f.codeType.toList ++ [';']

theorem flatMap_memberLines (f : Field) :
    (Schema.memberLines f).flatMap ('\n' :: ·.toList) = commentText f ++ attributeText f := by
  rw [Schema.memberLines, commentText, attributeText]
  cases f.description.truthy <;> cases f.required <;> simp [toString]

/-- What is generated for a schema, field by field. -/
theorem toList_typeDefinition (s : Schema) (name : String) : (s.typeDefinition name).toList =
    interfaceStart name.toList ++
      (' ' :: '\x7b' :: s.fields.flatMap fun f => commentText f ++ attributeText f) ++
      ['\n', '\x7d'] := by
  rw [Schema.typeDefinition, toList_unlines, List.flatMap_assoc]
  simp only [flatMap_memberLines]
  unfold interfaceStart
  simp [toString]

/-- The marks of a line of an attribute, apart from its words. -/
theorem not_mem_attributeText (f : Field) {c : Char} (hc : Field.isNamePart c = false)
    (hmarks : c ∉ ['\n', ' ', '?', ':', ';']) : c ∉ attributeText f := by
  have hname : c ∉ f.name.toList := fun hmem => by
    rcases f.isNamePart_of_mem_name hmem with h | rfl
    · rw [h] at hc
      cases hc
    · exact hmarks (by simp)
  have htype : c ∉ f.codeType.toList := fun hmem => by
    have hall : ∀ type : FieldType, ∀ d ∈ type.name.toList, Field.isNamePart d = true := by
      intro type
      cases type <;> exact List.all_eq_true.mp (by decide +kernel)
    rw [Field.codeType] at hmem
    split at hmem
    · rw [hall .string c hmem] at hc
      cases hc
    · rw [hall f.type c hmem] at hc
      cases hc
  rw [attributeText]
  simp only [List.mem_cons, List.not_mem_nil, not_or] at hmarks
  cases f.required <;> simp [hname, htype, hmarks]

/-- Tasks whose attributes have this description. -/
def describedTasks (description : String) : Schema :=
  { Schema.plainTasks with
    fields := Schema.plainTasks.fields.map fun f => { f with description := .str description } }

end SheetSchema.Code
