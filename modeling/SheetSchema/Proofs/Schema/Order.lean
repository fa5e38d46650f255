import Mathlib
import SheetSchema.Proofs.Schema.Range

/-!
# The canonical order

The canonical order of a schema is a sorting of its fields by column (`Schema.perm_ordered`,
`Schema.pairwise_ordered`), so it starts in the first column of the schema and stops in the last
(`Schema.exists_first`, `Schema.exists_last`). If no two fields share a column it ascends strictly
(`Schema.pairwise_lt_ordered`), and then it depends on nothing but the set of the fields
(`Schema.ordered_eq_of_perm`).
-/

namespace SheetSchema

/-- A column is told by its index. -/
theorem Field.column_eq_of_columnIndex_eq {f g : Field} (h : f.columnIndex = g.columnIndex) :
    f.column = g.column := by
  rw [← Column.letters_indexOf f.column_capitals, ← Column.letters_indexOf g.column_capitals]
  exact congrArg (fun i : Int => Column.letters i.toNat) h

namespace Schema

/-! ## Sorting -/

section Sorting

variable {α : Type} (column : α → Int)

theorem insertByColumn_eq_orderedInsert (f : α) (items : List α) :
    insertByColumn column f items = items.orderedInsert (fun f g => column f ≤ column g) f := by
  induction items with
  | nil => rfl
  | cons g items ih => rw [insertByColumn, List.orderedInsert_cons, ih]

theorem sortByColumn_eq_insertionSort (items : List α) :
    sortByColumn column items = items.insertionSort fun f g => column f ≤ column g := by
  induction items with
  | nil => rfl
  | cons f items ih =>
    rw [sortByColumn, ih, insertByColumn_eq_orderedInsert, List.insertionSort_cons]

theorem perm_sortByColumn (items : List α) : (sortByColumn column items).Perm items := by
  rw [sortByColumn_eq_insertionSort]
  exact List.perm_insertionSort _ items

theorem pairwise_sortByColumn (items : List α) :
    (sortByColumn column items).Pairwise fun f g => column f ≤ column g := by
  have htotal : Std.Total fun f g : α => column f ≤ column g := ⟨fun f g => le_total _ _⟩
  have htrans : IsTrans α fun f g => column f ≤ column g := ⟨fun _ _ _ => le_trans⟩
  rw [sortByColumn_eq_insertionSort]
  exact List.pairwise_insertionSort _ items

end Sorting

variable {s t : Schema} {lo hi : Int}

/-- The canonical order has the fields of the schema. -/
theorem perm_ordered (s : Schema) : s.ordered.Perm s.fields := perm_sortByColumn _ _

theorem mem_ordered {f : Field} : f ∈ s.ordered ↔ f ∈ s.fields := s.perm_ordered.mem_iff

/-- The canonical order ascends. -/
theorem pairwise_ordered (s : Schema) :
    s.ordered.Pairwise fun f g => f.columnIndex ≤ g.columnIndex := pairwise_sortByColumn _ _

/-! ## The ends of the order -/

theorem ordered_ne_nil (h : s.fields ≠ []) : s.ordered ≠ [] :=
  fun hnil => h (List.perm_nil.mp (hnil ▸ s.perm_ordered.symm))

theorem fields_ne_nil_of_columnSpan? (h : s.columnSpan? = some (lo, hi)) : s.fields ≠ [] := by
  intro hnil
  rw [columnSpan?, hnil] at h
  cases h

/-- The first field in canonical order stands in the first column. -/
theorem exists_first (h : s.columnSpan? = some (lo, hi)) :
    ∃ f, s.ordered.head? = some f ∧ f.columnIndex = lo := by
  obtain ⟨f, rest, hordered⟩ :=
    List.exists_cons_of_ne_nil (ordered_ne_nil (fields_ne_nil_of_columnSpan? h))
  have hsorted := s.pairwise_ordered
  rw [hordered, List.pairwise_cons] at hsorted
  have hmem : f ∈ s.fields := mem_ordered.mp (hordered ▸ List.mem_cons_self)
  have hleast : IsLeast {i | i ∈ s.fields.map Field.columnIndex} f.columnIndex := by
    refine ⟨List.mem_map_of_mem hmem, fun i hi => ?_⟩
    obtain ⟨g, hg, rfl⟩ := List.mem_map.mp hi
    rcases List.mem_cons.mp (hordered ▸ mem_ordered.mpr hg) with rfl | hg
    · exact le_refl _
    · exact hsorted.1 g hg
  exact ⟨f, by rw [hordered, List.head?_cons], hleast.unique (columnSpan?_eq_some_iff.mp h).1⟩

/-- The last field in canonical order stands in the last column. -/
theorem exists_last (h : s.columnSpan? = some (lo, hi)) :
    ∃ f, s.ordered.getLast? = some f ∧ f.columnIndex = hi := by
  obtain hnil | ⟨rest, f, hordered⟩ := s.ordered.eq_nil_or_concat'
  · exact absurd hnil (ordered_ne_nil (fields_ne_nil_of_columnSpan? h))
  have hsorted := s.pairwise_ordered
  rw [hordered, List.pairwise_append] at hsorted
  have hmem : f ∈ s.fields := mem_ordered.mp (hordered ▸ by simp)
  have hgreatest : IsGreatest {i | i ∈ s.fields.map Field.columnIndex} f.columnIndex := by
    refine ⟨List.mem_map_of_mem hmem, fun i hi => ?_⟩
    obtain ⟨g, hg, rfl⟩ := List.mem_map.mp hi
    rcases List.mem_append.mp (hordered ▸ mem_ordered.mpr hg) with hg | hg
    · exact hsorted.2.2 g hg f List.mem_cons_self
    · rw [List.mem_singleton.mp hg]
  exact ⟨f, by rw [hordered, List.getLast?_concat],
    hgreatest.unique (columnSpan?_eq_some_iff.mp h).2⟩

/-! ## Distinct columns -/

/-- No two fields share a column. -/
def HasDistinctColumns (s : Schema) : Prop := (s.fields.map Field.column).Nodup

instance : Decidable s.HasDistinctColumns :=
  inferInstanceAs (Decidable (s.fields.map Field.column).Nodup)

theorem HasDistinctColumns.nodup_columnIndex (h : s.HasDistinctColumns) :
    (s.fields.map Field.columnIndex).Nodup :=
  List.pairwise_map.mpr ((List.pairwise_map.mp h).imp fun hne heq =>
    hne (Field.column_eq_of_columnIndex_eq heq))

/-- Without a column shared the canonical order ascends strictly. -/
theorem pairwise_lt_ordered (h : s.HasDistinctColumns) :
    s.ordered.Pairwise fun f g => f.columnIndex < g.columnIndex := by
  have hne : (s.ordered.map Field.columnIndex).Nodup :=
    (s.perm_ordered.map Field.columnIndex).nodup_iff.mpr h.nodup_columnIndex
  exact (s.pairwise_ordered.and (List.pairwise_map.mp hne)).imp fun ⟨hle, hne⟩ =>
    lt_of_le_of_ne hle hne

/-- Without a column shared the canonical order does not depend on the order of declaration. -/
theorem ordered_eq_of_perm (h : s.HasDistinctColumns) (hperm : s.fields.Perm t.fields) :
    s.ordered = t.ordered := by
  have hordered : s.ordered.Perm t.ordered :=
    s.perm_ordered.trans (hperm.trans t.perm_ordered.symm)
  refine hordered.eq_of_pairwise ?_ s.pairwise_ordered t.pairwise_ordered
  intro f g hf hg hfg hgf
  have hmap := List.inj_on_of_nodup_map h.nodup_columnIndex
  exact hmap (mem_ordered.mp hf) (hperm.mem_iff.mpr (mem_ordered.mp hg)) (le_antisymm hfg hgf)

/-! ## Schemas of tasks -/

/-- Tasks that are not declared by column, on a sheet whose title has to be quoted. -/
def shuffledTasks : Schema where
  sheetName := "It's a!b"
  fields := [
    { name := "done", type := .boolean, column := "AC", row := .number 2 (by decide)
      format := .str "yes/no", name_valid := by decide, column_capitals := by decide },
    { name := "task", column := "B", row := .number 2 (by decide), name_valid := by decide
      column_capitals := by decide },
    { name := "due", type := .date, column := "Z", row := .number 2 (by decide)
      name_valid := by decide, column_capitals := by decide }]
  sheetName_given := by decide

/-- Tasks with a key and a title, below a header in the first row. -/
def plainTasks : Schema where
  sheetName := "Tasks"
  fields := [
    { name := "key", column := "D", name_valid := by decide, column_capitals := by decide },
    { name := "title", column := "E", name_valid := by decide, column_capitals := by decide }]
  sheetName_given := by decide

/-- Tasks with two keys in one column. -/
def twofoldTasks : Schema where
  sheetName := "Tasks"
  fields := [
    { name := "key", column := "F", name_valid := by decide, column_capitals := by decide },
    { name := "alias", column := "F", name_valid := by decide, column_capitals := by decide },
    { name := "title", column := "G", name_valid := by decide, column_capitals := by decide }]
  sheetName_given := by decide

/-- Tasks whose key is called like a parameter in emitted code. -/
def itemTasks : Schema where
  sheetName := "Tasks"
  fields := [
    { name := "item", column := "F", name_valid := by decide, column_capitals := by decide }]
  sheetName_given := by decide

/-- Tasks with a number as key. -/
def countedTasks : Schema where
  sheetName := "Tasks"
  fields := [
    { name := "no", type := .number, column := "F", name_valid := by decide
      column_capitals := by decide }]
  sheetName_given := by decide

theorem shuffledTasks_hasDistinctColumns : shuffledTasks.HasDistinctColumns := by decide

end Schema

end SheetSchema
