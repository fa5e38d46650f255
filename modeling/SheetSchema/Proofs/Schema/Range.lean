import Mathlib
import SheetSchema.Schema.Range
import SheetSchema.Proofs.A1.Qualified
import SheetSchema.Proofs.A1.Range

/-!
# The row, the columns and the ranges of a schema

All fields of a valid schema stand in the row of its headers (`Schema.validate_eq_ok_iff`). The
columns of a schema with fields span from the least to the greatest column of a field
(`Schema.columnSpan?_eq_some_iff`). Its ranges are written between the letters of these two
(`Schema.headerRange_eq_rangeOf`, `Schema.dataRange_eq_rangeOf`), whatever the order of the fields.
-/

namespace SheetSchema

namespace Schema

/-! ## Least and greatest columns -/

/-- An operation that takes one of two values, and none that is above either, takes the bottom of a
list. -/
theorem foldl_select {α : Type} {r : α → α → Prop} (op : α → α → α) (hrefl : ∀ a, r a a)
    (htrans : ∀ a b c, r a b → r b c → r a c) (hselect : ∀ a b, op a b = a ∨ op a b = b)
    (hleft : ∀ a b, r (op a b) a) (hright : ∀ a b, r (op a b) b) (a : α) (items : List α) :
    items.foldl op a ∈ a :: items ∧ ∀ b ∈ a :: items, r (items.foldl op a) b := by
  induction items generalizing a with
  | nil =>
    refine ⟨List.mem_cons_self, fun b hb => ?_⟩
    obtain rfl : b = a := by simpa using hb
    exact hrefl _
  | cons c items ih =>
    obtain ⟨hmem, hall⟩ := ih (op a c)
    have htop := hall _ List.mem_cons_self
    rw [List.foldl_cons]
    refine ⟨?_, fun b hb => ?_⟩
    · rcases List.mem_cons.mp hmem with heq | hmem
      · rcases hselect a c with hop | hop
        · exact List.mem_cons.mpr (Or.inl (heq.trans hop))
        · exact List.mem_cons_of_mem a (List.mem_cons.mpr (Or.inl (heq.trans hop)))
      · exact List.mem_cons_of_mem a (List.mem_cons_of_mem c hmem)
    · rcases List.mem_cons.mp hb with rfl | hb
      · exact htrans _ _ _ htop (hleft _ _)
      rcases List.mem_cons.mp hb with rfl | hb
      · exact htrans _ _ _ htop (hright _ _)
      · exact hall b (List.mem_cons_of_mem _ hb)

/-- Columns span from the least to the greatest of them. -/
theorem spanOf?_eq_some_iff {columns : List Int} {lo hi : Int} :
    spanOf? columns = some (lo, hi) ↔
      IsLeast {i | i ∈ columns} lo ∧ IsGreatest {i | i ∈ columns} hi := by
  cases columns with
  | nil => simp [spanOf?, IsLeast]
  | cons i rest =>
    obtain ⟨hminmem, hmin⟩ := foldl_select min (fun a : Int => le_refl a)
      (fun _ _ _ => le_trans) min_choice min_le_left min_le_right i rest
    obtain ⟨hmaxmem, hmax⟩ := foldl_select (r := fun a b : Int => b ≤ a) max
      (fun a => le_refl a) (fun _ _ _ hab hbc => le_trans hbc hab) max_choice le_max_left
      le_max_right i rest
    have hleast : IsLeast {j | j ∈ i :: rest} (rest.foldl min i) := ⟨hminmem, hmin⟩
    have hgreatest : IsGreatest {j | j ∈ i :: rest} (rest.foldl max i) := ⟨hmaxmem, hmax⟩
    rw [spanOf?, Option.some.injEq, Prod.mk.injEq]
    constructor
    · rintro ⟨rfl, rfl⟩
      exact ⟨hleast, hgreatest⟩
    · rintro ⟨hlo, hhi⟩
      exact ⟨hleast.unique hlo, hgreatest.unique hhi⟩

/-! ## The row of the headers -/

variable {s : Schema} {lo hi : Int}

theorem headerRow_mem (h : s.fields ≠ []) : ∃ f ∈ s.fields, s.headerRow = f.row := by
  obtain ⟨f, rest, hf⟩ := List.exists_cons_of_ne_nil h
  exact ⟨f, hf ▸ List.mem_cons_self, by rw [headerRow, hf]⟩

theorem headerRow_of_nil (h : s.fields = []) : s.headerRow = .first := by
  rw [headerRow, h]

/-- A schema is valid if and only if all its fields stand in the row of the headers. -/
theorem validate_eq_ok_iff :
    s.validate = .ok () ↔ ∀ f ∈ s.fields, f.row.value = s.headerRow.value := by
  have hshares : s.sharesRow = true ↔ ∀ f ∈ s.fields, f.row.value = s.headerRow.value := by
    simp only [sharesRow, List.all_eq_true, beq_iff_eq]
  rw [← hshares, validate]
  split
  · next h => exact iff_of_true rfl h
  · next h => exact iff_of_false nofun h

/-- The row above one that can be written can be written. -/
theorem exists_written {row : HeaderRow}
    (h : Decimal.isWritable ((row.value + 1 : Nat) : Int) = true) :
    ∃ text, row.written = .ok text := by
  cases row with
  | flag => exact ⟨_, rfl⟩
  | number n pos =>
    have hwritable : Decimal.isWritable (n : Int) = true := isWritable_of_le h (Nat.le_succ n)
    rw [HeaderRow.written, HeaderRow.toJson, writeText, writeInt, hwritable]
    exact ⟨_, rfl⟩

theorem headerRow_ne_flag (hnumber : ∀ f ∈ s.fields, f.row ≠ .flag) : s.headerRow ≠ .flag := by
  by_cases hfields : s.fields = []
  · rw [headerRow_of_nil hfields]
    exact HeaderRow.noConfusion
  · obtain ⟨f, hf, hrow⟩ := headerRow_mem hfields
    exact hrow ▸ hnumber f hf

/-! ## The columns -/

theorem columnSpan?_eq_some_iff : s.columnSpan? = some (lo, hi) ↔
    IsLeast {i | i ∈ s.fields.map Field.columnIndex} lo ∧
      IsGreatest {i | i ∈ s.fields.map Field.columnIndex} hi :=
  spanOf?_eq_some_iff

theorem columnSpan?_of_nil (h : s.fields = []) : s.columnSpan? = none := by
  rw [columnSpan?, h]
  rfl

theorem exists_columnSpan? (h : s.fields ≠ []) : ∃ lo hi, s.columnSpan? = some (lo, hi) := by
  obtain ⟨f, rest, hf⟩ := List.exists_cons_of_ne_nil h
  exact ⟨_, _, by rw [columnSpan?, hf, List.map_cons, spanOf?]⟩

/-- The columns of a schema span from one that is not negative to one that is not to its left. -/
theorem columnSpan?_bounds (h : s.columnSpan? = some (lo, hi)) : 0 ≤ lo ∧ lo ≤ hi := by
  obtain ⟨hleast, hgreatest⟩ := columnSpan?_eq_some_iff.mp h
  obtain ⟨f, -, hf⟩ := List.mem_map.mp hleast.1
  exact ⟨hf ▸ Column.indexOf_nonneg f.column_capitals, hleast.2 hgreatest.1⟩

/-! ## Ranges -/

theorem columnBounds_eq (h : s.columnSpan? = some (lo, hi)) :
    s.columnBounds = .ok (Column.letters lo.toNat, Column.letters hi.toNat) := by
  rw [columnBounds, h]

theorem headerRange_eq (hrow : s.validate = .ok ()) (hspan : s.columnSpan? = some (lo, hi))
    (quote : Bool) : s.headerRange quote = s.headerRow.written.map fun row =>
      A1.range (A1.sheetPart s.sheetName quote) (Column.letters lo.toNat ++ row)
        (Column.letters hi.toNat ++ row) := by
  rw [headerRange, hrow, ok_bind, columnBounds_eq hspan, ok_bind]
  cases s.headerRow.written <;> rfl

/-- A row that is given as a number is written as in every other range. -/
theorem headerRange_eq_rangeOf (hrow : s.validate = .ok ()) (hspan : s.columnSpan? = some (lo, hi))
    (hflag : s.headerRow ≠ .flag) (quote : Bool) :
    s.headerRange quote = A1.rangeOf s.sheetName (Column.letters lo.toNat) s.headerRow.value
      (Column.letters hi.toNat) (some s.headerRow.value) quote := by
  rw [headerRange_eq hrow hspan]
  cases hheader : s.headerRow with
  | flag => exact absurd hheader hflag
  | number n pos =>
    rw [HeaderRow.written, HeaderRow.toJson, writeText, HeaderRow.value]
    simp only [A1.rangeOf, A1.corner]
    cases writeInt (n : Int) <;> rfl

theorem dataRange_eq_rangeOf (hrow : s.validate = .ok ()) (hspan : s.columnSpan? = some (lo, hi))
    (quote : Bool) : s.dataRange quote = A1.rangeOf s.sheetName (Column.letters lo.toNat)
      ((s.headerRow.value + 1 : Nat) : Int) (Column.letters hi.toNat) none quote := by
  rw [dataRange, hrow, ok_bind, columnBounds_eq hspan, ok_bind, Nat.cast_add, Nat.cast_one]

end Schema

end SheetSchema
