import Mathlib
import SheetSchema.Proofs.A1.Range

/-!
# Start cells as ranges

A start cell is read by rules of its own, and its coordinate can be read as a range as well. The
coordinate is then the region of the one cell that it names (`CellReference.exists_isRegion_iff`),
unless its row is the row zero, which no range has. A start cell without a sheet stands on the sheet
that is given beside it, under its own title (`CellReference.sheet_eq_iff`), unless that title has
quotes around it, which are taken for quotes around a sheet name.

`CellReference.isSound_iff` says that a start cell that was read is right but for these two.
-/

namespace SheetSchema.A1

/-- Capitals and the digits of a row are read as what lies between the coordinate and itself. -/
theorem parseRange_cell {column : List Char} (hcolumn : Column.isCapitals column = true) {n : ℕ}
    (hn : Decimal.isWritable n = true) (sheet : Json) :
    parseRange (String.ofList (column ++ Text.digitsOf n)) sheet =
      GridRange.ofIndices sheet ((n : ℤ) - 1) (some (n : ℤ)) (Column.indexOf column)
        (some (Column.indexOf column + 1)) := by
  have hall := isAlphanum_of_mem_cell hcolumn n
  have hne : column ++ Text.digitsOf n ≠ [] := by simp [ne_nil_of_isCapitals hcolumn]
  have hsides : sides (column ++ Text.digitsOf n) =
      .ok (column ++ Text.digitsOf n, column ++ Text.digitsOf n) := by
    rw [sides, if_neg (by simpa using hne),
      Text.splitOn_eq_singleton (not_mem_of_isAlphanum hall (by decide)), List.map_singleton,
      Text.trim_of_isAlphanum hall]
  rw [parseRange, String.toList_ofList, Text.trim_of_isAlphanum hall, hsides, ok_bind]
  simp only [between, read?_cell hcolumn n, readCoordinate, readRow_runOf hn, Except.map, ok_bind,
    fromCell, Coordinate.rowIndex, Coordinate.columnIndex, Int.sub_add_cancel]

namespace CellReference

/-- The region has the cell and nothing else. -/
structure IsRegion (cell : CellReference) (r : GridRange) : Prop where
  rowsStart : r.rows.start = .whole ((cell.row : ℤ) - 1)
  rowsStop : r.rows.stop? = some (.whole cell.row)
  columnsStart : r.columns.start = .whole cell.columnIndex
  columnsStop : r.columns.stop? = some (.whole (cell.columnIndex + 1))

/-- The cell is what its texts say: its coordinate is read as the region of the cell, on any sheet,
and it stands on the sheet `fallback` if the reference names none. -/
structure IsSound (cell : CellReference) (reference fallback : String) : Prop where
  region : ∀ sheet, ∃ text r, corner cell.column cell.row = .ok text ∧
    parseRange text sheet = .ok r ∧ r.sheet = sheet ∧ cell.IsRegion r
  sheet : '!' ∉ reference.toList → cell.sheet = fallback

section Parse

variable {reference fallback : String} {cell : CellReference}

/-- The coordinate of a start cell is read as the region of the cell if and only if its row is not
the row zero. -/
theorem exists_isRegion_iff (h : parse reference fallback = .ok cell) (sheet : Json) :
    (∃ text r, corner cell.column cell.row = .ok text ∧ parseRange text sheet = .ok r ∧
      r.sheet = sheet ∧ cell.IsRegion r) ↔ 0 < cell.row := by
  obtain ⟨-, hcolumn, hrow⟩ := of_parse h
  have htext : cell.column ++ String.ofList (Text.digitsOf cell.row) =
      String.ofList (cell.column.toList ++ Text.digitsOf cell.row) := by
    rw [String.ofList_append, String.ofList_toList]
  have hindex := Column.indexOf_nonneg hcolumn
  simp only [corner_natCast hrow, Except.ok.injEq, htext, exists_and_left, exists_eq_left',
    parseRange_cell hcolumn hrow sheet]
  constructor
  · rintro ⟨r, hr, -⟩
    have hnonneg := (GridRange.exists_ofIndices_iff.mp ⟨r, hr⟩).1
    omega
  · intro hpos
    obtain ⟨r, hr⟩ : ∃ r, GridRange.ofIndices sheet ((cell.row : ℤ) - 1) (some (cell.row : ℤ))
        (Column.indexOf cell.column.toList) (some (Column.indexOf cell.column.toList + 1)) =
          .ok r :=
      GridRange.exists_ofIndices sheet (by omega) hindex (by simp) (by simp)
    obtain ⟨hsheet, hstart, hstop, hcolumnsStart, hcolumnsStop⟩ :=
      GridRange.ofIndices_eq_ok_iff.mp hr
    exact ⟨r, hr, hsheet, hstart, hstop, hcolumnsStart, hcolumnsStop⟩

/-- A start cell that names no sheet stands on the given one under its own title if and only if that
title has no quotes around it. -/
theorem sheet_eq_iff (h : parse reference fallback = .ok cell)
    (hreference : '!' ∉ reference.toList) :
    cell.sheet = fallback ↔ Text.isQuotedBy sheetQuote fallback.toList = false := by
  have hcut : Text.breakOn? ['!'] (Text.trim reference.toList) = none :=
    Text.breakOn?_eq_none fun hmem => hreference (Text.mem_of_mem_trim hmem)
  have hsheet : cell.sheet = String.ofList (unquoteSheet fallback.toList) := by
    rw [(of_parse h).1, sheetOf, hcut]
  rw [hsheet]
  cases hquoted : Text.isQuotedBy sheetQuote fallback.toList with
  | false => simp [unquoteSheet_eq_self hquoted]
  | true =>
    have hlength := length_unquoteSheet_lt hquoted
    refine iff_of_false (fun heq => ?_) (by simp)
    have htitle : unquoteSheet fallback.toList = fallback.toList := by
      rw [← String.toList_ofList (l := unquoteSheet fallback.toList), heq]
    rw [htitle] at hlength
    exact lt_irrefl _ hlength

/-- A start cell that was read is what its texts say if and only if its row is not the row zero and,
where it names no sheet, the given title has no quotes around it. -/
theorem isSound_iff (h : parse reference fallback = .ok cell) :
    cell.IsSound reference fallback ↔ 0 < cell.row ∧
      ('!' ∉ reference.toList → Text.isQuotedBy sheetQuote fallback.toList = false) := by
  constructor
  · intro hsound
    exact ⟨(exists_isRegion_iff h .null).mp (hsound.region .null),
      fun hreference => (sheet_eq_iff h hreference).mp (hsound.sheet hreference)⟩
  · rintro ⟨hrow, hsheet⟩
    exact ⟨fun sheet => (exists_isRegion_iff h sheet).mpr hrow,
      fun hreference => (sheet_eq_iff h hreference).mpr (hsheet hreference)⟩

end Parse

/-- The row zero and a title in quotes are read, and are not what the texts say. -/
theorem not_isSound_zero_quoted :
    (parse "A0" "Tasks" = .ok ⟨"Tasks", "A", 0⟩ ∧ ¬ IsSound ⟨"Tasks", "A", 0⟩ "A0" "Tasks") ∧
    parse "A3" "'Q'" = .ok ⟨"Q", "A", 3⟩ ∧ ¬ IsSound ⟨"Q", "A", 3⟩ "A3" "'Q'" := by
  have hzero : parse "A0" "Tasks" = .ok ⟨"Tasks", "A", 0⟩ := by decide +kernel
  have hquoted : parse "A3" "'Q'" = .ok ⟨"Q", "A", 3⟩ := by decide +kernel
  refine ⟨⟨hzero, ?_⟩, hquoted, ?_⟩
  · rw [isSound_iff hzero]
    decide +kernel
  · rw [isSound_iff hquoted]
    decide +kernel

end CellReference

end SheetSchema.A1
