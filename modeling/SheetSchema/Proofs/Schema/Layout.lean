import Mathlib
import SheetSchema.Code.Context
import SheetSchema.Proofs.A1.Block
import SheetSchema.Proofs.Schema.Order
import SheetSchema.Proofs.Schema.Wire

/-!
# Where headers and data stand

The headers of a schema fill a block of one row, and the data the block without end below it
(`Schema.headerBlock`, `Schema.dataBlock`). The two ranges of the schema are the ranges of these
blocks, so their cells are read as two regions that lie one above the other
(`Schema.isLayout_regions`).

Bounds, ranges and what generated operations are told of rows are computed apart from each other,
from letters, indices and row numbers. `Schema.IsLaidOut` says that all of them agree with the
fields. If the rows are given as numbers, they do exactly if the number of the first row of data has
few enough digits to be written (`Schema.isLaidOut_iff`).
-/

namespace SheetSchema

namespace Code.Context

variable {ctx : Context} {s : Schema}

theorem fieldedSchema?_eq (h : ctx.schema? = some s) (hfields : s.fields ≠ []) :
    ctx.fieldedSchema? = some s := by
  rw [fieldedSchema?, h, Option.filter_some, if_pos (by simpa using hfields)]

theorem fieldedSchema?_of_nil (h : ctx.schema? = some s) (hfields : s.fields = []) :
    ctx.fieldedSchema? = none := by
  rw [fieldedSchema?, h, Option.filter_some, if_neg (by simpa using hfields)]

/-- What operations are told of rows is true of the region of the data: its first row, its columns
and their number. -/
structure Describes (ctx : Context) (data : GridRange) : Prop where
  firstDataRow : data.rows.start = .whole (ctx.firstDataRow - 1)
  rowColumns : ∃ first last i j, ctx.rowColumns = .ok (first, last) ∧ Column.index first = .ok i ∧
    Column.index last = .ok j ∧ data.columns.start = .whole i ∧
    data.columns.stop? = some (.whole (j + 1))
  rowWidth : ∃ i, data.columns.start = .whole i ∧
    data.columns.stop? = some (.whole (i + ctx.rowWidth))

end Code.Context

namespace Schema

variable {s : Schema} {lo hi : Int}

/-! ## What agrees -/

/-- The regions of the headers and of the data on the sheet `id`, as the fields demand them. -/
structure IsLayout (s : Schema) (id : Json) (headers data : GridRange) : Prop where
  sheet : headers.sheet = id ∧ data.sheet = id
  headerRow : headers.rows.start = .whole ((s.headerRow.value : Int) - 1) ∧
    headers.rows.stop? = some (.whole s.headerRow.value)
  dataRows : data.rows.start = .whole s.headerRow.value ∧ data.rows.stop? = none
  /-- The columns go from the least to the greatest of the fields. -/
  headerColumns : ∃ lo hi, IsLeast {i | i ∈ s.fields.map Field.columnIndex} lo ∧
    IsGreatest {i | i ∈ s.fields.map Field.columnIndex} hi ∧
    headers.columns.start = .whole lo ∧ headers.columns.stop? = some (.whole (hi + 1))
  dataColumns : data.columns = headers.columns
  /-- The header cell of every field lies among the headers. -/
  covers : ∀ f ∈ s.fields, headers.Contains ((f.row.value : Int) - 1) f.columnIndex
  adjacent : headers.rows.stop? = some data.rows.start
  disjoint : ∀ row column, ¬ (headers.Contains row column ∧ data.Contains row column)

/-- Bounds, ranges and what operations are told of rows agree with the fields. -/
structure IsLaidOut (s : Schema) : Prop where
  bounds : ∃ f g, s.ordered.head? = some f ∧ s.ordered.getLast? = some g ∧
    s.columnBounds = .ok (f.column, g.column)
  ranges : ∀ quote id, ∃ headerRange dataRange headers data, s.headerRange quote = .ok headerRange ∧
    s.dataRange quote = .ok dataRange ∧
    A1.parseRange (A1.cellPart headerRange) id = .ok headers ∧
    A1.parseRange (A1.cellPart dataRange) id = .ok data ∧ s.IsLayout id headers data ∧
    ∀ ctx : Code.Context, ctx.schema? = some s → ctx.Describes data

/-! ## The bounds -/

/-- The bounds are the columns of the first and of the last field in canonical order. -/
theorem exists_columnBounds (h : s.columnSpan? = some (lo, hi)) :
    ∃ f g, s.ordered.head? = some f ∧ s.ordered.getLast? = some g ∧
      s.columnBounds = .ok (f.column, g.column) := by
  obtain ⟨f, hf, hlo⟩ := exists_first h
  obtain ⟨g, hg, hhi⟩ := exists_last h
  refine ⟨f, g, hf, hg, ?_⟩
  rw [columnBounds_eq h, ← hlo, ← hhi, Field.columnIndex, Field.columnIndex,
    Column.letters_indexOf f.column_capitals, Column.letters_indexOf g.column_capitals]

/-! ## The two blocks -/

/-- The block of the headers. -/
def headerBlock (s : Schema) (h : s.columnSpan? = some (lo, hi)) : A1.Block where
  first := lo.toNat
  last := hi.toNat
  top := s.headerRow.value
  bottom? := some s.headerRow.value
  first_le := Int.toNat_le_toNat (columnSpan?_bounds h).2
  top_pos := s.headerRow.value_pos
  top_le := by simp

/-- The block of the data. -/
def dataBlock (s : Schema) (h : s.columnSpan? = some (lo, hi)) : A1.Block where
  first := lo.toNat
  last := hi.toNat
  top := s.headerRow.value + 1
  bottom? := none
  first_le := Int.toNat_le_toNat (columnSpan?_bounds h).2
  top_pos := Nat.succ_pos _
  top_le := by simp

theorem headerRange_eq_block (hrow : s.validate = .ok ()) (hnumber : ∀ f ∈ s.fields, f.row ≠ .flag)
    (hspan : s.columnSpan? = some (lo, hi)) (quote : Bool) :
    s.headerRange quote = (s.headerBlock hspan).text s.sheetName quote :=
  headerRange_eq_rangeOf hrow hspan (headerRow_ne_flag hnumber) quote

theorem dataRange_eq_block (hrow : s.validate = .ok ()) (hspan : s.columnSpan? = some (lo, hi))
    (quote : Bool) : s.dataRange quote = (s.dataBlock hspan).text s.sheetName quote :=
  dataRange_eq_rangeOf hrow hspan quote

theorem columns_headerBlock (hspan : s.columnSpan? = some (lo, hi)) :
    (s.headerBlock hspan).columns.start = .whole lo ∧
      (s.headerBlock hspan).columns.stop? = some (.whole (hi + 1)) := by
  obtain ⟨hlo, hle⟩ := columnSpan?_bounds hspan
  have hfirst : ((lo.toNat : Nat) : Int) = lo := Int.toNat_of_nonneg hlo
  have hlast : ((hi.toNat : Nat) : Int) = hi := Int.toNat_of_nonneg (hlo.trans hle)
  exact ⟨congrArg Number.whole hfirst, congrArg (fun i => some (Number.whole (i + 1))) hlast⟩

/-- The regions of the two blocks are those that the fields demand. -/
theorem isLayout_regions (hrow : s.validate = .ok ()) (hspan : s.columnSpan? = some (lo, hi))
    (id : Json) :
    s.IsLayout id ((s.headerBlock hspan).region id) ((s.dataBlock hspan).region id) := by
  obtain ⟨hleast, hgreatest⟩ := columnSpan?_eq_some_iff.mp hspan
  obtain ⟨hstart, hstop⟩ := columns_headerBlock hspan
  have hnext : ((s.headerRow.value + 1 : Nat) : Int) - 1 = s.headerRow.value := by omega
  have hbelow : (s.dataBlock hspan).rows.start = .whole s.headerRow.value :=
    congrArg Number.whole hnext
  refine
    { sheet := ⟨rfl, rfl⟩
      headerRow := ⟨rfl, rfl⟩
      dataRows := ⟨hbelow, rfl⟩
      headerColumns := ⟨lo, hi, hleast, hgreatest, hstart, hstop⟩
      dataColumns := rfl
      covers := fun f hf => ⟨?_, ?_⟩
      adjacent := congrArg some hbelow.symm
      disjoint := ?_ }
  · rw [validate_eq_ok_iff.mp hrow f hf]
    exact A1.Block.contains_rows_iff.mpr ⟨by simp [headerBlock], by simp [headerBlock]⟩
  · have hmem := List.mem_map_of_mem (f := Field.columnIndex) hf
    have hge : lo ≤ f.columnIndex := hleast.2 hmem
    have hle : f.columnIndex ≤ hi := hgreatest.2 hmem
    have hlo := (columnSpan?_bounds hspan).1
    exact A1.Block.contains_columns_iff.mpr
      ⟨by simp only [headerBlock]; omega, by simp only [headerBlock]; omega⟩
  · rintro row column ⟨⟨habove, -⟩, hdata, -⟩
    have hlt := (A1.Block.contains_rows_iff.mp habove).2 _ rfl
    have hle := (A1.Block.contains_rows_iff.mp hdata).1
    simp only [dataBlock] at hle
    omega

/-- What operations are told of rows is true of the region of the data. -/
theorem describes_region (hspan : s.columnSpan? = some (lo, hi)) (id : Json) {ctx : Code.Context}
    (hctx : ctx.schema? = some s) : ctx.Describes ((s.dataBlock hspan).region id) := by
  have hfielded := Code.Context.fieldedSchema?_eq hctx (fields_ne_nil_of_columnSpan? hspan)
  obtain ⟨hlo, hle⟩ := columnSpan?_bounds hspan
  refine ⟨?_, ?_, ?_⟩
  · rw [Code.Context.firstDataRow, hfielded]
    rfl
  · refine ⟨_, _, _, _, ?_, A1.index_letters lo.toNat, A1.index_letters hi.toNat, rfl, rfl⟩
    rw [Code.Context.rowColumns, hfielded]
    exact columnBounds_eq hspan
  · refine ⟨_, rfl, ?_⟩
    rw [Code.Context.rowWidth, hfielded, Option.bind_some, hspan]
    refine congrArg (fun i => some (Number.whole i)) ?_
    simp only [dataBlock]
    omega

/-! ## The main result -/

/-- A schema with fields whose rows are the same number is laid out if and only if the number of the
first row of data can be written. -/
theorem isLaidOut_iff (hfields : s.fields ≠ []) (hrow : s.validate = .ok ())
    (hnumber : ∀ f ∈ s.fields, f.row ≠ .flag) :
    s.IsLaidOut ↔ Decimal.isWritable ((s.headerRow.value + 1 : Nat) : Int) = true := by
  obtain ⟨lo, hi, hspan⟩ := exists_columnSpan? hfields
  constructor
  · rintro ⟨-, hranges⟩
    obtain ⟨_, _, _, _, -, hdata, -⟩ := hranges true .null
    rw [dataRange_eq_block hrow hspan] at hdata
    exact (A1.Block.isWritable_of_text hdata).top
  · intro hwritable
    have hheaderWritable : (s.headerBlock hspan).IsWritable := by
      have h := isWritable_of_le hwritable (Nat.le_succ s.headerRow.value)
      exact ⟨h, fun bottom hbottom => Option.some.inj hbottom ▸ h⟩
    have hdataWritable : (s.dataBlock hspan).IsWritable := ⟨hwritable, by simp [dataBlock]⟩
    refine ⟨exists_columnBounds hspan, fun quote id => ?_⟩
    refine ⟨_, _, _, _,
      (headerRange_eq_block hrow hnumber hspan quote).trans (A1.Block.text_eq hheaderWritable _ _),
      (dataRange_eq_block hrow hspan quote).trans (A1.Block.text_eq hdataWritable _ _), ?_, ?_,
      isLayout_regions hrow hspan id, fun ctx hctx => describes_region hspan id hctx⟩
    · rw [A1.Block.cellPart_range, A1.Block.parseRange_cells hheaderWritable]
    · rw [A1.Block.cellPart_range, A1.Block.parseRange_cells hdataWritable]

theorem shuffledTasks_isLaidOut : shuffledTasks.fields ≠ [] ∧ shuffledTasks.validate = .ok () ∧
    (∀ f ∈ shuffledTasks.fields, f.row ≠ .flag) ∧ shuffledTasks.IsLaidOut := by
  have hnumber : ∀ f ∈ shuffledTasks.fields, f.row ≠ .flag := by decide
  refine ⟨by decide, by decide, hnumber, ?_⟩
  exact (isLaidOut_iff (by decide) (by decide) hnumber).mpr (by decide +kernel)

/-- The last row that can be written. -/
def deepestRow : HeaderRow := .number (Decimal.writeLimit - 1) (by decide +kernel)

/-- The tasks with their headers in that row. -/
def deepTasks : Schema :=
  { shuffledTasks with fields := shuffledTasks.fields.map fun f => { f with row := deepestRow } }

/-- They can be read, but their data have no range. -/
theorem deepTasks_not_isLaidOut :
    Schema.ofJson (.obj [("sheetName", .str deepTasks.sheetName),
      ("fields", .arr (deepTasks.fields.map Field.toJson))]) = .ok deepTasks ∧
    deepTasks.fields ≠ [] ∧ deepTasks.validate = .ok () ∧
    (∀ f ∈ deepTasks.fields, f.row ≠ .flag) ∧ ¬ deepTasks.IsLaidOut := by
  have hdescribed : deepTasks.DescribedBy [("sheetName", .str deepTasks.sheetName),
      ("fields", .arr (deepTasks.fields.map Field.toJson))] := ⟨rfl, rfl, rfl, rfl⟩
  have hrow : deepTasks.validate = .ok () := by decide +kernel
  have hspan : deepTasks.columnSpan? = some (1, 28) := by decide +kernel
  have hnumber : ∀ f ∈ deepTasks.fields, f.row ≠ .flag := by
    intro f hf
    obtain ⟨g, -, rfl⟩ := List.mem_map.mp hf
    exact HeaderRow.noConfusion
  refine ⟨hdescribed.ofJson, fields_ne_nil_of_columnSpan? hspan, hrow, hnumber, fun h => ?_⟩
  obtain ⟨_, _, _, _, -, hdata, -⟩ := h.ranges true .null
  rw [dataRange_eq_block hrow hspan] at hdata
  have hwritable : Decimal.isWritable ((deepTasks.headerRow.value + 1 : Nat) : Int) = true :=
    (A1.Block.isWritable_of_text hdata).top
  revert hwritable
  decide +kernel

end Schema

end SheetSchema
