import Mathlib
import SheetSchema.Proofs.A1.Qualified
import SheetSchema.Proofs.A1.Range

/-!
# Blocks of cells

A `Block` is a rectangle of cells, or one without an end below. Its range is written from the
letters of its columns and the digits of its rows, behind the name of a sheet (`Block.text`). The
cells of that range are read as the region of the block (`Block.parseRange_cells`), whatever stands
in front of them (`Block.cellPart_range`).

The whole range is read back (`Block.ReadsBack`) exactly if the trimmed name of the sheet is not
empty and does not hold the separator, and the rows have few enough digits to be written
(`Block.readsBack_iff`). Quotes, backslashes and blanks in the name do not matter.
-/

namespace SheetSchema.A1

/-- The columns from `first` to `last`, and in them the rows from `top` to `bottom?`. -/
structure Block where
  first : Nat
  last : Nat
  /-- The number of the first row. -/
  top : Nat
  /-- The number of the last row, if there is one. -/
  bottom? : Option Nat
  first_le : first ≤ last
  top_pos : 0 < top
  top_le : ∀ bottom ∈ bottom?, top ≤ bottom

/-- What follows the last separator of a range. -/
def cellPart (text : String) : String := String.ofList (text.toList.rtakeWhile (· != '!'))

namespace Block

/-! ## What a block covers -/

/-- The indices of the rows. -/
def rows (b : Block) : Span where
  start := .whole ((b.top : Int) - 1)
  stop? := b.bottom?.map fun bottom : Nat => .whole bottom
  start_nonneg := by
    have := b.top_pos
    simp only [Number.lt_whole, decide_eq_false_iff_not]
    omega
  start_lt := by
    intro stop hstop
    obtain ⟨bottom, hbottom, rfl⟩ := Option.map_eq_some_iff.mp hstop
    have := b.top_le bottom hbottom
    simp only [Number.le_whole, decide_eq_false_iff_not]
    omega

/-- The indices of the columns. -/
def columns (b : Block) : Span where
  start := .whole b.first
  stop? := some (.whole ((b.last : Int) + 1))
  start_nonneg := by simp
  start_lt := by
    intro stop hstop
    obtain rfl := Option.some.inj hstop
    have := b.first_le
    simp only [Number.le_whole, decide_eq_false_iff_not]
    omega

/-- The region of the block on a sheet. -/
def region (b : Block) (sheet : Json) : GridRange := ⟨sheet, b.rows, b.columns⟩

theorem ofIndices_eq_region (b : Block) (sheet : Json) :
    GridRange.ofIndices sheet ((b.top : Int) - 1) (b.bottom?.map fun bottom : Nat => (bottom : Int))
      b.first (some ((b.last : Int) + 1)) = .ok (b.region sheet) := by
  refine GridRange.ofIndices_eq_ok_iff.mpr ⟨rfl, rfl, ?_, rfl, rfl⟩
  rw [Option.map_map]
  rfl

theorem contains_rows_iff {b : Block} {i : Int} : b.rows.Contains i ↔
    (b.top : Int) ≤ i + 1 ∧ ∀ bottom ∈ b.bottom?, i < ((bottom : Nat) : Int) := by
  have hstop : b.rows.stop? = (b.bottom?.map fun bottom : Nat => (bottom : Int)).map .whole := by
    rw [Option.map_map]
    rfl
  rw [Span.contains_iff rfl hstop]
  simp

theorem contains_columns_iff {b : Block} {i : Int} :
    b.columns.Contains i ↔ (b.first : Int) ≤ i ∧ i ≤ b.last := by
  have hstop : b.columns.stop? = (some ((b.last : Int) + 1)).map .whole := rfl
  rw [Span.contains_iff rfl hstop]
  simp

/-! ## How it is written -/

/-- The numbers of the rows have few enough digits to be written. -/
structure IsWritable (b : Block) : Prop where
  top : Decimal.isWritable b.top = true
  bottom : ∀ bottom ∈ b.bottom?, Decimal.isWritable (bottom : Nat) = true

/-- The corner on the upper left. -/
def firstCell (b : Block) : String :=
  Column.letters b.first ++ String.ofList (Text.digitsOf b.top)

/-- The corner on the lower right, or the last column of a block without end. -/
def lastCell (b : Block) : String :=
  match b.bottom? with
  | some bottom => Column.letters b.last ++ String.ofList (Text.digitsOf bottom)
  | none => Column.letters b.last

/-- The cells of the block as a range without a sheet. -/
def cells (b : Block) : String := b.firstCell ++ ":" ++ b.lastCell

/-- The range of the block on a sheet. -/
def text (b : Block) (sheet : String) (quote : Bool) : Except Error String :=
  rangeOf sheet (Column.letters b.first) b.top (Column.letters b.last)
    (b.bottom?.map fun bottom : Nat => (bottom : Int)) quote

/-- The range of a block is written if its rows can be. -/
theorem text_eq {b : Block} (h : b.IsWritable) (sheet : String) (quote : Bool) :
    b.text sheet quote = .ok (range (sheetPart sheet quote) b.firstCell b.lastCell) := by
  rw [text, lastCell]
  cases hbottom : b.bottom? with
  | none => exact rangeOf_open h.top sheet _ _ quote
  | some bottom =>
    rw [Option.map_some, rangeOf, corner_natCast h.top, ok_bind]
    simp only [corner_natCast (h.bottom bottom hbottom), ok_bind]
    rfl

/-- A block whose range is written has rows that can be. -/
theorem isWritable_of_text {b : Block} {sheet range : String} {quote : Bool}
    (h : b.text sheet quote = .ok range) : b.IsWritable := by
  obtain ⟨htop, hbottom, -⟩ := rangeOf_eq_ok_iff.mp h
  exact ⟨htop, fun bottom hmem => hbottom bottom (Option.mem_map_of_mem _ hmem)⟩

theorem isAlphanum_of_mem_firstCell (b : Block) :
    ∀ c ∈ b.firstCell.toList, c.isAlphanum = true := by
  rw [firstCell, String.toList_append, String.toList_ofList]
  exact isAlphanum_of_mem_cell (Column.isCapitals_letters _) _

theorem isAlphanum_of_mem_lastCell (b : Block) : ∀ c ∈ b.lastCell.toList, c.isAlphanum = true := by
  rw [lastCell]
  cases b.bottom? with
  | none => exact isAlphanum_of_isCapitals (Column.isCapitals_letters _)
  | some bottom =>
    simp only [String.toList_append, String.toList_ofList]
    exact isAlphanum_of_mem_cell (Column.isCapitals_letters _) _

theorem cells_eq (b : Block) :
    b.cells = String.ofList (b.firstCell.toList ++ ':' :: b.lastCell.toList) := by
  apply String.toList_injective
  simp [cells]

theorem isCellChar_of_mem_cells (b : Block) :
    ∀ c ∈ b.firstCell.toList ++ ':' :: b.lastCell.toList, isCellChar c = true :=
  isCellChar_of_mem_sides b.isAlphanum_of_mem_firstCell b.isAlphanum_of_mem_lastCell

/-! ## How it is read -/

/-- The cells of a block are read as its region. -/
theorem parseRange_cells {b : Block} (h : b.IsWritable) (sheet : Json) :
    parseRange b.cells sheet = .ok (b.region sheet) := by
  rw [← ofIndices_eq_region]
  have hfirst := Column.isCapitals_letters b.first
  have hlast := Column.isCapitals_letters b.last
  rw [cells_eq, firstCell, lastCell]
  cases hbottom : b.bottom? with
  | none =>
    simp only [String.toList_append, String.toList_ofList]
    rw [parseRange_open hfirst hlast h.top, Column.indexOf_letters, Column.indexOf_letters]
    rfl
  | some bottom =>
    simp only [String.toList_append, String.toList_ofList]
    rw [parseRange_closed hfirst hlast h.top (h.bottom bottom hbottom), Column.indexOf_letters,
      Column.indexOf_letters]
    rfl

/-- The cells of a block follow the last separator, whatever sheet they stand on. -/
theorem cellPart_range (b : Block) (sheet : String) :
    cellPart (range sheet b.firstCell b.lastCell) = b.cells := by
  have hcells := not_mem_of_isCellChar b.isCellChar_of_mem_cells (d := '!') (by decide)
  have hkept : ∀ c ∈ (b.firstCell.toList ++ ':' :: b.lastCell.toList).reverse,
      (c != '!') = true := by
    intro c hc
    rw [bne_iff_ne]
    rintro rfl
    exact hcells (List.mem_reverse.mp hc)
  rw [cellPart, toList_range, cells_eq, List.rtakeWhile, List.reverse_append, List.reverse_cons,
    List.append_assoc, List.takeWhile_append_of_pos hkept, List.singleton_append,
    List.takeWhile_cons_of_neg (by simp), List.append_nil, List.reverse_reverse]

/-! ## Reading a block back -/

/-- The range of the block on the sheet is cleaned up, taken apart and read as the trimmed name of
the sheet and the region of the block. -/
def ReadsBack (b : Block) (sheet : String) (id : Json) : Prop :=
  ∃ range cells, b.text sheet true = .ok range ∧
    split (normalize range) = .ok (trimmed sheet, cells) ∧ parseRange cells id = .ok (b.region id)

/-- A block is read back if and only if the trimmed name of its sheet is not empty and does not hold
the separator, and its rows can be written. -/
theorem readsBack_iff (b : Block) (sheet : String) (id : Json) :
    b.ReadsBack sheet id ↔
      trimmed sheet ≠ "" ∧ '!' ∉ (trimmed sheet).toList ∧ b.IsWritable := by
  constructor
  · rintro ⟨range, cells, hrange, hsplit, -⟩
    exact ⟨ne_empty_of_split hsplit, not_mem_of_split hsplit, isWritable_of_text hrange⟩
  · rintro ⟨hgiven, hname, hwritable⟩
    have htrimmed : (trimmed sheet).toList = Text.trim sheet.toList := String.toList_ofList
    rw [htrimmed] at hname
    refine ⟨_, b.cells, text_eq hwritable sheet true, ?_, parseRange_cells hwritable id⟩
    refine split_normalize_range hname ?_ b.isCellChar_of_mem_cells
    rw [← htrimmed]
    exact fun hnil => hgiven (String.toList_injective hnil)

/-- The block of the first column from a row down whose number has one digit too many. -/
def deepest : Block where
  first := 0
  last := 0
  top := Decimal.writeLimit
  bottom? := none
  first_le := le_refl 0
  top_pos := writeLimit_pos
  top_le := by simp

/-- It is not read back, although the name of its sheet is plain. -/
theorem deepest_not_readsBack : trimmed "Tasks" ≠ "" ∧ '!' ∉ (trimmed "Tasks").toList ∧
    ¬ deepest.ReadsBack "Tasks" (.int 0) := by
  refine ⟨by decide +kernel, by decide +kernel, ?_⟩
  rintro ⟨range, cells, hrange, -⟩
  have hwritable := (isWritable_of_text hrange).top
  revert hwritable
  decide +kernel

end Block

end SheetSchema.A1
