import Mathlib
import SheetSchema.Code.Operations
import SheetSchema.Proofs.Code.Rendering
import SheetSchema.Proofs.Schema.Layout
import SheetSchema.Proofs.Table.Placement

/-!
# How wide rows are

A row has one cell for each column of its schema. That is how many cells a table writes, how many
columns the range of a row has in emitted code, and what operations are told. The array literal of
the emitted writer counts its entries on from one field to the next and has an entry for every
field, also for one whose column another field has taken. So it has one entry too many for each of
those (`Schema.length_entries`), and the widths agree (`Schema.HasWidth`) exactly if no two fields
share a column (`Schema.exists_hasWidth_iff`).
-/

namespace SheetSchema.Schema

open Code (Context Piece Template rowRangeExpression)

variable {s : Schema} {lo hi : Int}

/-! ## Counting the slots -/

/-- The indices of the columns that have fields. -/
def takenColumns (s : Schema) : Finset Int := (s.fields.map Field.columnIndex).toFinset

/-- No two fields share a column if and only if they take as many columns as there are fields. -/
theorem hasDistinctColumns_iff_card : s.HasDistinctColumns ↔
    s.takenColumns.card = s.fields.length := by
  have hcard : s.takenColumns.card = s.fields.length ↔ (s.fields.map Field.columnIndex).Nodup := by
    have h := Multiset.toFinset_card_eq_card_iff_nodup
      (m := Multiset.ofList (s.fields.map Field.columnIndex))
    rwa [Multiset.coe_card, Multiset.coe_nodup, List.length_map] at h
  rw [hcard]
  constructor
  · exact HasDistinctColumns.nodup_columnIndex
  · intro h
    refine List.pairwise_map.mpr ((List.pairwise_map.mp h).imp fun hne heq => hne ?_)
    rw [Field.columnIndex, Field.columnIndex, heq]

/-- From a field on there is a slot for every column up to the last, and one for every field whose
offset is not new. -/
theorem length_slotsFrom_add_card {offset last : Int} {f : Field} {rest : List (Int × Field)}
    (hsorted : ((offset, f) :: rest).Pairwise fun i j => i.1 ≤ j.1)
    (hlast : ((offset, f) :: rest).getLast?.map Prod.fst = some last) :
    ((slotsFrom (offset + 1) rest).length : Int) +
      (((offset, f) :: rest).map Prod.fst).toFinset.card = last - offset + (rest.length + 1) := by
  induction rest generalizing offset f with
  | nil =>
    obtain rfl : offset = last := by simpa using hlast
    simp [slotsFrom]
  | cons head rest ih =>
    obtain ⟨next, g⟩ := head
    obtain ⟨hle, htail⟩ := List.pairwise_cons.mp hsorted
    have hnext : offset ≤ next := hle _ List.mem_cons_self
    have hrest := ih htail (by rwa [List.getLast?_cons_cons] at hlast)
    rw [length_slotsFrom_cons, List.map_cons, List.toFinset_cons, List.length_cons]
    rcases hnext.eq_or_lt with rfl | hlt
    · -- The offset is not new, and the slot is one too many.
      rw [Finset.insert_eq_of_mem (by simp)]
      push_cast
      omega
    · have hnew : offset ∉ (((next, g) :: rest).map Prod.fst).toFinset := by
        intro hmem
        obtain ⟨item, hitem, hoffset⟩ := List.mem_map.mp (List.mem_toFinset.mp hmem)
        have hge : next ≤ item.1 := by
          rcases List.mem_cons.mp hitem with rfl | hitem
          · exact le_refl _
          · exact (List.pairwise_cons.mp htail).1 item hitem
        omega
      rw [Finset.card_insert_of_notMem hnew]
      push_cast
      omega

theorem toFinset_offsets (h : s.columnSpan? = some (lo, hi)) :
    (s.positioned.map Prod.fst).toFinset = s.takenColumns.image (· - lo) := by
  ext offset
  simp [positioned_eq h, takenColumns, mem_ordered]

/-- There is a slot for every column, and one for every field whose column is taken. -/
theorem length_slots (h : s.columnSpan? = some (lo, hi)) :
    (s.slots.length : Int) + s.takenColumns.card = hi - lo + 1 + s.fields.length := by
  obtain ⟨f, hfirst, hlo⟩ := exists_first h
  obtain ⟨g, hlast⟩ := getLast?_positioned h
  obtain ⟨rest, hordered⟩ := List.head?_eq_some_iff.mp hfirst
  have hpositioned : s.positioned =
      (0, f) :: rest.map fun f => (f.columnIndex - lo, f) := by
    rw [positioned_eq h, hordered, List.map_cons, hlo, sub_self]
  have hsorted : s.positioned.Pairwise fun i j => i.1 ≤ j.1 := by
    rw [positioned_eq h, List.pairwise_map]
    exact s.pairwise_ordered.imp fun hle => Int.sub_le_sub_right hle lo
  have hcard : (s.positioned.map Prod.fst).toFinset.card = s.takenColumns.card := by
    rw [toFinset_offsets h, Finset.card_image_of_injective _ sub_left_injective]
  have hlength : s.fields.length = rest.length + 1 := by
    rw [← s.perm_ordered.length_eq, hordered, List.length_cons]
  rw [hpositioned] at hsorted hlast hcard
  have hcount := length_slotsFrom_add_card hsorted (by rw [hlast, Option.map_some])
  rw [slots, hpositioned, length_slotsFrom_cons, ← hcard, hlength]
  simp only [List.length_map, zero_add] at hcount
  push_cast
  omega

/-! ## The range of a row -/

/-- The range of a row between two columns, on a sheet and with a number that are written so. -/
def rowRangeText (first last sheet number : String) : String :=
  A1.range sheet (first ++ number) (last ++ number)

/-- The range of a row as emitted code has it, with the sheet and the number left open. -/
def openRowRange (first last : String) : String :=
  "`" ++ rowRangeText first last "$\x7bsheetName\x7d" "$\x7browNumber\x7d" ++ "`"

theorem rowRangeExpression_eq (first last : String) :
    rowRangeExpression first last = openRowRange first last := by
  have hsheet : "`$\x7bsheetName\x7d!" = "`" ++ ("$\x7bsheetName\x7d" ++ "!") := by decide
  have hfirst : "$\x7browNumber\x7d:" = "$\x7browNumber\x7d" ++ ":" := by decide
  have hlast : "$\x7browNumber\x7d`" = "$\x7browNumber\x7d" ++ "`" := by decide
  have hshape : rowRangeExpression first last = "`$\x7bsheetName\x7d!" ++ first ++
      "$\x7browNumber\x7d:" ++ last ++ "$\x7browNumber\x7d`" := rfl
  rw [hshape, hsheet, hfirst, hlast]
  simp only [openRowRange, rowRangeText, A1.range, toString, String.append_assoc]

/-- The cells of a row. -/
def rowBlock (h : s.columnSpan? = some (lo, hi)) {number : Nat} (hnumber : 0 < number) :
    A1.Block where
  first := lo.toNat
  last := hi.toNat
  top := number
  bottom? := some number
  first_le := Int.toNat_le_toNat (columnSpan?_bounds h).2
  top_pos := hnumber
  top_le := by simp

/-- The range of a row is read as the cells of the row. -/
theorem parseRange_rowRangeText (h : s.columnSpan? = some (lo, hi)) {number : Nat}
    (hnumber : 0 < number) (hwritable : Decimal.isWritable number = true) (sheet : String)
    (id : Json) :
    A1.parseRange (A1.cellPart (rowRangeText (Column.letters lo.toNat) (Column.letters hi.toNat)
      sheet (String.ofList (Text.digitsOf number)))) id = .ok ((rowBlock h hnumber).region id) := by
  have hblock : (rowBlock h hnumber).IsWritable :=
    ⟨hwritable, fun bottom hbottom => Option.some.inj hbottom ▸ hwritable⟩
  have hrange : rowRangeText (Column.letters lo.toNat) (Column.letters hi.toNat) sheet
      (String.ofList (Text.digitsOf number)) =
      A1.range sheet (rowBlock h hnumber).firstCell (rowBlock h hnumber).lastCell := rfl
  rw [hrange, A1.Block.cellPart_range, A1.Block.parseRange_cells hblock]

/-! ## The main result -/

/-- The entries of the array literal that is emitted for an entity. -/
def entries (s : Schema) (entity : String) : List String := s.slots.map (slotExpression entity)

/-- There is an entry for every column, and one for every field whose column is taken. -/
theorem length_entries (h : s.columnSpan? = some (lo, hi)) (entity : String) :
    (s.entries entity).length + s.takenColumns.card = s.width + s.fields.length := by
  have hslots := length_slots h
  rw [← width_eq h] at hslots
  rw [entries, List.length_map]
  exact_mod_cast hslots

/-- The range of a row between two columns has `width` columns, whichever row it is. -/
def RowsSpan (first last : String) (width : Nat) : Prop :=
  ∀ number : Nat, 0 < number → Decimal.isWritable number = true → ∀ sheet id, ∃ region start,
    A1.parseRange (A1.cellPart (rowRangeText first last sheet
      (String.ofList (Text.digitsOf number)))) id = .ok region ∧
    region.columns.start = .whole start ∧ region.columns.stop? = some (.whole (start + width))

theorem rowsSpan_width (h : s.columnSpan? = some (lo, hi)) :
    RowsSpan (Column.letters lo.toNat) (Column.letters hi.toNat) s.width := by
  intro number hnumber hwritable sheet id
  obtain ⟨hlo, hle⟩ := columnSpan?_bounds h
  refine ⟨_, lo, parseRange_rowRangeText h hnumber hwritable sheet id, ?_, ?_⟩
  · exact congrArg Number.whole (Int.toNat_of_nonneg hlo)
  · refine congrArg (fun i => some (Number.whole i)) ?_
    rw [width_eq h]
    simp only [rowBlock]
    omega

/-- Rows are `width` cells wide wherever they are made and wherever their range is told. -/
structure HasWidth (s : Schema) (width : Nat) : Prop where
  /-- The array literal that is emitted for an entity has as many entries. -/
  emitted : ∀ entity, s.objectToRow entity = .ok (rowWriter entity (s.entries entity)) ∧
    (s.entries entity).length = width
  rowWidth : ∀ ctx : Context, ctx.schema? = some s → ctx.rowWidth = width
  /-- Where emitted code writes such an array, the range of the row has as many columns. -/
  rowRange : ∀ ctx : Context, ctx.schema? = some s → ∃ first last,
    (∀ t ∈ [Template.update, Template.batchUpdate], ∀ code, t.render ctx = .ok code →
      (openRowRange first last).toList <:+: code.toList) ∧ RowsSpan first last width
  /-- The row of a record has as many cells. -/
  written : ∀ t : Table, t.schema = s → ∀ record, ∃ row, t.encodeRecord record = .ok row ∧
    row.length = width

theorem rowWidth_eq (h : s.columnSpan? = some (lo, hi)) {ctx : Context}
    (hctx : ctx.schema? = some s) : ctx.rowWidth = s.width := by
  have hfielded := Context.fieldedSchema?_eq hctx (fields_ne_nil_of_columnSpan? h)
  rw [Context.rowWidth, hfielded, Option.bind_some, h, width_eq h]

/-- Where the range of a row is emitted, it has the columns of the schema. -/
theorem isInfix_openRowRange (h : s.columnSpan? = some (lo, hi)) {ctx : Context}
    (hctx : ctx.schema? = some s) {t : Template} (ht : Piece.rowRange ∈ t) {code : String}
    (hcode : t.render ctx = .ok code) :
    (openRowRange (Column.letters lo.toNat) (Column.letters hi.toNat)).toList <:+:
      code.toList := by
  have hfielded := Context.fieldedSchema?_eq hctx (fields_ne_nil_of_columnSpan? h)
  have hpiece : Piece.rowRange.render ctx =
      .ok (openRowRange (Column.letters lo.toNat) (Column.letters hi.toNat)) := by
    rw [Piece.render, Context.rowColumns, hfielded, ← rowRangeExpression_eq]
    simp only [columnBounds_eq h]
    rfl
  exact Template.isInfix_render_of_mem hcode ht hpiece

/-- Rows of a schema have one width everywhere if and only if the formats of its boolean fields are
texts, its rows are not too long, and no two of its fields share a column. The array literal has one
entry too many for each field whose column another one has taken. -/
theorem exists_hasWidth_iff (hfields : s.fields ≠ []) : ((∃ width, s.HasWidth width) ↔
      s.HasTextFormats ∧ s.width ≤ maxWidth ∧ s.HasDistinctColumns) ∧
    ∀ entity, (s.entries entity).length + s.takenColumns.card = s.width + s.fields.length := by
  obtain ⟨lo, hi, hspan⟩ := exists_columnSpan? hfields
  have hcount := length_entries hspan
  refine ⟨⟨?_, ?_⟩, hcount⟩
  · rintro ⟨width, h⟩
    obtain ⟨row, hrow, hlength⟩ := h.written ⟨.null, s, hfields⟩ rfl []
    obtain ⟨hle, hformats, rfl⟩ := encodeRecord_eq_ok_iff.mp hrow
    rw [length_encodeRecord] at hlength
    refine ⟨checkFormats_eq_ok_iff.mp hformats, hle, hasDistinctColumns_iff_card.mpr ?_⟩
    have hentries := hcount ""
    rw [(h.emitted "").2, ← hlength] at hentries
    exact Nat.add_left_cancel hentries
  · rintro ⟨htexts, hle, hdistinct⟩
    have hformats : s.checkFormats = .ok () := checkFormats_eq_ok_iff.mpr htexts
    refine ⟨s.width,
      { emitted := fun entity => ⟨objectToRow_eq_ok hformats entity, ?_⟩
        rowWidth := fun ctx hctx => rowWidth_eq hspan hctx
        rowRange := fun ctx hctx => ⟨_, _, ?_, rowsSpan_width hspan⟩
        written := ?_ }⟩
    · have hentries := hcount entity
      rw [hasDistinctColumns_iff_card.mp hdistinct] at hentries
      exact Nat.add_right_cancel hentries
    · intro t ht code hcode
      refine isInfix_openRowRange hspan hctx ?_ hcode
      rcases List.mem_pair.mp ht with rfl | rfl <;> decide
    · rintro t rfl record
      exact ⟨_, encodeRecord_eq_ok_iff.mpr ⟨hle, hformats, rfl⟩, length_encodeRecord _ _⟩

/-- Tasks with two keys in one column can be read and share a header row. Their rows are two cells
wide, and the array literal has three entries. -/
theorem twofoldTasks_not_hasWidth :
    Schema.ofJson (.obj [("sheetName", .str twofoldTasks.sheetName),
      ("fields", .arr (twofoldTasks.fields.map Field.toJson))]) = .ok twofoldTasks ∧
    twofoldTasks.fields ≠ [] ∧ twofoldTasks.validate = .ok () ∧ twofoldTasks.width = 2 ∧
    (twofoldTasks.entries "task").length = 3 ∧ ¬ ∃ width, twofoldTasks.HasWidth width := by
  have hdescribed : twofoldTasks.DescribedBy [("sheetName", .str twofoldTasks.sheetName),
      ("fields", .arr (twofoldTasks.fields.map Field.toJson))] := ⟨rfl, rfl, rfl, rfl⟩
  have hfields : twofoldTasks.fields ≠ [] := by decide
  refine ⟨hdescribed.ofJson, hfields, by decide, by decide, by decide, fun h => ?_⟩
  have hdistinct : twofoldTasks.HasDistinctColumns := ((exists_hasWidth_iff hfields).1.mp h).2.2
  revert hdistinct
  decide

end SheetSchema.Schema
