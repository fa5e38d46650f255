import Mathlib
import SheetSchema.Proofs.Refusal
import SheetSchema.Proofs.Schema.Slots
import SheetSchema.Proofs.Schema.Wire
import SheetSchema.Proofs.Text.Numeral
import SheetSchema.Table.Basic

/-!
# Where fields stand in rows

Rows are written and read in four ways: generated code has a function each way, and so has a table.
The emitted writer counts its slots on, the table sets the cells of a row that was empty, and both
readers take a cell at an offset. `Schema.SharesPlacement` says that all four put every field of a
schema in the same place, as far from the first cell as its column is from the first column. They do
exactly if nothing keeps them from an answer: the storage formats of boolean fields have to be
texts, and the row must not be longer than a row can be (`Schema.sharesPlacement_iff`).
-/

namespace SheetSchema

/-! ## Cells set one after the other -/

section Setting

variable {ι α : Type} (position : ι → Nat) (value : ι → α)

theorem length_foldl_set (items : List ι) (row : List α) :
    (items.foldl (fun row i => row.set (position i) (value i)) row).length = row.length := by
  induction items generalizing row with
  | nil => rfl
  | cons i items ih => rw [List.foldl_cons, ih, List.length_set]

variable {position value}

/-- A cell that is not set stays. -/
theorem getElem?_foldl_set_of_ne {items : List ι} {k : Nat} (h : ∀ i ∈ items, position i ≠ k)
    (row : List α) :
    (items.foldl (fun row i => row.set (position i) (value i)) row)[k]? = row[k]? := by
  induction items generalizing row with
  | nil => rfl
  | cons i items ih =>
    rw [List.foldl_cons, ih (fun j hj => h j (List.mem_cons_of_mem i hj)),
      List.getElem?_set_ne (h i List.mem_cons_self)]

/-- A cell that is set once has its value. -/
theorem getElem?_foldl_set_of_mem {items : List ι}
    (hne : items.Pairwise fun i j => position i ≠ position j) {i : ι} (hi : i ∈ items)
    {row : List α} (hlt : position i < row.length) :
    (items.foldl (fun row i => row.set (position i) (value i)) row)[position i]? =
      some (value i) := by
  induction items generalizing row with
  | nil => cases hi
  | cons j items ih =>
    obtain ⟨hhead, htail⟩ := List.pairwise_cons.mp hne
    rw [List.foldl_cons]
    rcases List.mem_cons.mp hi with rfl | hi
    · rw [getElem?_foldl_set_of_ne (fun j hj => (hhead j hj).symm), List.getElem?_set_self hlt]
    · exact ih htail hi (by rwa [List.length_set])

end Setting

namespace Schema

variable {s : Schema} {lo hi : Int}

/-! ## Formats -/

/-- Every boolean field that has a storage format has a text for it. -/
def HasTextFormats (s : Schema) : Prop :=
  ∀ f ∈ s.fields, f.type = .boolean → f.format.truthy = true → ∃ text, f.format = .str text

theorem checkFormats_eq_ok_iff : s.checkFormats = .ok () ↔ s.HasTextFormats := by
  simp only [checkFormats, forM_eq_ok_iff, Field.checkFormat_eq_ok_iff, HasTextFormats]

/-! ## Written rows -/

theorem width_eq (h : s.columnSpan? = some (lo, hi)) : (s.width : Int) = hi - lo + 1 := by
  obtain ⟨f, hlast⟩ := getLast?_positioned h
  have hle := (columnSpan?_bounds h).2
  rw [width, hlast]
  push_cast
  omega

theorem length_encodeRecord (s : Schema) (record : Entries Json) :
    (s.encodeRecord record).length = s.width := by
  have hrow : s.encodeRecord record = s.positioned.foldl
      (fun row item => row.set item.1.toNat (cellOf record item.2))
      (List.replicate s.width emptyCell) := rfl
  rw [hrow, length_foldl_set fun item : Int × Field => item.1.toNat, List.length_replicate]

/-- Every field has its place in the row of a record. -/
theorem places_encodeRecord (hdistinct : s.HasDistinctColumns) (h : s.columnSpan? = some (lo, hi))
    (record : Entries Json) :
    s.Places lo hi (cellOf record) emptyCell (s.encodeRecord record) := by
  have hrow : s.encodeRecord record = s.positioned.foldl
      (fun row item => row.set item.1.toNat (cellOf record item.2))
      (List.replicate s.width emptyCell) := rfl
  have hwidth := width_eq h
  have hlength := s.length_encodeRecord record
  have hne : s.positioned.Pairwise fun i j => i.1.toNat ≠ j.1.toNat := by
    refine (pairwise_lt_positioned hdistinct h).imp_of_mem fun hi _ hlt => ?_
    have hnonneg := offset_nonneg h hi
    omega
  constructor
  · rw [hlength, hwidth]
  · intro f hf
    have hbounds := columnIndex_bounds h hf
    have hitem : (f.columnIndex - lo, f) ∈ s.positioned := (mem_positioned h).mpr ⟨hf, rfl⟩
    rw [hrow]
    exact getElem?_foldl_set_of_mem hne hitem (by rw [List.length_replicate]; omega)
  · intro k hk hfree
    rw [hrow, getElem?_foldl_set_of_ne, List.getElem?_replicate_of_lt (hlength ▸ hk)]
    intro item hitem
    obtain ⟨hf, hoffset⟩ := (mem_positioned h).mp hitem
    have hnonneg := offset_nonneg h hitem
    have hne := hfree item.2 hf
    omega

theorem encodeRecord_eq_ok_iff {t : Table} {record : Entries Json} {row : List Json} :
    t.encodeRecord record = .ok row ↔ t.schema.width ≤ maxWidth ∧ t.schema.checkFormats = .ok () ∧
      t.schema.encodeRecord record = row := by
  unfold Table.encodeRecord
  split
  · next hlt => exact iff_of_false nofun fun h => absurd h.1 (Nat.not_le.mpr hlt)
  · next hle =>
    simp only [bind_eq_ok, pure_eq_ok]
    constructor
    · rintro ⟨_, hformats, hrow⟩
      exact ⟨Nat.not_lt.mp hle, hformats, hrow⟩
    · rintro ⟨-, hformats, hrow⟩
      exact ⟨(), hformats, hrow⟩

/-! ## Read rows -/

/-- A record holds what the fields read from cells as far from the first as their columns are from
`lo`. Of the fields of one name the last in order counts, and a cell that is not there is empty. -/
structure ReadsAt (s : Schema) (lo : Int) (cells : List Json) (record : Entries Json) : Prop where
  field : ∀ f ∈ s.fields, (∀ g ∈ s.fields, g.name = f.name → g.columnIndex ≤ f.columnIndex) →
    record.get? f.name = some (f.decode (cells.getD (f.columnIndex - lo).toNat emptyCell))
  other : ∀ name, (∀ f ∈ s.fields, f.name ≠ name) → record.get? name = none

theorem readsAt_decodeRow (hdistinct : s.HasDistinctColumns) (h : s.columnSpan? = some (lo, hi))
    (cells : List Json) : s.ReadsAt lo cells (s.decodeRow cells) := by
  have hrecord : s.decodeRow cells = Entries.putAll [] (s.ordered.map fun f =>
      (f.name, f.decode (cells.getD (f.columnIndex - lo).toNat emptyCell))) := by
    rw [decodeRow, positioned_eq h, List.map_map]
    rfl
  rw [hrecord]
  constructor
  · intro f hf hlast
    obtain ⟨before, after, hordered⟩ := List.append_of_mem (mem_ordered.mpr hf)
    have hlt := pairwise_lt_ordered hdistinct
    rw [hordered, List.pairwise_append, List.pairwise_cons] at hlt
    rw [hordered, List.map_append, List.map_cons]
    refine Entries.get?_putAll_of_last _ _ _ _ fun e he => ?_
    obtain ⟨g, hg, rfl⟩ := List.mem_map.mp he
    have hmem : g ∈ s.fields :=
      mem_ordered.mp (hordered ▸ List.mem_append_right _ (List.mem_cons_of_mem f hg))
    exact fun hname => absurd (hlast g hmem hname) (not_le.mpr (hlt.2.1.1 g hg))
  · intro name hname
    refine Entries.get?_putAll_of_ne (fun e he => ?_) []
    obtain ⟨f, hf, rfl⟩ := List.mem_map.mp he
    exact hname f (mem_ordered.mp hf)

/-! ## Generated code -/

theorem attributeAt_eq_ok {offset : Int} {f : Field} (hoffset : Decimal.isWritable offset = true)
    (hformat : f.checkFormat = .ok ()) :
    attributeAt offset f = .ok (attributeLine (toString offset) f) := by
  rw [attributeAt, writeInt, if_pos hoffset, ok_bind, hformat]
  rfl

/-- Every attribute is read from its place. -/
theorem rowToObject_eq_ok (h : s.columnSpan? = some (lo, hi)) (hformats : s.checkFormats = .ok ())
    (hwritable : ∀ f ∈ s.fields, Decimal.isWritable (f.columnIndex - lo) = true)
    (feature : String) : s.rowToObject feature = .ok (rowReader feature
      (s.ordered.map fun f => attributeLine (toString (f.columnIndex - lo)) f)) := by
  have hreader : s.rowToObject feature = do
      return rowReader feature (← s.positioned.mapM fun item => attributeAt item.1 item.2) := rfl
  have hlines : (s.positioned.mapM fun item => attributeAt item.1 item.2) =
      .ok (s.ordered.map fun f => attributeLine (toString (f.columnIndex - lo)) f) := by
    rw [mapM_eq_ok_iff, positioned_eq h, List.forall₂_map_left_iff, List.forall₂_map_right_iff,
      List.forall₂_same]
    intro f hf
    have hmem := mem_ordered.mp hf
    exact attributeAt_eq_ok (hwritable f hmem) (forM_eq_ok_iff.mp hformats f hmem)
  rw [hreader, hlines]
  rfl

theorem objectToRow_eq_ok (hformats : s.checkFormats = .ok ()) (entity : String) :
    s.objectToRow entity = .ok (rowWriter entity (s.slots.map (slotExpression entity))) := by
  rw [objectToRow, hformats]
  rfl

/-! ## The main result -/

/-- Generated code and tables put every field in the same place of a row whose columns go from `lo`
to `hi`. -/
structure SharesPlacement (s : Schema) (lo hi : Int) : Prop where
  /-- The array literal that is emitted for an entity has an entry for every column. -/
  emittedWriter : ∀ entity, ∃ entries, s.objectToRow entity = .ok (rowWriter entity entries) ∧
    s.Places lo hi (fun f => f.encodeExpression s!"{entity}.{f.name}") "''" entries
  emittedReader : ∀ feature, s.rowToObject feature = .ok (rowReader feature
    (s.ordered.map fun f => attributeLine (toString (f.columnIndex - lo)) f))
  writer : ∀ t : Table, t.schema = s → ∀ record, ∃ row, t.encodeRecord record = .ok row ∧
    s.Places lo hi (cellOf record) emptyCell row
  reader : ∀ t : Table, t.schema = s → ∀ row cells, row.sequence = .ok cells →
    ∃ record, t.decodeRow row = .ok record ∧ s.ReadsAt lo cells record

/-- What keeps a table from writing rows. -/
theorem SharesPlacement.writable (h : s.SharesPlacement lo hi) (hfields : s.fields ≠ []) :
    s.width ≤ maxWidth ∧ s.HasTextFormats := by
  obtain ⟨row, hrow, -⟩ := h.writer ⟨.null, s, hfields⟩ rfl []
  obtain ⟨hle, hformats, -⟩ := encodeRecord_eq_ok_iff.mp hrow
  exact ⟨hle, checkFormats_eq_ok_iff.mp hformats⟩

/-- A schema whose columns differ shares the placement of its fields if and only if the formats of
its boolean fields are texts and its row is not too long. -/
theorem sharesPlacement_iff (hdistinct : s.HasDistinctColumns)
    (hlo : IsLeast {i | i ∈ s.fields.map Field.columnIndex} lo)
    (hhi : IsGreatest {i | i ∈ s.fields.map Field.columnIndex} hi) :
    s.SharesPlacement lo hi ↔ s.HasTextFormats ∧ hi - lo + 1 ≤ maxWidth := by
  have hspan : s.columnSpan? = some (lo, hi) := columnSpan?_eq_some_iff.mpr ⟨hlo, hhi⟩
  have hwidth : s.width ≤ maxWidth ↔ hi - lo + 1 ≤ maxWidth := by
    rw [← width_eq hspan, Nat.cast_le]
  constructor
  · intro h
    obtain ⟨hle, htexts⟩ := h.writable (fields_ne_nil_of_columnSpan? hspan)
    exact ⟨htexts, hwidth.mp hle⟩
  · rintro ⟨htexts, hle⟩
    have hformats : s.checkFormats = .ok () := checkFormats_eq_ok_iff.mpr htexts
    refine
      { emittedWriter := fun entity => ⟨_, objectToRow_eq_ok hformats entity,
          (places_slots hdistinct hspan).map (slotExpression entity)⟩
        emittedReader := rowToObject_eq_ok hspan hformats fun f hf => ?_
        writer := ?_
        reader := ?_ }
    · obtain ⟨hge, hle'⟩ := columnIndex_bounds hspan hf
      obtain ⟨n, hn⟩ := Int.eq_ofNat_of_zero_le (Int.sub_nonneg_of_le hge)
      rw [hn]
      exact isWritable_of_le (n := maxWidth) (by decide +kernel) (by omega)
    · rintro t rfl record
      exact ⟨_, encodeRecord_eq_ok_iff.mpr ⟨hwidth.mpr hle, hformats, rfl⟩,
        places_encodeRecord hdistinct hspan record⟩
    · rintro t rfl row cells hcells
      refine ⟨_, ?_, readsAt_decodeRow hdistinct hspan cells⟩
      rw [Table.decodeRow, hcells, ok_bind, hformats]
      rfl

theorem shuffledTasks_sharesPlacement : shuffledTasks.HasDistinctColumns ∧
    IsLeast {i | i ∈ shuffledTasks.fields.map Field.columnIndex} 1 ∧
    IsGreatest {i | i ∈ shuffledTasks.fields.map Field.columnIndex} 28 ∧
    shuffledTasks.SharesPlacement 1 28 := by
  have hspan : shuffledTasks.columnSpan? = some (1, 28) := by decide
  obtain ⟨hleast, hgreatest⟩ := columnSpan?_eq_some_iff.mp hspan
  have htexts : shuffledTasks.HasTextFormats := checkFormats_eq_ok_iff.mp (by decide)
  exact ⟨shuffledTasks_hasDistinctColumns, hleast, hgreatest,
    (sharesPlacement_iff shuffledTasks_hasDistinctColumns hleast hgreatest).mpr
      ⟨htexts, by decide +kernel⟩⟩

/-- The tasks with a number for a storage format. -/
def numberedTasks : Schema :=
  { shuffledTasks with fields := shuffledTasks.fields.map fun f => { f with format := .int 5 } }

/-- The tasks with a note too far to the right. -/
def wideTasks : Schema where
  sheetName := shuffledTasks.sheetName
  fields := { name := "note", column := "AAAAAAAAAAAAAAA", name_valid := by decide
              column_capitals := by decide } :: shuffledTasks.fields
  sheetName_given := shuffledTasks.sheetName_given

/-- Both schemas can be read, and there are no rows of either. -/
theorem not_sharesPlacement :
    (Schema.ofJson (.obj [("sheetName", .str numberedTasks.sheetName),
      ("fields", .arr (numberedTasks.fields.map Field.toJson))]) = .ok numberedTasks ∧
      numberedTasks.HasDistinctColumns ∧ numberedTasks.columnSpan? = some (1, 28) ∧
      ¬ numberedTasks.SharesPlacement 1 28) ∧
    (Schema.ofJson (.obj [("sheetName", .str wideTasks.sheetName),
      ("fields", .arr (wideTasks.fields.map Field.toJson))]) = .ok wideTasks ∧
      wideTasks.HasDistinctColumns ∧ wideTasks.columnSpan? = some (1, 67090373691429037014) ∧
      ¬ wideTasks.SharesPlacement 1 67090373691429037014) := by
  have hnumbered : numberedTasks.DescribedBy [("sheetName", .str numberedTasks.sheetName),
      ("fields", .arr (numberedTasks.fields.map Field.toJson))] := ⟨rfl, rfl, rfl, rfl⟩
  have hwide : wideTasks.DescribedBy [("sheetName", .str wideTasks.sheetName),
      ("fields", .arr (wideTasks.fields.map Field.toJson))] := ⟨rfl, rfl, rfl, rfl⟩
  have hspan : wideTasks.columnSpan? = some (1, 67090373691429037014) := by decide +kernel
  refine ⟨⟨hnumbered.ofJson, by rw [HasDistinctColumns]; decide, by decide, fun h => ?_⟩,
    ⟨hwide.ofJson, by rw [HasDistinctColumns]; decide, hspan, fun h => ?_⟩⟩
  · have hformats := checkFormats_eq_ok_iff.mpr (h.writable (by decide)).2
    revert hformats
    decide
  · have hle := (h.writable (by decide)).1
    have hwidth := width_eq hspan
    have hmax : maxWidth = 9223372036854775807 := by decide +kernel
    omega

end Schema

end SheetSchema
