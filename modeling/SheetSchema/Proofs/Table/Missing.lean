import Mathlib
import SheetSchema.Proofs.Table.Placement

/-!
# Missing values in rows

A record lacks a value where it has none, `null`, or a number that is none (`Entries.Lacks`); a
frame does where each of its records does, in particular where it has no such column
(`Frame.lacks_of_not_mem_columns`). What is missing is put into words as an empty text before it is
encoded, and a field with sentinels takes an empty text for false. So its cell is not empty but
tells the sentinel for false (`Schema.cellOf_of_lacks`), and the cell of a missing value is empty
exactly for the fields without sentinels (`Table.leavesEmpty_iff`).
-/

namespace SheetSchema

/-! ## Records and frames without a value -/

/-- The record has no value for the name: nothing, `null`, or a number that is none. -/
def Entries.Lacks (record : Entries Json) (name : String) : Prop :=
  ∀ value ∈ record.get? name, value = .null ∨ ∃ x : Float, value = .float x ∧ x.isNaN = true

/-- No record of the frame has a value for the name. -/
def Frame.Lacks (frame : Frame) (name : String) : Prop :=
  ∀ record ∈ frame.records, record.Lacks name

theorem Entries.lacks_of_get?_eq_none {record : Entries Json} {name : String}
    (h : record.get? name = none) : record.Lacks name := by
  intro value hvalue
  rw [h] at hvalue
  cases hvalue

theorem Entries.Lacks.orEmptyCell {record : Entries Json} {name : String} (h : record.Lacks name) :
    ((record.get? name).getD .null).orEmptyCell = emptyCell := by
  cases hvalue : record.get? name with
  | none => rfl
  | some value =>
    rcases h value hvalue with rfl | ⟨x, rfl, hx⟩
    · rfl
    · exact if_pos hx

/-- What does not depend on the record holds of all records of a frame, or there are none. -/
theorem Frame.forall_mem_records_iff {frame : Frame} {p : Prop} :
    (∀ record ∈ frame.records, p) ↔ frame.rows = [] ∨ p := by
  by_cases hp : p <;> simp [Frame.records, hp, List.eq_nil_iff_forall_not_mem]

/-- A frame lacks the columns that it does not have. -/
theorem Frame.lacks_of_not_mem_columns {frame : Frame} {name : String}
    (h : .str name ∉ frame.columns) : frame.Lacks name := by
  intro record hrecord
  obtain ⟨row, -, rfl⟩ := List.mem_map.mp hrecord
  refine Entries.lacks_of_get?_eq_none (Entries.get?_putAll_of_ne (fun e he => ?_) [])
  rintro rfl
  obtain ⟨⟨column, value⟩, hmem, hentry⟩ := List.mem_filterMap.mp he
  have hcolumn := (List.of_mem_zip hmem).1
  cases column with
  | str name =>
    obtain rfl := Option.some.inj hentry
    exact h hcolumn
  | _ => cases hentry

/-! ## The cells of missing values -/

namespace Field

variable {f : Field}

/-- No sentinel is empty. -/
theorem ne_empty_of_sentinels? {yes no : String} (h : f.sentinels? = some (yes, no)) : no ≠ "" := by
  rintro rfl
  unfold sentinels? slashed? at h
  split at h
  · split at h
    · split at h
      · split at h
        · cases h
        · next hne =>
          obtain ⟨-, hafter⟩ := Prod.mk.inj (Option.some.inj h)
          simp_all
      · cases h
    · cases h
  · cases h

/-- An empty text is written as the sentinel for false, and stays where there is none. -/
theorem encode_emptyCell (f : Field) :
    f.encode emptyCell = .str ((f.sentinels?.map Prod.snd).getD "") := by
  unfold encode
  cases f.sentinels? <;> rfl

end Field

namespace Schema

variable {f : Field} {record : Entries Json}

/-- What a missing value is written as. -/
theorem cellOf_of_lacks (h : record.Lacks f.name) :
    cellOf record f = .str ((f.sentinels?.map Prod.snd).getD "") := by
  have hcell : cellOf record f = f.encode ((record.get? f.name).getD .null).orEmptyCell := rfl
  rw [hcell, h.orEmptyCell, f.encode_emptyCell]

/-- The cell of a missing value is empty if and only if the field has no sentinels. -/
theorem cellOf_eq_emptyCell_iff (h : record.Lacks f.name) :
    cellOf record f = emptyCell ↔ f.sentinels? = none := by
  rw [cellOf_of_lacks h, emptyCell, Json.str.injEq]
  cases hsentinels : f.sentinels? with
  | none => exact iff_of_true rfl rfl
  | some sentinels => exact iff_of_false (Field.ne_empty_of_sentinels? hsentinels) nofun

end Schema

/-! ## Tables -/

namespace Table

variable {t : Table} {f : Field} {lo : Int} {record : Entries Json} {frame : Frame}

/-- Rows can be written: the formats of boolean fields are texts, and the row is not too long. -/
def Writes (t : Table) : Prop := t.schema.HasTextFormats ∧ t.schema.width ≤ Schema.maxWidth

/-- The cell of the field is empty in a row that starts at column `lo`. -/
def LeavesEmpty (f : Field) (lo : Int) (row : List Json) : Prop :=
  row[(f.columnIndex - lo).toNat]? = some emptyCell

theorem encodeRecord_eq_ok_iff {row : List Json} :
    t.encodeRecord record = .ok row ↔ t.Writes ∧ t.schema.encodeRecord record = row := by
  rw [Schema.encodeRecord_eq_ok_iff, Schema.checkFormats_eq_ok_iff, Writes, and_assoc,
    and_left_comm]

theorem toRows_eq_ok_iff {rows : List (List Json)} :
    t.toRows frame = .ok rows ↔ (frame.rows = [] ∨ t.Writes) ∧
      frame.records.map t.schema.encodeRecord = rows := by
  simp only [toRows, mapM_eq_ok_iff, encodeRecord_eq_ok_iff, List.forall₂_and_left,
    Frame.forall_mem_records_iff]
  rw [← List.forall₂_map_left_iff, List.forall₂_eq_eq_eq]

section Missing

variable (hdistinct : t.schema.HasDistinctColumns)
  (hlo : IsLeast {i | i ∈ t.schema.fields.map Field.columnIndex} lo) (hf : f ∈ t.schema.fields)

include hdistinct hlo hf

/-- A missing value is written into the cell of its field, as a text. -/
theorem getElem?_encodeRecord_of_lacks (h : record.Lacks f.name) :
    (t.schema.encodeRecord record)[(f.columnIndex - lo).toNat]? =
      some (.str ((f.sentinels?.map Prod.snd).getD "")) := by
  obtain ⟨lo', hi, hspan⟩ := Schema.exists_columnSpan? t.fields_ne_nil
  obtain rfl := (Schema.columnSpan?_eq_some_iff.mp hspan).1.unique hlo
  rw [(Schema.places_encodeRecord hdistinct hspan record).field f hf, Schema.cellOf_of_lacks h]

theorem leavesEmpty_encodeRecord_iff (h : record.Lacks f.name) :
    LeavesEmpty f lo (t.schema.encodeRecord record) ↔ f.sentinels? = none := by
  rw [LeavesEmpty, getElem?_encodeRecord_of_lacks hdistinct hlo hf h, Option.some.injEq,
    ← Schema.cellOf_of_lacks h, Schema.cellOf_eq_emptyCell_iff h]

/-- The cell of a missing value is left empty in the row of a record if and only if rows can be
written and the field has no sentinels. -/
theorem exists_encodeRecord_leavesEmpty_iff (h : record.Lacks f.name) :
    (∃ row, t.encodeRecord record = .ok row ∧ LeavesEmpty f lo row) ↔
      t.Writes ∧ f.sentinels? = none := by
  rw [← leavesEmpty_encodeRecord_iff hdistinct hlo hf h]
  simp only [encodeRecord_eq_ok_iff, and_assoc, exists_and_left, exists_eq_left']

/-- The cells of missing values are left empty in all rows of a frame if and only if there are none,
or rows can be written and the field has no sentinels. -/
theorem exists_toRows_leavesEmpty_iff (h : frame.Lacks f.name) :
    (∃ rows, t.toRows frame = .ok rows ∧ ∀ row ∈ rows, LeavesEmpty f lo row) ↔
      frame.rows = [] ∨ t.Writes ∧ f.sentinels? = none := by
  have hempty : (∀ record ∈ frame.records, LeavesEmpty f lo (t.schema.encodeRecord record)) ↔
      frame.rows = [] ∨ f.sentinels? = none := by
    rw [forall₂_congr fun record hrecord =>
      leavesEmpty_encodeRecord_iff hdistinct hlo hf (h record hrecord),
      Frame.forall_mem_records_iff]
  simp only [toRows_eq_ok_iff, and_assoc, exists_and_left, exists_eq_left', List.forall_mem_map,
    hempty]
  tauto

/-- What is missing is written as the sentinel for false or, without sentinels, as an empty text. So
the cell of a missing value is left empty if and only if rows can be written and the field has no
sentinels, be it in the row of a record or in the rows of a frame. -/
theorem leavesEmpty_iff :
    (∀ record row, Entries.Lacks record f.name → t.encodeRecord record = .ok row →
      row[(f.columnIndex - lo).toNat]? = some (.str ((f.sentinels?.map Prod.snd).getD ""))) ∧
    (∀ record, Entries.Lacks record f.name →
      ((∃ row, t.encodeRecord record = .ok row ∧ LeavesEmpty f lo row) ↔
        t.Writes ∧ f.sentinels? = none)) ∧
    ∀ frame : Frame, frame.Lacks f.name →
      ((∃ rows, t.toRows frame = .ok rows ∧ ∀ row ∈ rows, LeavesEmpty f lo row) ↔
        frame.rows = [] ∨ t.Writes ∧ f.sentinels? = none) := by
  refine ⟨fun record row h hrow => ?_, fun record h => ?_, fun frame h => ?_⟩
  · obtain ⟨-, rfl⟩ := encodeRecord_eq_ok_iff.mp hrow
    exact getElem?_encodeRecord_of_lacks hdistinct hlo hf h
  · exact exists_encodeRecord_leavesEmpty_iff hdistinct hlo hf h
  · exact exists_toRows_leavesEmpty_iff hdistinct hlo hf h

end Missing

/-- The field of the tasks that tells by `yes` and `no` whether a task is done. -/
def doneField : Field := (Schema.shuffledTasks.getField? "done").get (by decide)

/-- A task of which only the title is known. -/
def titleOnly : Entries Json := [("task", .str "1"), ("done", .null)]

/-- A frame without a column for whether a task is done. -/
def titleFrame : Frame := ⟨[.str "task"], [[.str "1"]]⟩

/-- A task of which it is not known whether it is done is written as one that is not done. -/
theorem titleOnly_not_leavesEmpty :
    Schema.shuffledTasks.HasDistinctColumns ∧
    IsLeast {i | i ∈ Schema.shuffledTasks.fields.map Field.columnIndex} 1 ∧
    doneField ∈ Schema.shuffledTasks.fields ∧ titleOnly.Lacks "done" ∧ titleFrame.Lacks "done" ∧
    (∃ row, encodeRecord ⟨.str "book", Schema.shuffledTasks, by decide⟩ titleOnly = .ok row ∧
      row[27]? = some (.str "no") ∧ ¬ LeavesEmpty doneField 1 row) ∧
    ¬ ∃ rows, toRows ⟨.str "book", Schema.shuffledTasks, by decide⟩ titleFrame = .ok rows ∧
      ∀ row ∈ rows, LeavesEmpty doneField 1 row := by
  have hspan : Schema.shuffledTasks.columnSpan? = some (1, 28) := by decide
  have hleast := (Schema.columnSpan?_eq_some_iff.mp hspan).1
  have hmem : doneField ∈ Schema.shuffledTasks.fields := by decide
  have hrecord : titleOnly.Lacks "done" := fun value hvalue =>
    .inl (Option.some.inj (hvalue.symm.trans (by decide)))
  have hframe : titleFrame.Lacks "done" := Frame.lacks_of_not_mem_columns (by decide)
  have hwrites : Writes ⟨.str "book", Schema.shuffledTasks, by decide⟩ :=
    ⟨Schema.checkFormats_eq_ok_iff.mp (by decide), by decide +kernel⟩
  obtain ⟨hcell, hempty, hrows⟩ :=
    leavesEmpty_iff (t := ⟨.str "book", Schema.shuffledTasks, by decide⟩)
      Schema.shuffledTasks_hasDistinctColumns hleast hmem
  refine ⟨Schema.shuffledTasks_hasDistinctColumns, hleast, hmem, hrecord, hframe,
    ⟨_, encodeRecord_eq_ok_iff.mpr ⟨hwrites, rfl⟩, ?_, fun h => ?_⟩, fun h => ?_⟩
  · exact hcell titleOnly _ hrecord (encodeRecord_eq_ok_iff.mpr ⟨hwrites, rfl⟩)
  · obtain ⟨-, hnone⟩ :=
      (hempty titleOnly hrecord).mp ⟨_, encodeRecord_eq_ok_iff.mpr ⟨hwrites, rfl⟩, h⟩
    revert hnone
    decide
  · rcases (hrows titleFrame hframe).mp h with hnil | ⟨-, hnone⟩
    · cases hnil
    · revert hnone
      decide

end Table

end SheetSchema
