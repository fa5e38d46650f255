import Mathlib
import SheetSchema.Generation
import SheetSchema.Proofs.Header.Fields
import SheetSchema.Proofs.Header.Translation
import SheetSchema.Proofs.Schema.Wire
import SheetSchema.Proofs.Service.Sheets

/-!
# What an inferred schema promises

An inference that succeeds has gone through all of its stages. A `Trace` keeps what they found and
the worlds between them (`exists_trace`), and everything about the result is read off it.

The ranges of an inference are written from its start cell, those of a schema from the columns of
its fields. They agree, since the fields stand in consecutive columns from the start cell on and a
column is told by its letters and by its index alike (`Trace.headerRange`, `Trace.dataRange`).
-/

namespace SheetSchema.Header

variable {σ : Type} {service : Service σ} {w w' : World σ} {t : Translator} {r : Request}
  {i : Inference}

/-! ## The stages of an inference -/

theorem run_within_eq_ok_iff {α : Type} {a : α} {stage : Stage} {x : Session σ α} :
    (within stage x).run service w = (.ok a, w') ↔ x.run service w = (.ok a, w') := by
  rw [within, Session.run_orElse_eq_ok_iff]
  refine or_iff_left ?_
  rintro ⟨e, w₁, -, h⟩
  obtain ⟨-, w₂, -, h⟩ := Session.run_bind_eq_ok_iff.mp h
  cases h

/-- What the stages of an inference have found, and the worlds that two of them have reached. -/
structure Trace (r : Request) (service : Service σ) (w w' : World σ) (i : Inference) where
  headers : List String
  start : String
  cell : A1.CellReference
  lastColumn : String
  rows : Json
  translated : List Json
  /-- The world after the sheet is resolved. -/
  resolved : World σ
  /-- The world after the header row is fetched. -/
  fetched : World σ
  headers_eq : expectedHeaders r = .ok headers
  start_eq : r.startCell = .str start
  cell_eq : A1.CellReference.parse start i.schema.sheetName = .ok cell
  lastColumn_eq : Column.lettersOf (cell.columnIndex + headers.length - 1) = .ok lastColumn
  headerRange_eq : rowRange i.schema.sheetName cell lastColumn true = .ok i.headerRange
  dataRange_eq : A1.rangeOf i.schema.sheetName cell.column ((cell.row : Int) + 1) lastColumn none
    true = .ok i.dataRange
  length_translated : translated.length = headers.length
  fields_eq : fieldsOf translated (headers.map .str) (.int cell.columnIndex) (.int cell.row)
    r.lang = .ok i.schema.fields
  resolved_eq : (resolveSheet r).run service { w with ledger := {} } =
    (.ok (.str i.schema.sheetName), resolved)
  fetched_eq : (fetchHeaderRow r.spreadsheet cell lastColumn).run service resolved =
    (.ok rows, fetched)
  checked : checkHeaders headers rows = .ok ()
  extends_fetched : World.Extends "headerRangeInput" fetched w'
  debug_eq : i.debug = w'.ledger

theorem asString_eq_ok_iff {given : Json} {s : String} :
    given.asString = .ok s ↔ given = .str s := by
  cases given <;> simp [Json.asString]

theorem extends_translation (headers : List String) (lang : Json) :
    Session.Respects (World.Extends "headerRangeInput")
      (if lang.truthy then translate t headers lang else pure (headers.map Json.str) :
        Session σ (List Json)) := by
  split
  · exact extends_translate (by decide) t headers lang
  · exact Session.Respects.pure _

theorem length_of_translation {headers : List String} {lang : Json} {translated : List Json}
    (h : (if lang.truthy then translate t headers lang else pure (headers.map Json.str) :
      Session σ (List Json)).run service w = (.ok translated, w')) :
    translated.length = headers.length := by
  split at h
  · exact length_of_translate h
  · obtain ⟨rfl, -⟩ := by simpa using h
    exact List.length_map _

/-- The facts about the ranges leave the fact about the header row that was read. -/
theorem extends_rangeFact {key : String}
    (h : key ∈ ["headerRange", "dataRange", "headerRowIndex", "startColIndex"]) (value : Json) :
    Session.Respects (World.Extends "headerRangeInput")
      (Session.record key value : Session σ Unit) := by
  have hne : key ≠ "headerRangeInput" := by
    rintro rfl
    revert h
    decide
  exact Session.Respects.extends_record hne value

/-- An inference that succeeds has gone through all of its stages. -/
theorem exists_trace (h : (infer t r).run service w = (.ok i, w')) :
    Nonempty (Trace r service w w' i) := by
  rw [infer, inferWith, Session.run_recording_eq_ok_iff] at h
  simp only [inferStages, inferFromRow, Session.run_bind_eq_ok_iff, run_within_eq_ok_iff,
    Session.run_ofExcept_eq_ok_iff, Session.run_ledger, Session.run_pure, Prod.mk.injEq,
    Except.ok.injEq, and_assoc, exists_and_left, exists_eq_left', Prod.exists] at h
  obtain ⟨_, _, _, ⟨headers, hheaders, _, resolved, hresolved, rfl, rfl, rfl⟩, _, _, hcells, rows,
    fetched, hfetched, _, hchecked, title, headerRange, dataRange, hranges, _, _, h₁, _, _, h₂, _,
    _, h₃, _, _, h₄, translated, _, htranslated, fields, hfields, schema, hschema, rfl, rfl⟩ := h
  obtain ⟨rfl, htitle, -, -⟩ := Schema.ofValues_eq_ok_iff.mp hschema
  obtain rfl := Json.str.inj htitle
  simp only [inferredRanges, bind_eq_ok, asString_eq_ok_iff, pure_eq_ok, Prod.mk.injEq] at hranges
  obtain ⟨_, rfl, _, hheaderRange, _, hdataRange, rfl, rfl, rfl⟩ := hranges
  simp only [headerCells, bind_eq_ok, asString_eq_ok_iff, pure_eq_ok, Prod.mk.injEq] at hcells
  obtain ⟨start, hstart, cell, hcell, lastColumn, hlast, rfl, rfl⟩ := hcells
  have e₁ := (extends_rangeFact (by decide) _).of_run h₁
  have e₂ := (extends_rangeFact (by decide) _).of_run h₂
  have e₃ := (extends_rangeFact (by decide) _).of_run h₃
  have e₄ := (extends_rangeFact (by decide) _).of_run h₄
  have e₅ := (extends_translation headers r.lang).of_run htranslated
  exact ⟨{
    headers, start, cell, lastColumn, rows, translated
    resolved := _
    fetched := _
    headers_eq := hheaders
    start_eq := hstart
    cell_eq := hcell
    lastColumn_eq := hlast
    headerRange_eq := hheaderRange
    dataRange_eq := hdataRange
    length_translated := length_of_translation htranslated
    fields_eq := hfields
    resolved_eq := hresolved
    fetched_eq := hfetched
    checked := hchecked
    extends_fetched := trans_of _ e₁ (trans_of _ e₂ (trans_of _ e₃ (trans_of _ e₄ e₅)))
    debug_eq := rfl }⟩

/-! ## What follows for the schema -/

theorem expectedHeaders_ne_nil {headers : List String} (h : expectedHeaders r = .ok headers) :
    headers ≠ [] := by
  unfold expectedHeaders at h
  split at h
  · cases h
  split at h
  · cases h
  · next hlists =>
    split at h
    · cases h
    · obtain ⟨items, hitems, h⟩ := bind_eq_ok.mp h
      obtain rfl := pure_eq_ok.mp h
      intro hnil
      obtain rfl := List.map_eq_nil_iff.mp hnil
      cases hgiven : r.headers with
      | arr given =>
        rw [hgiven] at hitems hlists
        obtain rfl := Except.ok.inj hitems
        exact hlists rfl
      | obj given =>
        rw [hgiven] at hitems hlists
        have hmap := Except.ok.inj hitems
        obtain rfl := List.map_eq_nil_iff.mp hmap
        exact hlists rfl
      | str s =>
        rw [hgiven] at hlists
        exact hlists rfl
      | _ =>
        rw [hgiven] at hitems
        cases hitems

namespace Trace

variable (T : Trace r service w w' i)

include T

theorem length_pos : 0 < T.headers.length :=
  List.length_pos_iff.mpr (expectedHeaders_ne_nil T.headers_eq)

theorem isCapitals_column : Column.isCapitals T.cell.column.toList = true :=
  (A1.CellReference.of_parse T.cell_eq).2.1

theorem columnIndex_nonneg : 0 ≤ T.cell.columnIndex := Column.indexOf_nonneg T.isCapitals_column

theorem lastColumn_eq_letters :
    T.lastColumn = Column.letters (T.cell.columnIndex + T.headers.length - 1).toNat := by
  have h := T.lastColumn_eq
  have hpos := T.length_pos
  have hnonneg := T.columnIndex_nonneg
  rw [Column.lettersOf, if_neg (by omega)] at h
  exact (Except.ok.inj h).symm

theorem length_zip :
    (T.translated.zip (T.headers.map Json.str)).length = T.headers.length := by
  rw [List.length_zip, List.length_map, T.length_translated, Nat.min_self]

/-- The fields stand in consecutive columns from the start cell on, one for each header. -/
theorem columns : i.schema.fields.map Field.columnIndex =
    (List.range T.headers.length).map fun k : Nat => T.cell.columnIndex + k := by
  have h := columns_fieldsFrom T.columnIndex_nonneg T.fields_eq
  simpa [T.length_zip] using h

theorem names_nodup : (i.schema.fields.map Field.name).Nodup :=
  (names_fieldsFrom T.columnIndex_nonneg T.fields_eq).1

/-- Each field is described by its header. -/
theorem descriptions : i.schema.fields.map Field.description =
    T.headers.map fun header => sourceOf r.lang (.str header) := by
  have hsnd : (T.translated.zip (T.headers.map Json.str)).map Prod.snd = T.headers.map Json.str :=
    List.map_snd_zip (by rw [List.length_map, T.length_translated])
  have hsource := congrArg (List.map (sourceOf r.lang)) hsnd
  rw [List.map_map, List.map_map] at hsource
  rw [descriptions_fieldsFrom T.columnIndex_nonneg T.fields_eq]
  exact hsource

theorem fields_ne_nil : i.schema.fields ≠ [] := by
  intro hnil
  have h := congrArg List.length T.columns
  rw [hnil, List.length_map, List.length_map, List.length_range] at h
  have := T.length_pos
  simp only [List.length_nil] at h
  omega

theorem row_eq {f : Field} (hf : f ∈ i.schema.fields) :
    ∃ pos, f.row = HeaderRow.number T.cell.row pos := by
  have h := rows_fieldsFrom T.columnIndex_nonneg T.fields_eq f hf
  unfold HeaderRow.ofJson? at h
  simp only [Int.toNat_natCast] at h
  split at h
  · next pos => exact ⟨pos, (Option.some.inj h).symm⟩
  · cases h

/-- All fields stand in the row of the start cell. -/
theorem row_value {f : Field} (hf : f ∈ i.schema.fields) : f.row.value = T.cell.row := by
  obtain ⟨pos, hrow⟩ := T.row_eq hf
  rw [hrow]
  rfl

theorem headerRow_eq : ∃ pos, i.schema.headerRow = HeaderRow.number T.cell.row pos := by
  obtain ⟨f, rest, hf⟩ := List.exists_cons_of_ne_nil T.fields_ne_nil
  have hmem : f ∈ i.schema.fields := hf ▸ List.mem_cons_self
  obtain ⟨pos, hrow⟩ := T.row_eq hmem
  refine ⟨pos, ?_⟩
  rw [Schema.headerRow, hf]
  exact hrow

theorem headerRow_value : i.schema.headerRow.value = T.cell.row := by
  obtain ⟨pos, h⟩ := T.headerRow_eq
  rw [h]
  rfl

/-- The inferred schema is valid. -/
theorem validate : i.schema.validate = .ok () := by
  have hshares : i.schema.sharesRow = true := by
    rw [Schema.sharesRow, List.all_eq_true]
    intro f hf
    rw [T.row_value hf, T.headerRow_value, beq_self_eq_true]
  rw [Schema.validate, if_pos hshares]

theorem columnSpan? : i.schema.columnSpan? =
    some (T.cell.columnIndex, T.cell.columnIndex + T.headers.length - 1) := by
  have hpos := T.length_pos
  rw [Schema.columnSpan?_eq_some_iff, T.columns]
  refine ⟨⟨?_, ?_⟩, ?_, ?_⟩
  · exact List.mem_map.mpr ⟨0, List.mem_range.mpr hpos, by simp⟩
  · intro column hcolumn
    obtain ⟨k, -, rfl⟩ := List.mem_map.mp hcolumn
    omega
  · exact List.mem_map.mpr ⟨T.headers.length - 1, List.mem_range.mpr (by omega), by omega⟩
  · intro column hcolumn
    obtain ⟨k, hk, rfl⟩ := List.mem_map.mp hcolumn
    have := List.mem_range.mp hk
    omega

theorem letters_columnIndex : Column.letters T.cell.columnIndex.toNat = T.cell.column :=
  Column.letters_indexOf T.isCapitals_column

theorem isWritable_dataRow : Decimal.isWritable ((T.cell.row + 1 : Nat) : Int) = true :=
  A1.isWritable_of_rangeOf T.dataRange_eq

/-- The header range of the schema is the one that was inferred. -/
theorem headerRange : i.schema.headerRange true = .ok i.headerRange := by
  obtain ⟨pos, hrow⟩ := T.headerRow_eq
  have hflag : i.schema.headerRow ≠ .flag := hrow ▸ HeaderRow.noConfusion
  rw [Schema.headerRange_eq_rangeOf T.validate T.columnSpan? hflag, T.headerRow_value,
    T.letters_columnIndex, ← T.lastColumn_eq_letters, ← T.headerRange_eq]
  rfl

/-- The data range of the schema is the one that was inferred. -/
theorem dataRange : i.schema.dataRange true = .ok i.dataRange := by
  rw [Schema.dataRange_eq_rangeOf T.validate T.columnSpan?, T.headerRow_value,
    T.letters_columnIndex, ← T.lastColumn_eq_letters, ← T.dataRange_eq, Nat.cast_add, Nat.cast_one]

/-- The object of an inference is read back as the inferred schema. -/
theorem exists_toJson : ∃ data, i.toJson = .ok data ∧ Schema.ofJson data = .ok i.schema := by
  have hwritable := T.isWritable_dataRow
  rw [← T.headerRow_value] at hwritable
  obtain ⟨entries, hentries⟩ := Schema.exists_toEntries T.validate hwritable
  have hdescribed := Schema.describedBy_of_toEntries hentries
  refine ⟨_, by rw [Inference.toJson, hentries]; rfl, ?_⟩
  exact ((hdescribed.put _ (by decide)).put _ (by decide)).ofJson

end Trace

end SheetSchema.Header
