import Mathlib
import SheetSchema.Generation
import SheetSchema.Proofs.Code.Body
import SheetSchema.Proofs.Header.Inference

/-!
# Inferred schemas and what is generated from them

The ranges of an inference are those of its schema, and the schema is what the request asks for:
one field for each header, from the start cell on (`Header.Inference.Coherent`). This holds of every
inference that succeeds, whatever the remote services answer, and the files that are generated from
it are for its data range (`infer_coherent`).
-/

namespace SheetSchema

variable {σ : Type}

/-- The result of an inference agrees with its schema, and the schema with the request. -/
structure Header.Inference.Coherent (r : Header.Request) (i : Header.Inference) : Prop where
  headerRange : i.schema.headerRange true = .ok i.headerRange
  dataRange : i.schema.dataRange true = .ok i.dataRange
  valid : i.schema.validate = .ok ()
  /-- There is one field for each header, in consecutive columns and in the row of the start
  cell. -/
  placed : ∃ headers start cell, Header.expectedHeaders r = .ok headers ∧
    r.startCell = .str start ∧ A1.CellReference.parse start i.schema.sheetName = .ok cell ∧
    (i.schema.fields.map Field.columnIndex =
      (List.range headers.length).map fun k : Nat => cell.columnIndex + k) ∧
    (i.schema.fields.map Field.description =
      headers.map fun header => Header.sourceOf r.lang (.str header)) ∧
    ∀ f ∈ i.schema.fields, f.row.value = cell.row
  distinct : (i.schema.fields.map Field.name).Nodup
  readBack : ∃ data, i.toJson = .ok data ∧ Schema.ofJson data = .ok i.schema

theorem Header.Trace.coherent {service : Service σ} {w w' : World σ} {r : Header.Request}
    {i : Header.Inference} (T : Header.Trace r service w w' i) : i.Coherent r where
  headerRange := T.headerRange
  dataRange := T.dataRange
  valid := T.validate
  placed := ⟨T.headers, T.start, T.cell, T.headers_eq, T.start_eq, T.cell_eq, T.columns,
    T.descriptions, fun _ hf => T.row_value hf⟩
  distinct := T.names_nodup
  readBack := T.exists_toJson

/-- Every inference that succeeds is coherent, and the files generated from it are for its data
range. -/
theorem infer_coherent (service : Service σ) (w : World σ) (r : Header.Request) :
    (∀ t i w', (Header.infer t r).run service w = (.ok i, w') → i.Coherent r) ∧
      ∀ settings feature i a w', (generateFromSheet settings r feature).run service w =
        (.ok (i, a), w') → i.Coherent r ∧ a.dataRange? = some i.dataRange := by
  constructor
  · intro t i w' h
    obtain ⟨T⟩ := Header.exists_trace h
    exact T.coherent
  · intro settings feature i a w' h
    simp only [generateFromSheet, inferSchema, Session.run_bind_eq_ok_iff,
      Session.run_ofExcept_eq_ok_iff, Session.run_pure, Prod.mk.injEq, Except.ok.injEq] at h
    obtain ⟨_, _, hinfer, _, _, ⟨hgenerate, rfl⟩, _, _, -, ⟨rfl, rfl⟩, rfl⟩ := h
    obtain ⟨T⟩ := Header.exists_trace hinfer
    obtain ⟨-, -, -, ⟨range, hrange, hdata⟩, -⟩ :=
      Code.Artifacts.of_scaffold T.fields_ne_nil hgenerate
    rw [T.dataRange] at hrange
    obtain rfl := Except.ok.inj hrange
    exact ⟨T.coherent, hdata⟩

/-- A request for two equal headers of a sheet whose name needs quotes. -/
def mailRequest : Header.Request where
  spreadsheet := .str "book"
  sheetName := .str "Mail's log"
  headers := .arr [.str "件名", .str " 件名 "]
  startCell := .str "Z2"
  lang := .str "ja"

/-- What a spreadsheet with that sheet answers: its description, then the header row. -/
def mailReplies : List Reply :=
  [.ok (.obj [("sheets", .arr [.obj [("properties",
      .obj [("sheetId", .int 7), ("title", .str "Mail's log")])]])]),
    .ok (.obj [("values", .arr [.arr [.str "件名", .str "件名", .str "受信日"]])])]

/-- A feature for the mails. -/
def mailFeature : FeatureRequest where
  name := .str "Mail"
  timestamp := "2024-01-01"

theorem infer_coherent_mail :
    (∃ i w', (Header.infer {} mailRequest).run scripted { service := mailReplies } = (.ok i, w') ∧
      i.Coherent mailRequest) ∧
    ∃ i a w',
      (generateFromSheet {} mailRequest mailFeature).run scripted { service := mailReplies } =
        (.ok (i, a), w') ∧ i.Coherent mailRequest ∧ a.dataRange? = some i.dataRange := by
  constructor
  · obtain ⟨i, w', hrun⟩ := Session.exists_run_of_isOk (Header.infer {} mailRequest) scripted
      { service := mailReplies } (by decide +kernel)
    exact ⟨i, w', hrun, (infer_coherent scripted _ mailRequest).1 _ i w' hrun⟩
  · obtain ⟨⟨i, a⟩, w', hrun⟩ := Session.exists_run_of_isOk
      (generateFromSheet {} mailRequest mailFeature) scripted { service := mailReplies }
      (by decide +kernel)
    exact ⟨i, a, w', hrun, (infer_coherent scripted _ mailRequest).2 _ _ i a w' hrun⟩

end SheetSchema
