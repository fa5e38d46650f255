import Mathlib
import SheetSchema.Proofs.Json.Reading
import SheetSchema.Proofs.Schema.Layout
import SheetSchema.Schema.Document

/-!
# Documents read back

The document of a schema holds nothing that reading could lose (`Document.plain_ofObject`), so its
text is read as this document in every layout that indents by blanks. The document is read as the
schema, and the ranges in it do not matter (`Schema.DescribedBy.of_agreeBesideRanges`): they may be
replaced or removed.

A schema of one row whose optional attributes are texts round trips in this sense
(`Schema.RoundTrips`) exactly if it can be written at all, which it can exactly if the number of the
first row of data has few enough digits (`Schema.roundTrips_iff`).
-/

namespace SheetSchema

/-- The value is a text, or `null` in its absence. -/
def Json.IsOptionalText (v : Json) : Prop := v = .null ∨ ∃ text, v = .str text

namespace Schema

/-- The optional attributes of the schema and of its fields are texts, if they are given. -/
structure HasOptionalTexts (s : Schema) : Prop where
  fields : ∀ f ∈ s.fields, f.format.IsOptionalText ∧ f.description.IsOptionalText
  spreadsheetId : s.spreadsheetId.IsOptionalText
  rangeName : s.rangeName.IsOptionalText

/-- The same entries, except for the two ranges, which may be there with other values or not be
there. -/
def AgreeBesideRanges (entries edited : Entries Json) : Prop :=
  ∀ key, key ≠ "headerRange" → key ≠ "dataRange" → edited.get? key = entries.get? key

/-- The schema is read back from its document and from the text of its document. -/
structure RoundTrips (s : Schema) : Prop where
  document : ∃ entries, Document.ofSchema s = .ok (Document.ofObject (.obj entries)) ∧
    ∀ edited, AgreeBesideRanges entries edited →
      Document.schema (Document.ofObject (.obj edited)) = .ok s
  text : ∀ layout : JsonLayout, layout.IsBlank → ∃ text, Document.render s layout = .ok text ∧
    Document.parse text = .ok s ∧
    -- Writing what was read gives the same text again.
    ∀ t, Document.parse text = .ok t → Document.render t layout = .ok text

end Schema

/-! ## Nothing that reading could lose -/

section Plain

open Json (Plain)

variable {d : Nat}

theorem Json.IsOptionalText.plain {v : Json} (h : v.IsOptionalText) : Plain d v := by
  rcases h with rfl | ⟨text, rfl⟩
  · exact .null
  · exact .str text

theorem Field.plain_optionalEntry (key : String) {v : Json} (h : v.IsOptionalText) :
    ∀ e ∈ optionalEntry key v, Plain d e.2 := by
  intro e he
  unfold optionalEntry at he
  split at he
  · rw [List.mem_singleton.mp he]
    exact h.plain
  · cases he

theorem HeaderRow.plain_toJson {row : HeaderRow} (h : Decimal.isWritable row.value = true) :
    Plain d row.toJson := by
  cases row with
  | number n pos => exact .int h
  | flag => exact .bool true

theorem Field.nodup_keys_entriesOf (name type column row : Json) (required : Bool)
    (format description : Json) :
    (entriesOf name type column row required format description).keys.Nodup := by
  unfold entriesOf optionalEntry
  split_ifs <;> simp [Entries.keys]

/-- A field is written as a plain value. -/
theorem Field.plain_toJson {f : Field} (hformat : f.format.IsOptionalText)
    (hdescription : f.description.IsOptionalText)
    (hrow : Decimal.isWritable f.row.value = true) : Plain (d + 1) f.toJson := by
  refine .obj (nodup_keys_entriesOf _ _ _ _ _ _ _) fun e he => ?_
  simp only [entriesOf, List.mem_append, List.mem_cons, List.not_mem_nil, or_false] at he
  rcases he with (((rfl | rfl | rfl | rfl) | he) | he) | he
  · exact .str _
  · exact .str _
  · exact .str _
  · exact HeaderRow.plain_toJson hrow
  · split at he
    · rw [List.mem_singleton.mp he]
      exact .bool true
    · cases he
  · exact plain_optionalEntry _ hformat e he
  · exact plain_optionalEntry _ hdescription e he

namespace Schema

variable {s : Schema} {entries : Entries Json}

theorem nodup_keys_entriesOf (sheetName : Json) (fields : List Json)
    (spreadsheetId rangeName : Json) {ranges : List (String × Json)}
    (hranges : s.rangeEntries = .ok ranges) :
    (entriesOf sheetName fields ranges spreadsheetId rangeName).keys.Nodup := by
  unfold entriesOf Field.optionalEntry
  rcases rangeEntries_cases hranges with ⟨-, rfl⟩ | ⟨-, _, _, -, rfl⟩ <;>
    split_ifs <;> simp [Entries.keys]

/-- A schema is written as a plain value. -/
theorem plain_of_toEntries (h : s.toEntries = .ok entries) (htexts : s.HasOptionalTexts)
    (hrows : ∀ f ∈ s.fields, Decimal.isWritable f.row.value = true) :
    Plain (d + 3) (.obj entries) := by
  obtain ⟨ranges, hranges, h⟩ := bind_eq_ok.mp h
  obtain rfl := pure_eq_ok.mp h
  refine .obj (nodup_keys_entriesOf _ _ _ _ hranges) fun e he => ?_
  simp only [entriesOf, List.mem_append, List.mem_cons, List.not_mem_nil, or_false] at he
  rcases he with (((rfl | rfl) | he) | he) | he
  · exact .str _
  · refine .arr fun v hv => ?_
    obtain ⟨f, hf, rfl⟩ := List.mem_map.mp hv
    obtain ⟨hformat, hdescription⟩ := htexts.fields f hf
    exact Field.plain_toJson hformat hdescription (hrows f hf)
  · rcases rangeEntries_cases hranges with ⟨-, rfl⟩ | ⟨-, headerRange, dataRange, -, rfl⟩
    · cases he
    · simp only [List.mem_cons, List.not_mem_nil, or_false] at he
      rcases he with rfl | rfl
      · exact .str _
      · exact .str _
  · exact Field.plain_optionalEntry _ htexts.spreadsheetId e he
  · exact Field.plain_optionalEntry _ htexts.rangeName e he

end Schema

theorem Document.plain_ofObject {schema : Json} (h : Plain d schema) :
    Plain (d + 1) (ofObject schema) := by
  refine .obj (by simp [Entries.keys]) fun e he => ?_
  simp only [List.mem_cons, List.not_mem_nil, or_false] at he
  rcases he with rfl | rfl
  · exact .str _
  · exact h

end Plain

/-! ## Documents -/

variable {s : Schema} {entries : Entries Json}

/-- The two ranges do not matter for what the entries describe. -/
theorem Schema.DescribedBy.of_agreeBesideRanges (h : s.DescribedBy entries)
    {edited : Entries Json} (hagree : AgreeBesideRanges entries edited) :
    s.DescribedBy edited := by
  have hread : ∀ key ∈ ["sheetName", "fields", "spreadsheetId", "rangeName"],
      key ≠ "headerRange" ∧ key ≠ "dataRange" := by decide
  exact h.congr fun key hkey => hagree key (hread key hkey).1 (hread key hkey).2

namespace Document

theorem ofSchema_eq_ok_iff {data : Json} : ofSchema s = .ok data ↔
    ∃ entries, s.toEntries = .ok entries ∧ ofObject (.obj entries) = data := by
  simp only [ofSchema, Schema.toJson, map_eq_ok, exists_exists_and_eq_and]

theorem render_eq (h : s.toEntries = .ok entries) (layout : JsonLayout) :
    render s layout = .ok ((ofObject (.obj entries)).render layout) := by
  rw [render, ofSchema_eq_ok_iff.mpr ⟨entries, h, rfl⟩]
  rfl

theorem schema_ofObject (schema : Json) :
    Document.schema (ofObject schema) = Schema.ofJson schema := rfl

/-- A document whose ranges are edited is still the document of the schema. -/
theorem schema_of_agreeBesideRanges (h : s.toEntries = .ok entries) {edited : Entries Json}
    (hagree : Schema.AgreeBesideRanges entries edited) :
    schema (ofObject (.obj edited)) = .ok s := by
  rw [schema_ofObject]
  exact ((Schema.describedBy_of_toEntries h).of_agreeBesideRanges hagree).ofJson

/-- The text of the document of a schema is read as this schema. -/
theorem parse_render (h : s.toEntries = .ok entries) (htexts : s.HasOptionalTexts)
    (hrows : ∀ f ∈ s.fields, Decimal.isWritable f.row.value = true) {layout : JsonLayout}
    (hblank : layout.IsBlank) : ∃ text, render s layout = .ok text ∧ parse text = .ok s := by
  have hplain : Json.Plain Json.maxDepth (ofObject (.obj entries)) :=
    plain_ofObject (Schema.plain_of_toEntries h htexts hrows)
  refine ⟨_, render_eq h layout, ?_⟩
  rw [parse, Json.parse_render hblank hplain]
  exact schema_of_agreeBesideRanges h fun _ _ _ => rfl

end Document

namespace Schema

/-- A schema of one row with texts for its optional attributes round trips if and only if the number
of the first row of its data can be written. -/
theorem roundTrips_iff (hrow : s.validate = .ok ()) (htexts : s.HasOptionalTexts) :
    s.RoundTrips ↔ Decimal.isWritable ((s.headerRow.value + 1 : Nat) : Int) = true := by
  constructor
  · rintro ⟨⟨entries, hdocument, -⟩, -⟩
    obtain ⟨entries, hentries, -⟩ := Document.ofSchema_eq_ok_iff.mp hdocument
    exact isWritable_of_toEntries hrow hentries
  · intro hwritable
    obtain ⟨entries, hentries⟩ := exists_toEntries hrow hwritable
    have hrows : ∀ f ∈ s.fields, Decimal.isWritable f.row.value = true := by
      intro f hf
      rw [validate_eq_ok_iff.mp hrow f hf]
      exact isWritable_of_le hwritable (Nat.le_succ _)
    refine ⟨⟨entries, Document.ofSchema_eq_ok_iff.mpr ⟨entries, hentries, rfl⟩,
      fun edited => Document.schema_of_agreeBesideRanges hentries⟩, fun layout hblank => ?_⟩
    obtain ⟨text, hrender, hparse⟩ := Document.parse_render hentries htexts hrows hblank
    refine ⟨text, hrender, hparse, fun t ht => ?_⟩
    obtain rfl : s = t := Except.ok.inj (hparse.symm.trans ht)
    exact hrender

theorem shuffledTasks_hasOptionalTexts : shuffledTasks.HasOptionalTexts where
  fields := by simp [shuffledTasks, Json.IsOptionalText]
  spreadsheetId := Or.inl rfl
  rangeName := Or.inl rfl

theorem shuffledTasks_roundTrips : shuffledTasks.validate = .ok () ∧
    shuffledTasks.HasOptionalTexts ∧ shuffledTasks.RoundTrips := by
  have hrow : shuffledTasks.validate = .ok () := by decide
  refine ⟨hrow, shuffledTasks_hasOptionalTexts, ?_⟩
  exact (roundTrips_iff hrow shuffledTasks_hasOptionalTexts).mpr (by decide +kernel)

/-- The tasks in the last row that can be written are read, but not written. The tasks in their own
row are written with any indentation, but not read back from a text that is indented by letters. -/
theorem deepTasks_not_roundTrips :
    (∃ data, Schema.ofJson data = .ok deepTasks) ∧ deepTasks.validate = .ok () ∧
      deepTasks.HasOptionalTexts ∧ ¬ deepTasks.RoundTrips ∧
    ∃ text err, Document.render shuffledTasks ⟨some "x", false⟩ = .ok text ∧
      Document.parse text = .error err := by
  have hdescribed : deepTasks.DescribedBy [("sheetName", .str deepTasks.sheetName),
      ("fields", .arr (deepTasks.fields.map Field.toJson))] := ⟨rfl, rfl, rfl, rfl⟩
  have hrow : deepTasks.validate = .ok () := by decide +kernel
  have htexts : deepTasks.HasOptionalTexts :=
    ⟨by simp [deepTasks, shuffledTasks, Json.IsOptionalText], Or.inl rfl, Or.inl rfl⟩
  refine ⟨⟨_, hdescribed.ofJson⟩, hrow, htexts, fun h => ?_, ?_⟩
  · obtain ⟨_, hdocument, -⟩ := h.document
    obtain ⟨entries, hentries, -⟩ := Document.ofSchema_eq_ok_iff.mp hdocument
    have hwritable := isWritable_of_toEntries hrow hentries
    revert hwritable
    decide +kernel
  · have hshared : shuffledTasks.validate = .ok () := by decide
    obtain ⟨entries, hentries⟩ := exists_toEntries hshared (by decide +kernel)
    obtain ⟨err, herr⟩ := Json.exists_parse_render_eq_error (show "x".toList = _ from rfl) rfl
      (by decide) false ("version", .str Document.version) [("schema", .obj entries)]
    refine ⟨_, .ofJsonError err, Document.render_eq hentries _, ?_⟩
    rw [Document.parse, Document.ofObject, herr]

end Schema

end SheetSchema
