import Mathlib
import SheetSchema.Proofs.Table.Placement

/-!
# Records come back from their rows

A record whose values are of the types of the fields is written into a row and read back unchanged,
and the empty cells at the end of a row do not count. `Table.KeepsRecords` says so of a table. Each
field reads what it writes (`Field.decode_encode`), and each has a cell of its own, where it is
written as well as read, so the record comes back as a whole.

If no two fields share a name or a column, and the sentinels of a field differ, a table keeps its
records exactly if it can write any: the storage formats of boolean fields have to be texts, and the
row must not be longer than a row can be (`Table.keepsRecords_iff`).
-/

namespace SheetSchema

/-! ## One field -/

namespace Field

variable {f : Field} {value : Json}

/-- The value is of the type of the field. Dates are texts. -/
def Admits (f : Field) (value : Json) : Prop :=
  match f.type with
  | .string | .date => ∃ text, value = .str text
  | .number => ∃ n, value = .int n
  | .boolean => ∃ b, value = .bool b

/-- A value of the type of a field. -/
def sample (f : Field) : Json :=
  match f.type with
  | .string | .date => .str ""
  | .number => .int 0
  | .boolean => .bool false

theorem admits_sample (f : Field) : f.Admits f.sample := by
  rw [Admits, sample]
  cases f.type with
  | string => exact ⟨"", rfl⟩
  | number => exact ⟨0, rfl⟩
  | boolean => exact ⟨false, rfl⟩
  | date => exact ⟨"", rfl⟩

theorem sentinels?_eq_none (h : f.type ≠ .boolean) : f.sentinels? = none := by
  rw [sentinels?, if_neg h]

/-- The texts for true and for false are not the same. -/
def HasDifferentSentinels (f : Field) : Prop :=
  ∀ sentinels ∈ f.sentinels?, sentinels.1 ≠ sentinels.2

instance : Decidable f.HasDifferentSentinels :=
  inferInstanceAs (Decidable (∀ sentinels ∈ f.sentinels?, sentinels.1 ≠ sentinels.2))

/-- A field reads the value that it has written. -/
theorem decode_encode (hsentinels : f.HasDifferentSentinels) (h : f.Admits value) :
    f.decode (f.encode value.orEmptyCell) = value := by
  have hplain (htype : f.type ≠ .boolean) (cell : Json) : f.encode cell = cell := by
    rw [encode, sentinels?_eq_none htype]
  rw [Admits] at h
  cases htype : f.type with
  | string =>
    obtain ⟨text, rfl⟩ : ∃ text, value = .str text := by simpa only [htype] using h
    simp [decode, htype, hplain, Json.orEmptyCell]
  | date =>
    obtain ⟨text, rfl⟩ : ∃ text, value = .str text := by simpa only [htype] using h
    simp [decode, htype, hplain, Json.orEmptyCell]
  | number =>
    obtain ⟨n, rfl⟩ : ∃ n, value = .int n := by simpa only [htype] using h
    simp [decode, htype, hplain, Json.orEmptyCell, Json.toNumber]
  | boolean =>
    obtain ⟨b, rfl⟩ : ∃ b, value = .bool b := by simpa only [htype] using h
    rw [decode, if_pos htype, encode]
    cases hf : f.sentinels? with
    | none => rfl
    | some sentinels =>
      have hne := hsentinels sentinels hf
      cases b with
      | true => simp [Json.orEmptyCell, Json.truthy]
      | false => simpa [Json.orEmptyCell, Json.truthy] using hne.symm

end Field

/-! ## Rows of a schema -/

namespace Schema

variable {s : Schema} {record : Entries Json}

/-- No two fields have the same name. -/
def HasDistinctNames (s : Schema) : Prop := (s.fields.map Field.name).Nodup

instance : Decidable s.HasDistinctNames :=
  inferInstanceAs (Decidable (s.fields.map Field.name).Nodup)

theorem HasDistinctNames.eq (h : s.HasDistinctNames) {f g : Field} (hf : f ∈ s.fields)
    (hg : g ∈ s.fields) (hname : f.name = g.name) : f = g :=
  List.inj_on_of_nodup_map h hf hg hname

/-- The record has a value of its type for every field, and nothing else. -/
structure Admits (s : Schema) (record : Entries Json) : Prop where
  field : ∀ f ∈ s.fields, ∃ value, record.get? f.name = some value ∧ f.Admits value
  other : ∀ name, (∀ f ∈ s.fields, f.name ≠ name) → record.get? name = none

/-- There are records of every schema. -/
theorem exists_admits (h : s.HasDistinctNames) : ∃ record, s.Admits record := by
  refine ⟨Entries.putAll [] (s.fields.map fun f => (f.name, f.sample)), fun f hf => ?_,
    fun name hname => ?_⟩
  · obtain ⟨before, after, hfields⟩ := List.append_of_mem hf
    refine ⟨f.sample, ?_, f.admits_sample⟩
    rw [HasDistinctNames, hfields, List.map_append, List.nodup_append, List.map_cons,
      List.nodup_cons] at h
    rw [hfields, List.map_append, List.map_cons]
    refine Entries.get?_putAll_of_last _ _ _ _ fun e he hname => h.2.1.1 ?_
    obtain ⟨g, hg, rfl⟩ := List.mem_map.mp he
    exact List.mem_map.mpr ⟨g, hg, hname⟩
  · refine Entries.get?_putAll_of_ne (fun e he => ?_) []
    obtain ⟨f, hf, rfl⟩ := List.mem_map.mp he
    exact hname f hf

/-- A record comes back from its row. -/
theorem get?_decodeRow_encodeRecord (hnames : s.HasDistinctNames)
    (hcolumns : s.HasDistinctColumns) (hsentinels : ∀ f ∈ s.fields, f.HasDifferentSentinels)
    (hfields : s.fields ≠ []) (h : s.Admits record) (name : String) :
    (s.decodeRow (s.encodeRecord record)).get? name = record.get? name := by
  obtain ⟨lo, hi, hspan⟩ := exists_columnSpan? hfields
  have hplaces := places_encodeRecord hcolumns hspan record
  have hreads := readsAt_decodeRow hcolumns hspan (s.encodeRecord record)
  by_cases hname : ∃ f ∈ s.fields, f.name = name
  · obtain ⟨f, hf, rfl⟩ := hname
    obtain ⟨value, hvalue, hadmits⟩ := h.field f hf
    have hcell : (s.encodeRecord record).getD (f.columnIndex - lo).toNat emptyCell =
        f.encode value.orEmptyCell := by
      rw [List.getD_eq_getElem?_getD, hplaces.field f hf, Option.getD_some, cellOf, hvalue,
        Option.getD_some]
    rw [hreads.field f hf fun g hg hsame => (hnames.eq hg hf hsame).symm ▸ le_rfl, hcell,
      Field.decode_encode (hsentinels f hf) hadmits, hvalue]
  · have hother : ∀ f ∈ s.fields, f.name ≠ name := fun f hf heq => hname ⟨f, hf, heq⟩
    rw [hreads.other name hother, h.other name hother]

/-- Empty cells at the end of a row read as cells that are not there. -/
theorem decodeRow_append_replicate (s : Schema) (cells : List Json) (n : Nat) :
    s.decodeRow (cells ++ List.replicate n emptyCell) = s.decodeRow cells := by
  have hcell (k : Nat) :
      (cells ++ List.replicate n emptyCell).getD k emptyCell = cells.getD k emptyCell := by
    rcases lt_or_ge k cells.length with hlt | hge
    · rw [List.getD_append _ _ _ _ hlt]
    · rw [List.getD_append_right _ _ _ _ hge, List.getD_eq_default _ _ hge,
        List.getD_eq_getElem?_getD, List.getElem?_getD_replicate_default_eq]
  simp only [decodeRow, hcell]

end Schema

/-! ## Tables -/

namespace Table

variable {t : Table}

/-- A table reads every record that it has written, and does not mind empty cells at the end of a
row, however many there are. -/
structure KeepsRecords (t : Table) : Prop where
  roundTrip : ∀ record, t.schema.Admits record → ∃ row decoded,
    t.encodeRecord record = .ok row ∧ t.decodeRow (.arr row) = .ok decoded ∧
      ∀ name, decoded.get? name = record.get? name
  trimmed : ∀ cells n, t.decodeRow (.arr (cells ++ List.replicate n emptyCell)) =
    t.decodeRow (.arr cells)

/-- What keeps a table from writing rows. -/
theorem KeepsRecords.writable (h : t.KeepsRecords) (hnames : t.schema.HasDistinctNames) :
    t.schema.HasTextFormats ∧ t.schema.width ≤ Schema.maxWidth := by
  obtain ⟨record, hrecord⟩ := Schema.exists_admits hnames
  obtain ⟨row, -, hrow, -, -⟩ := h.roundTrip record hrecord
  obtain ⟨hle, hformats, -⟩ := Schema.encodeRecord_eq_ok_iff.mp hrow
  exact ⟨Schema.checkFormats_eq_ok_iff.mp hformats, hle⟩

/-- A table whose names and columns differ, and whose sentinels do, keeps its records if and only if
the formats of its boolean fields are texts and its row is not too long. -/
theorem keepsRecords_iff (hnames : t.schema.HasDistinctNames)
    (hcolumns : t.schema.HasDistinctColumns)
    (hsentinels : ∀ f ∈ t.schema.fields, f.HasDifferentSentinels) :
    t.KeepsRecords ↔ t.schema.HasTextFormats ∧ t.schema.width ≤ Schema.maxWidth := by
  refine ⟨fun h => h.writable hnames, fun ⟨htexts, hle⟩ => ⟨fun record hrecord => ?_, ?_⟩⟩
  · have hformats := Schema.checkFormats_eq_ok_iff.mpr htexts
    refine ⟨_, t.schema.decodeRow (t.schema.encodeRecord record),
      Schema.encodeRecord_eq_ok_iff.mpr ⟨hle, hformats, rfl⟩, ?_,
      Schema.get?_decodeRow_encodeRecord hnames hcolumns hsentinels t.fields_ne_nil hrecord⟩
    rw [decodeRow, hformats]
    rfl
  · intro cells n
    rw [decodeRow, decodeRow, Json.sequence, Json.sequence, ok_bind, ok_bind,
      Schema.decodeRow_append_replicate]

theorem shuffledTasks_keepsRecords :
    Schema.shuffledTasks.HasDistinctNames ∧ Schema.shuffledTasks.HasDistinctColumns ∧
    (∀ f ∈ Schema.shuffledTasks.fields, f.HasDifferentSentinels) ∧
    KeepsRecords ⟨.str "book", Schema.shuffledTasks, by decide⟩ := by
  have hnames : Schema.shuffledTasks.HasDistinctNames := by decide
  have hcolumns := Schema.shuffledTasks_hasDistinctColumns
  have hsentinels : ∀ f ∈ Schema.shuffledTasks.fields, f.HasDifferentSentinels := by decide
  have htexts : Schema.shuffledTasks.HasTextFormats :=
    Schema.checkFormats_eq_ok_iff.mp (by decide)
  exact ⟨hnames, hcolumns, hsentinels,
    (keepsRecords_iff hnames hcolumns hsentinels).mpr ⟨htexts, by decide +kernel⟩⟩

/-- The tasks with a number for a storage format, and those with a note too far to the right, can be
read and differ in names, columns and sentinels, and no table keeps records of either. -/
theorem not_keepsRecords :
    (Schema.ofJson (.obj [("sheetName", .str Schema.numberedTasks.sheetName),
      ("fields", .arr (Schema.numberedTasks.fields.map Field.toJson))]) =
        .ok Schema.numberedTasks ∧
      Schema.numberedTasks.HasDistinctNames ∧ Schema.numberedTasks.HasDistinctColumns ∧
      (∀ f ∈ Schema.numberedTasks.fields, f.HasDifferentSentinels) ∧
      ¬ KeepsRecords ⟨.str "book", Schema.numberedTasks, by decide⟩) ∧
    (Schema.ofJson (.obj [("sheetName", .str Schema.wideTasks.sheetName),
      ("fields", .arr (Schema.wideTasks.fields.map Field.toJson))]) = .ok Schema.wideTasks ∧
      Schema.wideTasks.HasDistinctNames ∧ Schema.wideTasks.HasDistinctColumns ∧
      (∀ f ∈ Schema.wideTasks.fields, f.HasDifferentSentinels) ∧
      ¬ KeepsRecords ⟨.str "book", Schema.wideTasks, by decide⟩) := by
  have hnumbered : Schema.numberedTasks.DescribedBy
      [("sheetName", .str Schema.numberedTasks.sheetName),
        ("fields", .arr (Schema.numberedTasks.fields.map Field.toJson))] := ⟨rfl, rfl, rfl, rfl⟩
  have hwide : Schema.wideTasks.DescribedBy
      [("sheetName", .str Schema.wideTasks.sheetName),
        ("fields", .arr (Schema.wideTasks.fields.map Field.toJson))] := ⟨rfl, rfl, rfl, rfl⟩
  have hnames : Schema.numberedTasks.HasDistinctNames := by decide
  have hnames' : Schema.wideTasks.HasDistinctNames := by decide
  refine ⟨⟨hnumbered.ofJson, hnames, by decide, by decide, fun h => ?_⟩,
    hwide.ofJson, hnames', by decide, by decide, fun h => ?_⟩
  · have hformats := Schema.checkFormats_eq_ok_iff.mpr (h.writable hnames).1
    revert hformats
    decide
  · exact absurd (h.writable hnames').2 (by decide +kernel)

end Table

end SheetSchema
