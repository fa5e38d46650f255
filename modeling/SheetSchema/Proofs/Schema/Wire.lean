import Mathlib
import SheetSchema.Schema.Wire
import SheetSchema.Proofs.Schema.Field
import SheetSchema.Proofs.Schema.Range

/-!
# Schemas read back

The entries of an object describe a schema if they give its name, its fields and what else is known
of it (`Schema.DescribedBy`); other entries do not matter (`Schema.DescribedBy.congr`), so the
ranges beside the fields may be anything. Such an object is read as the schema
(`Schema.DescribedBy.ofJson`). What is written for a schema describes it
(`Schema.describedBy_of_toEntries`), and a schema can be written exactly if its ranges can be
(`Schema.exists_toEntries`, `Schema.isWritable_of_toEntries`).
-/

namespace SheetSchema.Schema

theorem sheetNameOf_eq_ok_iff {given : Json} {name : SheetName} :
    sheetNameOf given = .ok name ↔ given = .str name.val := by
  constructor
  · intro h
    unfold sheetNameOf at h
    split at h
    · split at h
      · rw [← Except.ok.inj h]
      · cases h
    · cases h
  · rintro rfl
    rw [sheetNameOf, dif_pos name.property]

theorem ofValues_eq_ok_iff {fields : List Field} {sheetName spreadsheetId rangeName : Json}
    {s : Schema} : ofValues fields sheetName spreadsheetId rangeName = .ok s ↔
      s.fields = fields ∧ sheetName = .str s.sheetName ∧ s.spreadsheetId = spreadsheetId ∧
        s.rangeName = rangeName := by
  simp only [ofValues, bind_eq_ok, sheetNameOf_eq_ok_iff, pure_eq_ok]
  constructor
  · rintro ⟨name, rfl, rfl⟩
    exact ⟨rfl, rfl, rfl, rfl⟩
  · rintro ⟨rfl, rfl, rfl, rfl⟩
    exact ⟨⟨s.sheetName, s.sheetName_given⟩, rfl, rfl⟩

/-- The entries of an object give the schema its name, its fields and what else is known of it. -/
structure DescribedBy (s : Schema) (entries : Entries Json) : Prop where
  sheetName : entries.get? "sheetName" = some (.str s.sheetName)
  fields : entries.get? "fields" = some (.arr (s.fields.map Field.toJson))
  spreadsheetId : (entries.get? "spreadsheetId").getD .null = s.spreadsheetId
  rangeName : (entries.get? "rangeName").getD .null = s.rangeName

namespace DescribedBy

variable {s : Schema} {entries : Entries Json}

/-- The other entries do not matter. -/
theorem congr (h : s.DescribedBy entries) {others : Entries Json}
    (hsame : ∀ key ∈ ["sheetName", "fields", "spreadsheetId", "rangeName"],
      others.get? key = entries.get? key) : s.DescribedBy others where
  sheetName := by rw [hsame _ (by simp), h.sheetName]
  fields := by rw [hsame _ (by simp), h.fields]
  spreadsheetId := by rw [hsame _ (by simp), h.spreadsheetId]
  rangeName := by rw [hsame _ (by simp), h.rangeName]

/-- An entry that a schema does not read may be put. -/
theorem put (h : s.DescribedBy entries) {key : String} (value : Json)
    (hkey : key ∉ ["sheetName", "fields", "spreadsheetId", "rangeName"]) :
    s.DescribedBy (entries.put key value) :=
  h.congr fun _ hother => Entries.get?_put_of_ne _ _ fun heq => hkey (heq ▸ hother)

/-- An object is read as the schema that it describes. -/
theorem ofJson (h : s.DescribedBy entries) : Schema.ofJson (.obj entries) = .ok s := by
  have hmentions : mentionsSheetName (.obj entries) = .ok true := by
    simp [mentionsSheetName, Entries.has, h.sheetName]
  simp only [Schema.ofJson, hmentions, ok_bind, Json.memberD_obj, h.fields, h.spreadsheetId,
    h.rangeName, Option.getD_some, Json.elements_arr, mapM_map_eq_ok Field.ofJson_toJson,
    Json.entry_obj_of_get? h.sheetName, Bool.not_true, Bool.false_eq_true, if_false]
  exact ofValues_eq_ok_iff.mpr ⟨rfl, rfl, rfl, rfl⟩

end DescribedBy

variable {s : Schema} {entries : Entries Json}

/-- A schema has the two ranges or, without fields, none. -/
theorem rangeEntries_cases {ranges : List (String × Json)} (h : s.rangeEntries = .ok ranges) :
    s.fields = [] ∧ ranges = [] ∨
      s.fields ≠ [] ∧ ∃ headerRange dataRange, s.dataRange false = .ok dataRange ∧
        ranges = [("headerRange", .str headerRange), ("dataRange", .str dataRange)] := by
  unfold rangeEntries at h
  split at h
  · next hfields => exact Or.inl ⟨by simpa using hfields, (Except.ok.inj h).symm⟩
  · next hfields =>
    obtain ⟨headerRange, -, h⟩ := bind_eq_ok.mp h
    obtain ⟨dataRange, hdata, h⟩ := bind_eq_ok.mp h
    exact Or.inr ⟨by simpa using hfields, headerRange, dataRange, hdata, (pure_eq_ok.mp h).symm⟩

theorem of_rangeEntries {ranges : List (String × Json)} (h : s.rangeEntries = .ok ranges) :
    ∀ key ∈ ["sheetName", "fields", "spreadsheetId", "rangeName"],
      Entries.get? ranges key = none := by
  rcases rangeEntries_cases h with ⟨-, rfl⟩ | ⟨-, headerRange, dataRange, -, rfl⟩
  · simp
  · simp [Entries.get?_cons]

/-- What is written for a schema describes it. -/
theorem describedBy_of_toEntries (h : s.toEntries = .ok entries) : s.DescribedBy entries := by
  unfold toEntries at h
  obtain ⟨ranges, hranges, h⟩ := bind_eq_ok.mp h
  obtain rfl := pure_eq_ok.mp h
  have hnone := of_rangeEntries hranges
  have hid := Field.getD_optionalEntry "spreadsheetId" s.spreadsheetId
  have hrange := Field.getD_optionalEntry "rangeName" s.rangeName
  constructor
  · rfl
  · rfl
  · simpa [entriesOf, Entries.get?_append, Entries.get?_cons, hnone, Field.get?_optionalEntry]
      using hid
  · simpa [entriesOf, Entries.get?_append, Entries.get?_cons, hnone, Field.get?_optionalEntry]
      using hrange

/-- A schema is read back as it was written. -/
theorem ofJson_toJson {data : Json} (h : s.toJson = .ok data) : Schema.ofJson data = .ok s := by
  obtain ⟨entries, hentries, rfl⟩ := map_eq_ok.mp h
  exact (describedBy_of_toEntries hentries).ofJson

/-- A schema whose ranges can be written is written. -/
theorem exists_toEntries (hrow : s.validate = .ok ())
    (hwritable : Decimal.isWritable ((s.headerRow.value + 1 : Nat) : Int) = true) :
    ∃ entries, s.toEntries = .ok entries := by
  have hranges : ∃ ranges, s.rangeEntries = .ok ranges := by
    unfold rangeEntries
    split
    · exact ⟨_, rfl⟩
    · next hfields =>
      obtain ⟨lo, hi, hspan⟩ := exists_columnSpan? (s := s) (by simpa using hfields)
      obtain ⟨row, hheader⟩ := exists_written hwritable
      rw [headerRange_eq hrow hspan, hheader, dataRange_eq_rangeOf hrow hspan,
        A1.rangeOf_open hwritable]
      exact ⟨_, rfl⟩
  obtain ⟨ranges, hranges⟩ := hranges
  exact ⟨_, by rw [toEntries, hranges]; rfl⟩

/-- A schema is written only if the first row of its data can be. -/
theorem isWritable_of_toEntries (hrow : s.validate = .ok ()) (h : s.toEntries = .ok entries) :
    Decimal.isWritable ((s.headerRow.value + 1 : Nat) : Int) = true := by
  obtain ⟨ranges, hranges, -⟩ := bind_eq_ok.mp h
  rcases rangeEntries_cases hranges with ⟨hfields, -⟩ | ⟨hfields, _, _, hdata, -⟩
  · rw [headerRow_of_nil hfields]
    decide +kernel
  · obtain ⟨lo, hi, hspan⟩ := exists_columnSpan? hfields
    rw [dataRange_eq_rangeOf hrow hspan] at hdata
    exact A1.isWritable_of_rangeOf hdata

end SheetSchema.Schema
