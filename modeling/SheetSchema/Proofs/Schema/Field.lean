import Mathlib
import SheetSchema.Schema.Field
import SheetSchema.Proofs.A1.Column
import SheetSchema.Proofs.Json.Access
import SheetSchema.Proofs.Name.Camel
import SheetSchema.Proofs.Text.Cut

/-!
# Fields as they are read

A field is made of exactly the values that it keeps, the column trimmed and in capitals
(`ofValues_eq_ok_iff`), so a field is read back as it was written (`ofJson_toJson`). Identifiers in
lower camel case are field names (`isName_of_isLowerCamel`). A storage format is refused for one
cause only, a boolean field that has one that is no text (`checkFormat_eq_ok_iff`).
-/

namespace SheetSchema.Field

/-! ## Names -/

/-- Letters, underscores, dollar signs and digits, of which no digit is the first. -/
def IsIdentifier (s : List Char) : Prop :=
  ∃ c rest, s = c :: rest ∧ isNameStart c = true ∧ ∀ d ∈ rest, isNamePart d = true

theorem IsIdentifier.getLast?_ne {s : List Char} (h : IsIdentifier s) :
    s.getLast? ≠ some '\n' := by
  obtain ⟨c, rest, rfl, hc, hrest⟩ := h
  intro hlast
  rcases List.mem_cons.mp (List.mem_of_getLast? hlast) with rfl | hmem
  · cases hc
  · cases hrest _ hmem

theorem isName_iff_withoutFinalNewline {s : List Char} :
    isName s = true ↔ IsIdentifier (Text.withoutFinalNewline s) := by
  unfold isName IsIdentifier
  cases Text.withoutFinalNewline s with
  | nil => simp
  | cons c rest => simp [and_comm]

theorem IsIdentifier.isNamePart_of_mem {s : List Char} (h : IsIdentifier s) {c : Char}
    (hc : c ∈ s) : isNamePart c = true := by
  obtain ⟨d, rest, rfl, hd, hrest⟩ := h
  rcases List.mem_cons.mp hc with rfl | hc
  · simp only [isNameStart, Bool.or_eq_true] at hd
    simp only [isNamePart, Char.isAlphanum, Bool.or_eq_true]
    tauto
  · exact hrest c hc

theorem isNamePart_of_mem_name (f : Field) {c : Char} (hc : c ∈ f.name.toList) :
    isNamePart c = true ∨ c = '\n' := by
  have hname := isName_iff_withoutFinalNewline.mp f.name_valid
  by_cases hlast : f.name.toList.getLast? = some '\n'
  · obtain ⟨t, ht⟩ := List.getLast?_eq_some_iff.mp hlast
    rw [ht, Text.withoutFinalNewline_concat] at hname
    rw [ht, List.mem_append, List.mem_singleton] at hc
    exact hc.imp_left hname.isNamePart_of_mem
  · rw [Text.withoutFinalNewline_eq_self hlast] at hname
    exact .inl (hname.isNamePart_of_mem hc)

/-- An identifier in lower camel case is a field name. -/
theorem isName_of_isLowerCamel {s : List Char} (hs : Name.isLowerCamel s = true) :
    isName s = true := by
  cases s with
  | nil => simp [Name.isLowerCamel] at hs
  | cons c rest =>
    simp only [Name.isLowerCamel, Bool.and_eq_true, List.all_eq_true] at hs
    have hident : IsIdentifier (c :: rest) :=
      ⟨c, rest, rfl, by simp [isNameStart, Char.isAlpha, hs.1],
        fun d hd => by simp [isNamePart, hs.2 d hd]⟩
    rwa [isName_iff_withoutFinalNewline, Text.withoutFinalNewline_eq_self hident.getLast?_ne]

/-! ## Reading -/

theorem nameOf_eq_ok_iff {given : Json} {name : ValidName} :
    nameOf given = .ok name ↔ given = .str name.val := by
  constructor
  · intro h
    unfold nameOf at h
    split at h
    · split at h
      · rw [← Except.ok.inj h]
      · cases h
    · cases h
  · rintro rfl
    rw [nameOf, dif_pos name.property]

theorem typeOf_eq_ok_iff {name : String} {given : Json} {type : FieldType} :
    typeOf name given = .ok type ↔ FieldType.ofJson? given = some type := by
  unfold typeOf
  split
  · next found hfound => rw [hfound, Except.ok.injEq, Option.some.injEq]
  · next hnone => simp [hnone]

theorem columnOf_eq_ok_iff {given : Json} {column : ColumnLetters} :
    columnOf given = .ok column ↔ ∃ letters, given = .str letters ∧
      Text.upper (Text.trim letters.toList) = column.val.toList := by
  constructor
  · intro h
    unfold columnOf at h
    split at h
    · next letters =>
      simp only at h
      split at h
      · refine ⟨letters, rfl, ?_⟩
        rw [← Except.ok.inj h, String.toList_ofList]
      · cases h
    · cases h
  · rintro ⟨letters, rfl, hletters⟩
    have hval : String.ofList (Text.upper (Text.trim letters.toList)) = column.val := by
      rw [hletters, String.ofList_toList]
    unfold columnOf
    simp only
    rw [dif_pos (by rw [hval]; exact column.property)]
    exact congrArg Except.ok (Subtype.ext hval)

theorem rowOf_eq_ok_iff {name : String} {given : Json} {row : HeaderRow} :
    rowOf name given = .ok row ↔ HeaderRow.ofJson? given = some row := by
  unfold rowOf
  split
  · next found hfound => rw [hfound, Except.ok.injEq, Option.some.injEq]
  · next hnone => simp [hnone]

/-- A field is made of the values that it keeps. -/
theorem ofValues_eq_ok_iff {name type column row format description : Json} {required : Bool}
    {f : Field} : ofValues name type column row required format description = .ok f ↔
      name = .str f.name ∧ FieldType.ofJson? type = some f.type ∧
      (∃ letters, column = .str letters ∧
        Text.upper (Text.trim letters.toList) = f.column.toList) ∧
      HeaderRow.ofJson? row = some f.row ∧ f.required = required ∧ f.format = format ∧
      f.description = description := by
  simp only [ofValues, bind_eq_ok, nameOf_eq_ok_iff, typeOf_eq_ok_iff, columnOf_eq_ok_iff,
    rowOf_eq_ok_iff, pure_eq_ok]
  constructor
  · rintro ⟨name, rfl, type, htype, column, hcolumn, row, hrow, rfl⟩
    exact ⟨rfl, htype, hcolumn, hrow, rfl, rfl, rfl⟩
  · rintro ⟨rfl, htype, hcolumn, hrow, rfl, rfl, rfl⟩
    exact ⟨⟨f.name, f.name_valid⟩, rfl, f.type, htype, ⟨f.column, f.column_capitals⟩, hcolumn,
      f.row, hrow, rfl⟩

theorem upper_trim_of_isCapitals {s : List Char} (h : Column.isCapitals s = true) :
    Text.upper (Text.trim s) = s := by
  simp only [Column.isCapitals, Bool.and_eq_true] at h
  have hall : ∀ c ∈ s, c.isAlphanum = true := fun c hc =>
    Text.isAlphanum_of_isUpper (List.all_eq_true.mp h.2 c hc)
  rw [Text.trim_of_isAlphanum hall, Text.upper_eq_self h.2]

@[simp] theorem ofJson?_name (type : FieldType) :
    FieldType.ofJson? (.str type.name) = some type := by
  cases type <;> decide

/-! ## Reading back -/

theorem get?_optionalEntry (key : String) (value : Json) (other : String) :
    Entries.get? (optionalEntry key value) other =
      if value.present ∧ key = other then some value else none := by
  unfold optionalEntry
  split
  · next h => simp [Entries.get?_cons, h]
  · next h => simp [h]

/-- A value that is left out if it is not given reads as it is. -/
theorem getD_optionalEntry (key : String) (value : Json) :
    (Entries.get? (optionalEntry key value) key).getD .null = value := by
  cases value <;> simp [get?_optionalEntry, Json.present]

/-- What the optional entries of a written field read as. -/
theorem getD_entriesOf (name type column row : Json) (required : Bool) (format description : Json) :
    let entries := entriesOf name type column row required format description
    ((entries.get? "required").getD (.bool false)).truthy = required ∧
      (entries.get? "storage_format").getD .null = .null ∧
      (entries.get? "sheetsFormat").getD .null = format ∧
      (entries.get? "description").getD .null = description := by
  have hformat := getD_optionalEntry "sheetsFormat" format
  have hdescription := getD_optionalEntry "description" description
  cases required <;>
    simp [entriesOf, Entries.get?_append, Entries.get?_cons, get?_optionalEntry] at * <;>
    simp [Json.truthy, hformat, hdescription]

/-- A field is read back as it was written. -/
theorem ofJson_toJson (f : Field) : ofJson f.toJson = .ok f := by
  have hname : demand f.toJson "name" = .ok (.str f.name) := rfl
  have htype : f.toJson.memberD "type" (.str "string") = .ok (.str f.type.name) := rfl
  have hcolumn : demand f.toJson "column" = .ok (.str f.column) := rfl
  have hrow : f.toJson.memberD "row" (.int 1) = .ok f.row.toJson := rfl
  obtain ⟨hrequired, hstorage, hformat, hdescription⟩ := getD_entriesOf (.str f.name)
    (.str f.type.name) (.str f.column) f.row.toJson f.required f.format f.description
  simp only [ofJson, hname, htype, hcolumn, hrow, ok_bind]
  rw [toJson]
  simp only [Json.memberD_obj, ok_bind, hrequired, hstorage, hformat, hdescription]
  exact ofValues_eq_ok_iff.mpr ⟨rfl, ofJson?_name f.type,
    ⟨f.column, rfl, upper_trim_of_isCapitals f.column_capitals⟩, HeaderRow.ofJson?_toJson f.row,
    rfl, rfl, rfl⟩

/-! ## Storage formats -/

theorem checkFormat_eq (f : Field) :
    f.checkFormat = .ok () ∨ f.checkFormat = .error .missingMember := by
  unfold checkFormat
  split
  · exact Or.inl rfl
  · split
    · exact Or.inr rfl
    · exact Or.inl rfl

theorem checkFormat_eq_ok_iff {f : Field} : f.checkFormat = .ok () ↔
    (f.type = .boolean → f.format.truthy = true → ∃ text, f.format = .str text) := by
  unfold checkFormat
  split
  · next text htext => simp [htext]
  · next hne =>
    split
    · next h => simpa [h.1, h.2] using hne
    · next h => simpa using fun htype htruthy => absurd ⟨htype, htruthy⟩ h

end SheetSchema.Field
