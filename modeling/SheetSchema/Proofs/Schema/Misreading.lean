import Mathlib
import SheetSchema.Schema.Document
import SheetSchema.Proofs.Json.Access
import SheetSchema.Proofs.Refusal
import SheetSchema.Proofs.Text.Cut

/-!
# Documents that are not refused as they should be

A document that holds no schema is refused as not valid wherever a name, a type, a column or a row
is at fault. It is refused in another way where a part of it is looked into before its kind is
known. `Schema.IsMisread` lists these parts: the schema itself, the value that stands for its
fields, and the first field that is read in vain, if it is no object. `Schema.escapes_ofJson_iff`
says that there are no others.

A document is misread if it is no object, or if it has the right version and its schema is misread
(`Document.IsMisread`). So `Document.escapes_iff` tells of every value and of every text whether it
is refused otherwise than as not valid; a text may also exceed a limit of the reader.
-/

namespace SheetSchema

/-! ## Looking into values -/

namespace Json

/-- The value has no parts: it is `null`, a truth value or a number. -/
def IsAtom : Json → Prop
  | .null | .bool _ | .int _ | .float _ => True
  | .str _ | .arr _ | .obj _ => False

/-- Only atoms cannot be taken apart. -/
theorem escapes_elements_iff {value : Json} : Escapes value.elements ↔ value.IsAtom := by
  cases value <;> simp [elements, IsAtom, Error.category]

end Json

/-! ## Fields -/

namespace Field

theorem not_escapes_ofValues (name type column row : Json) (required : Bool)
    (format description : Json) :
    ¬ Escapes (ofValues name type column row required format description) := by
  have hname : ¬ Escapes (nameOf name) := by
    unfold nameOf
    split
    · split <;> simp [Error.category]
    · simp [Error.category]
  have htype : ∀ name, ¬ Escapes (typeOf name type) := fun name => by
    unfold typeOf
    split <;> simp [Error.category]
  have hcolumn : ¬ Escapes (columnOf column) := by
    unfold columnOf
    split
    · dsimp only
      split <;> simp [Error.category]
    · simp [Error.category]
  have hrow : ∀ name, ¬ Escapes (rowOf name row) := fun name => by
    unfold rowOf
    split <;> simp [Error.category]
  simp only [ofValues, escapes_bind_iff, escapes_pure_iff, hname, htype, hcolumn, hrow, and_false,
    exists_false, or_false, not_false_iff]

theorem not_escapes_demand_obj (entries : Entries Json) (key : String) :
    ¬ Escapes (demand (.obj entries) key) := by
  rw [demand, Json.entry]
  cases entries.get? key <;> simp [Except.mapError, Error.category]

/-- A field that is no object is refused otherwise than as not valid, and no other one is. -/
theorem escapes_ofJson_iff {data : Json} :
    Escapes (ofJson data) ↔ ∀ entries, data ≠ .obj entries := by
  cases data with
  | obj entries =>
    simp only [ofJson, escapes_bind_iff, not_escapes_demand_obj, Json.memberD_obj, escapes_ok_iff,
      not_escapes_ofValues, and_false, exists_false, or_false, ne_eq, Json.obj.injEq, false_iff,
      not_forall, not_not, exists_eq']
  | _ => simp [ofJson, demand, Json.entry, Except.mapError, Error.category]

end Field

/-! ## Schemas -/

namespace Schema

/-- Where a schema is looked into before the kind of a value is known. -/
inductive IsMisread : Json → Prop
  | atom {data : Json} (h : data.IsAtom) : IsMisread data
  | list {items : List Json} (h : .str "sheetName" ∈ items) : IsMisread (.arr items)
  | text {s : String} (h : "sheetName".toList <:+: s.toList) : IsMisread (.str s)
  | fields {entries : Entries Json} {value : Json} (hname : entries.has "sheetName" = true)
      (hvalue : entries.get? "fields" = some value) (h : value.IsAtom) : IsMisread (.obj entries)
  | field {entries : Entries Json} {value : Json} {before : List Json} {part : Json}
      {after : List Json} (hname : entries.has "sheetName" = true)
      (hvalue : entries.get? "fields" = some value)
      (hparts : value.elements = .ok (before ++ part :: after))
      (hbefore : ∀ b ∈ before, ∃ f, Field.ofJson b = .ok f) (h : ∀ e, part ≠ .obj e) :
      IsMisread (.obj entries)

theorem not_escapes_ofValues (fields : List Field) (sheetName spreadsheetId rangeName : Json) :
    ¬ Escapes (ofValues fields sheetName spreadsheetId rangeName) := by
  have hname : ¬ Escapes (sheetNameOf sheetName) := by
    unfold sheetNameOf
    split
    · split <;> simp [Error.category]
    · simp [Error.category]
  simp only [ofValues, escapes_bind_iff, escapes_pure_iff, hname, and_false, exists_false, or_false,
    not_false_iff]

theorem ofJson_of_not_mentions {data : Json} (h : mentionsSheetName data = .ok false) :
    ofJson data = .error .sheetNameMissing := by
  rw [ofJson, h]
  rfl

/-- What is asked for a sheet name and is no object cannot be asked for its fields. -/
theorem escapes_ofJson_of_mentions {data : Json} {mentioned : Bool}
    (hkind : ∀ key default, data.memberD key default = .error .missingMember)
    (h : mentionsSheetName data = .ok mentioned) : Escapes (ofJson data) ↔ mentioned = true := by
  cases mentioned with
  | false => simp [ofJson_of_not_mentions h, Error.category]
  | true =>
    have hrefused : ofJson data = .error .missingMember := by
      rw [ofJson, h, ok_bind, hkind]
      rfl
    simp [hrefused, Error.category]

/-- An object with a sheet name is refused otherwise than as not valid exactly if its fields are. -/
theorem escapes_ofJson_obj_iff {entries : Entries Json} :
    Escapes (ofJson (.obj entries)) ↔ entries.has "sheetName" = true ∧
      Escapes (((entries.get? "fields").getD (.arr [])).elements >>= (·.mapM Field.ofJson)) := by
  cases hname : entries.has "sheetName" with
  | false =>
    have hmentions : mentionsSheetName (.obj entries) = .ok false := congrArg Except.ok hname
    simp [ofJson_of_not_mentions hmentions, Error.category]
  | true =>
    have hmentions : mentionsSheetName (.obj entries) = .ok true := congrArg Except.ok hname
    obtain ⟨name, hget⟩ := Option.isSome_iff_exists.mp hname
    simp only [ofJson, hmentions, ok_bind, Bool.not_true, Bool.false_eq_true, if_false,
      Json.memberD_obj, Json.entry_obj_of_get? hget, true_and, escapes_bind_iff,
      not_escapes_ofValues, and_false, exists_false, or_false]

/-- The fields of an object escape exactly if their value has no parts or a part is no object. -/
theorem escapes_fields_iff {entries : Entries Json} :
    Escapes (((entries.get? "fields").getD (.arr [])).elements >>= (·.mapM Field.ofJson)) ↔
      ∃ value, entries.get? "fields" = some value ∧ (value.IsAtom ∨
        ∃ before part after, value.elements = .ok (before ++ part :: after) ∧
          (∀ b ∈ before, ∃ f, Field.ofJson b = .ok f) ∧ ∀ e, part ≠ .obj e) := by
  cases entries.get? "fields" with
  | none => simp
  | some value =>
    simp only [Option.getD_some, escapes_bind_iff, Json.escapes_elements_iff, escapes_mapM_iff,
      Field.escapes_ofJson_iff, Option.some.injEq, exists_eq_left']
    refine or_congr_right ⟨?_, ?_⟩
    · rintro ⟨parts, hparts, before, part, after, rfl, hbefore, h⟩
      exact ⟨before, part, after, hparts, hbefore, h⟩
    · rintro ⟨before, part, after, hparts, hbefore, h⟩
      exact ⟨_, hparts, before, part, after, rfl, hbefore, h⟩

/-- A schema is refused otherwise than as not valid if and only if it is misread. -/
theorem escapes_ofJson_iff {data : Json} : Escapes (ofJson data) ↔ IsMisread data := by
  have hlist : ∀ items, Escapes (ofJson (.arr items)) ↔ .str "sheetName" ∈ items := fun items =>
    (escapes_ofJson_of_mentions (fun _ _ => rfl) rfl).trans List.contains_iff_mem
  have htext : ∀ s : String,
      Escapes (ofJson (.str s)) ↔ "sheetName".toList <:+: s.toList := fun s =>
    (escapes_ofJson_of_mentions (fun _ _ => rfl) rfl).trans Text.occursIn_iff
  constructor
  · intro h
    cases data with
    | obj entries =>
      obtain ⟨hname, hfields⟩ := escapes_ofJson_obj_iff.mp h
      obtain ⟨value, hvalue, hatom | ⟨before, part, after, hparts, hbefore, hpart⟩⟩ :=
        escapes_fields_iff.mp hfields
      · exact .fields hname hvalue hatom
      · exact .field hname hvalue hparts hbefore hpart
    | arr items => exact .list ((hlist items).mp h)
    | str s => exact .text ((htext s).mp h)
    | _ => exact .atom trivial
  · intro h
    cases h with
    | @atom data h => cases data <;> first | exact h.elim | exact ⟨_, rfl, by decide⟩
    | list h => exact (hlist _).mpr h
    | text h => exact (htext _).mpr h
    | fields hname hvalue h =>
      exact escapes_ofJson_obj_iff.mpr ⟨hname, escapes_fields_iff.mpr ⟨_, hvalue, .inl h⟩⟩
    | field hname hvalue hparts hbefore h =>
      exact escapes_ofJson_obj_iff.mpr
        ⟨hname, escapes_fields_iff.mpr ⟨_, hvalue, .inr ⟨_, _, _, hparts, hbefore, h⟩⟩⟩

end Schema

/-! ## Documents -/

/-- The text cannot be read for its size, and not for a fault in it. -/
def JsonFault.IsLimit : JsonFault → Prop
  | .nestedTooDeep | .numeralTooLong _ => True
  | _ => False

theorem Error.category_ofJsonError_iff {e : JsonError} :
    (Error.ofJsonError e).category ≠ .validation ↔ e.fault.IsLimit := by
  cases h : e.fault <;> simp [ofJsonError, h, category, JsonFault.IsLimit]

namespace Document

/-- Where a document is looked into before the kind of a value is known. -/
inductive IsMisread : Json → Prop
  | kind {data : Json} (h : ∀ entries, data ≠ .obj entries) : IsMisread data
  | schema {entries : Entries Json} {value : Json}
      (hversion : entries.get? "version" = some (.str version))
      (hvalue : entries.get? "schema" = some value) (h : Schema.IsMisread value) :
      IsMisread (.obj entries)

/-- A document is refused otherwise than as not valid if and only if it is misread. -/
theorem escapes_schema_iff {data : Json} : Escapes (schema data) ↔ IsMisread data := by
  constructor
  · intro h
    cases data with
    | obj entries =>
      unfold schema at h
      dsimp only at h
      split at h
      · simp [Error.category] at h
      · simp [Error.category] at h
      · next found value hversion hvalue =>
        split at h
        · next hfound => exact .schema (hfound ▸ hversion) hvalue (Schema.escapes_ofJson_iff.mp h)
        · simp [Error.category] at h
    | _ => exact .kind (by simp)
  · intro h
    cases h with
    | kind h =>
      cases data with
      | obj entries => exact absurd rfl (h entries)
      | _ => exact ⟨_, rfl, by simp [Error.category]⟩
    | schema hversion hvalue h =>
      simpa [schema, hversion, hvalue] using Schema.escapes_ofJson_iff.mpr h

/-- A document is refused otherwise than as not valid if and only if it is misread, and so is the
text of a document that is misread. No other text is, except for its size. -/
theorem escapes_iff (data : Json) (text : String) :
    (Escapes (schema data) ↔ IsMisread data) ∧
    (Escapes (parse text) ↔ (∃ data, Json.parse text = .ok data ∧ IsMisread data) ∨
      ∃ e, Json.parse text = .error e ∧ e.fault.IsLimit) := by
  refine ⟨escapes_schema_iff, ?_⟩
  unfold parse
  split
  · next data hdata => simp [hdata, escapes_schema_iff]
  · next e he => simp [he, Error.category_ofJsonError_iff]

/-- A document without anything for its schema is not refused as not valid, and neither is the text
of a list. -/
theorem escapes_null_schema :
    Escapes (schema (.obj [("version", .str "1.0"), ("schema", .null)])) ∧
      Escapes (parse "[]") := by
  obtain ⟨hschema, hparse⟩ :=
    escapes_iff (.obj [("version", .str "1.0"), ("schema", .null)]) "[]"
  exact ⟨hschema.mpr (.schema rfl rfl (.atom trivial)),
    hparse.mpr (Or.inl ⟨.arr [], by decide +kernel, .kind nofun⟩)⟩

end Document

end SheetSchema
