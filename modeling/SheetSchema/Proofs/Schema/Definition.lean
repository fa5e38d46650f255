import Mathlib
import SheetSchema.Proofs.A1.Numbering
import SheetSchema.Proofs.Schema.Field
import SheetSchema.Proofs.Schema.Misreading

/-!
# Definitions of fields

A field is defined by an object with a name, which is an identifier, a column, which is made of
letters, and perhaps one of the four types and a row, which is a positive number (`IsDefinition`).
Everything else should be refused as not valid.

What is read as a field is a little more (`IsAdmitted`): a name may have a line end behind it, the
letters of a column may be ones whose capitals are letters of ASCII, and the row may be the truth
value that counts as one. `ofJson_obj_admits` says that an object is read exactly if it is admitted
in this sense, that it is refused as not valid otherwise, and that an admitted object is a
definition unless one of these three is in it (`IsLoose`).
-/

namespace SheetSchema.Field

variable {entries : Entries Json} {f : Field}

/-! ## What defines a field -/

/-- The object has a name and a column, and if it has a type or a row, these are such as well. -/
structure HasParts (isName isColumn : List Char → Prop) (isRow : Json → Prop)
    (entries : Entries Json) : Prop where
  name : ∃ s, entries.get? "name" = some (.str s) ∧ isName s.toList
  type : ∀ given ∈ entries.get? "type", ∃ type : FieldType, given = .str type.name
  column : ∃ s, entries.get? "column" = some (.str s) ∧ isColumn (Text.trim s.toList)
  row : ∀ given ∈ entries.get? "row", isRow given

/-- The object is a definition of a field. -/
def IsDefinition (entries : Entries Json) : Prop :=
  HasParts IsIdentifier Column.IsWord (fun given => ∃ n : ℤ, 1 ≤ n ∧ given = .int n) entries

/-- An identifier, or an identifier and a line end. -/
def PassesForName (s : List Char) : Prop :=
  IsIdentifier s ∨ ∃ t, s = t ++ ['\n'] ∧ IsIdentifier t

/-- Characters whose capitals are letters, and at least one. -/
def PassesForColumn (s : List Char) : Prop :=
  s ≠ [] ∧ ∀ c ∈ s, c.isAlpha = true ∨ c.toNat ∈ Text.foreignLetters

/-- A positive number, or the truth value that counts as one. -/
def PassesForRow (given : Json) : Prop :=
  (∃ n : ℤ, 1 ≤ n ∧ given = .int n) ∨ given = .bool true

/-- The object has parts that pass for those of a definition. -/
def IsAdmitted (entries : Entries Json) : Prop :=
  HasParts PassesForName PassesForColumn PassesForRow entries

/-- The object has a part that is let pass. -/
inductive IsLoose (entries : Entries Json) : Prop
  | lineEnd {s : String} (hname : entries.get? "name" = some (.str s))
      (h : s.toList.getLast? = some '\n') : IsLoose entries
  | letter {s : String} {c : Char} (hcolumn : entries.get? "column" = some (.str s))
      (hc : c ∈ Text.trim s.toList) (h : c.toNat ∈ Text.foreignLetters) : IsLoose entries
  | flag (hrow : entries.get? "row" = some (.bool true)) : IsLoose entries

/-! ## The parts of a definition -/

theorem isName_iff {s : List Char} : isName s = true ↔ PassesForName s := by
  rw [isName_iff_withoutFinalNewline, PassesForName]
  by_cases hlast : s.getLast? = some '\n'
  · obtain ⟨t, rfl⟩ := List.getLast?_eq_some_iff.mp hlast
    rw [Text.withoutFinalNewline_concat]
    constructor
    · exact fun h => .inr ⟨t, rfl, h⟩
    · rintro (h | ⟨u, hu, h⟩)
      · exact absurd hlast h.getLast?_ne
      · rwa [List.append_cancel_right hu]
  · rw [Text.withoutFinalNewline_eq_self hlast]
    constructor
    · exact .inl
    · rintro (h | ⟨u, rfl, -⟩)
      · exact h
      · exact absurd List.getLast?_concat hlast

theorem isCapitals_upper_iff {s : List Char} :
    Column.isCapitals (Text.upper s) = true ↔ PassesForColumn s := by
  have hnil : Text.upper s = [] ↔ s = [] := by
    rw [Text.upper, List.flatMap_eq_nil_iff, List.eq_nil_iff_forall_not_mem]
    exact forall₂_congr fun c _ => iff_false_intro (Text.upperChar_ne_nil c)
  have hall : (Text.upper s).all Char.isUpper = true ↔
      ∀ c ∈ s, (Text.upperChar c).all Char.isUpper = true := by
    simp only [Text.upper, List.all_flatMap, List.all_eq_true]
  simp only [Column.isCapitals, PassesForColumn, Bool.and_eq_true, Bool.not_eq_true',
    List.isEmpty_eq_false_iff, ne_eq, hnil, hall, Text.all_isUpper_upperChar_iff]

theorem ofJson?_eq_some_iff {given : Json} {type : FieldType} :
    FieldType.ofJson? given = some type ↔ given = .str type.name := by
  constructor
  · intro h
    exact (beq_iff_eq.mp (List.find?_some h :)).symm
  · rintro rfl
    exact ofJson?_name type

theorem exists_headerRow_iff {given : Json} :
    (∃ row, HeaderRow.ofJson? given = some row) ↔ PassesForRow given := by
  simp only [HeaderRow.ofJson?_eq_some_iff]
  constructor
  · rintro ⟨row, rfl⟩
    cases row with
    | number n pos => exact .inl ⟨n, by omega, rfl⟩
    | flag => exact .inr rfl
  · rintro (⟨n, hn, rfl⟩ | rfl)
    · exact ⟨.number n.toNat (by omega), congrArg Json.int (by omega)⟩
    · exact ⟨.flag, rfl⟩

/-! ## Reading a definition -/

theorem demand_obj_eq_ok_iff {key : String} {value : Json} :
    demand (.obj entries) key = .ok value ↔ entries.get? key = some value := by
  rw [demand, Json.entry]
  cases entries.get? key <;> simp [Except.mapError]

/-- Values make a field if and only if each passes for its part. -/
theorem exists_ofValues_iff {name type column row format description : Json} {required : Bool} :
    (∃ f, ofValues name type column row required format description = .ok f) ↔
      (∃ s, name = .str s ∧ PassesForName s.toList) ∧ (∃ t : FieldType, type = .str t.name) ∧
      (∃ s, column = .str s ∧ PassesForColumn (Text.trim s.toList)) ∧ PassesForRow row := by
  simp only [ofValues_eq_ok_iff, ← isName_iff, ← isCapitals_upper_iff, ← exists_headerRow_iff,
    ← ofJson?_eq_some_iff]
  constructor
  · rintro ⟨f, hname, htype, ⟨letters, hcolumn, hletters⟩, hrow, -⟩
    exact ⟨⟨_, hname, f.name_valid⟩, ⟨_, htype⟩, ⟨letters, hcolumn, hletters ▸ f.column_capitals⟩,
      ⟨_, hrow⟩⟩
  · rintro ⟨⟨s, hs, hname⟩, ⟨type, htype⟩, ⟨letters, hletters, hcolumn⟩, ⟨row, hrow⟩⟩
    refine ⟨{ name := s, type, column := String.ofList (Text.upper (Text.trim letters.toList)), row,
              required, format, description, name_valid := hname, column_capitals := ?_ },
      hs, htype, ⟨letters, hletters, ?_⟩, hrow, rfl, rfl, rfl⟩
    · rwa [String.toList_ofList]
    · rw [String.toList_ofList]

/-- What holds of a default holds of a value with that default if and only if it holds of the value
where that is given. -/
theorem getD_iff {P : Json → Prop} {value? : Option Json} {default : Json} (hdefault : P default) :
    P (value?.getD default) ↔ ∀ given ∈ value?, P given := by
  cases value? with
  | none => simpa using hdefault
  | some given => simp

/-- An object is read as a field if and only if it is admitted. -/
theorem exists_ofJson_obj_iff : (∃ f, ofJson (.obj entries) = .ok f) ↔ IsAdmitted entries := by
  have htype : (∃ t : FieldType, (entries.get? "type").getD (.str "string") = .str t.name) ↔
      ∀ given ∈ entries.get? "type", ∃ t : FieldType, given = .str t.name :=
    getD_iff (P := fun given => ∃ t : FieldType, given = .str t.name) ⟨.string, rfl⟩
  have hrow : PassesForRow ((entries.get? "row").getD (.int 1)) ↔
      ∀ given ∈ entries.get? "row", PassesForRow given := getD_iff (.inl ⟨1, le_rfl, rfl⟩)
  simp only [ofJson, bind_eq_ok, demand_obj_eq_ok_iff, Json.memberD_obj, ok_bind]
  constructor
  · rintro ⟨f, name, hname, column, hcolumn, h⟩
    obtain ⟨⟨s, rfl, hs⟩, ht, ⟨letters, rfl, hletters⟩, hr⟩ := exists_ofValues_iff.mp ⟨f, h⟩
    exact ⟨⟨s, hname, hs⟩, htype.mp ht, ⟨letters, hcolumn, hletters⟩, hrow.mp hr⟩
  · rintro ⟨⟨s, hname, hs⟩, ht, ⟨letters, hcolumn, hletters⟩, hr⟩
    obtain ⟨f, hf⟩ := exists_ofValues_iff.mpr
      ⟨⟨s, rfl, hs⟩, htype.mpr ht, ⟨letters, rfl, hletters⟩, hrow.mpr hr⟩
    exact ⟨f, _, hname, _, hcolumn, hf⟩

/-- The column of a field is the given one, trimmed and capitalized. -/
theorem column_of_ofJson_obj (h : ofJson (.obj entries) = .ok f) :
    ∃ given, entries.get? "column" = some (.str given) ∧
      f.column = String.ofList (Text.upper (Text.trim given.toList)) := by
  simp only [ofJson, bind_eq_ok, demand_obj_eq_ok_iff, Json.memberD_obj, ok_bind,
    ofValues_eq_ok_iff] at h
  obtain ⟨name, -, column, hcolumn, -, -, ⟨given, rfl, hgiven⟩, -⟩ := h
  exact ⟨given, hcolumn, by rw [hgiven, String.ofList_toList]⟩

/-! ## Definitions among the objects that are read -/

theorem not_isAlpha_of_mem_foreignLetters {c : Char} (h : c.toNat ∈ Text.foreignLetters) :
    ¬ c.isAlpha = true := by
  have hbeyond : ∀ n ∈ Text.foreignLetters, 122 < n := by decide
  have := hbeyond _ h
  rw [Text.isAlpha_iff_toNat]
  omega

/-- An object is a definition if and only if it is admitted and nothing of it is let pass. -/
theorem isDefinition_iff : IsDefinition entries ↔ IsAdmitted entries ∧ ¬ IsLoose entries := by
  constructor
  · rintro ⟨⟨s, hname, hs⟩, htype, ⟨letters, hcolumn, hletters⟩, hrow⟩
    refine ⟨⟨⟨s, hname, .inl hs⟩, htype,
      ⟨letters, hcolumn, hletters.1, fun c hc => .inl (hletters.2 c hc)⟩,
      fun given hgiven => .inl (hrow given hgiven)⟩, ?_⟩
    rintro (⟨ht, hlast⟩ | ⟨ht, hc, hforeign⟩ | hflag)
    · cases hname.symm.trans ht
      exact hs.getLast?_ne hlast
    · cases hcolumn.symm.trans ht
      exact not_isAlpha_of_mem_foreignLetters hforeign (hletters.2 _ hc)
    · obtain ⟨n, -, hn⟩ := hrow _ hflag
      cases hn
  · rintro ⟨⟨⟨s, hname, hs⟩, htype, ⟨letters, hcolumn, hne, hletters⟩, hrow⟩, hloose⟩
    refine ⟨⟨s, hname, hs.resolve_right ?_⟩, htype,
      ⟨letters, hcolumn, hne, fun c hc => (hletters c hc).resolve_right fun h =>
        hloose (.letter hcolumn hc h)⟩, fun given hgiven => (hrow given hgiven).resolve_right ?_⟩
    · rintro ⟨t, ht, -⟩
      exact hloose (.lineEnd hname (ht ▸ List.getLast?_concat))
    · rintro rfl
      exact hloose (.flag hgiven)

/-- An object is read as a field if and only if it is admitted, and is refused as not valid
otherwise. The column of the field is the given one, trimmed and capitalized. The admitted objects
are the definitions and those in which a name ends in a line end, a letter of the column is foreign
to ASCII, or the row is a truth value. -/
theorem ofJson_obj_admits (entries : Entries Json) :
    ((∃ f, ofJson (.obj entries) = .ok f) ↔ IsAdmitted entries) ∧
      ¬ Escapes (ofJson (.obj entries)) ∧
      (∀ f, ofJson (.obj entries) = .ok f → ∃ given, entries.get? "column" = some (.str given) ∧
        f.column = String.ofList (Text.upper (Text.trim given.toList))) ∧
      (IsDefinition entries ↔ IsAdmitted entries ∧ ¬ IsLoose entries) :=
  ⟨exists_ofJson_obj_iff, fun h => escapes_ofJson_iff.mp h entries rfl,
    fun _ => column_of_ofJson_obj, isDefinition_iff⟩

/-- A line end, a sharp s and a truth value are let pass. -/
theorem admits_loose :
    (∃ f, ofJson (.obj [("name", .str "id\n"), ("column", .str "A")]) = .ok f) ∧
      ¬ IsDefinition [("name", .str "id\n"), ("column", .str "A")] ∧
      (∃ f, ofJson (.obj [("name", .str "id"), ("column", .str "ß")]) = .ok f) ∧
      ¬ IsDefinition [("name", .str "id"), ("column", .str "ß")] ∧
      (∃ f, ofJson (.obj [("name", .str "id"), ("column", .str "A"), ("row", .bool true)]) =
        .ok f) ∧
      ¬ IsDefinition [("name", .str "id"), ("column", .str "A"), ("row", .bool true)] := by
  have hread : ∀ data : Json, (ofJson data).toOption.isSome = true → ∃ f, ofJson data = .ok f := by
    intro data h
    cases hdata : ofJson data with
    | ok f => exact ⟨f, rfl⟩
    | error e => simp [hdata, Except.toOption] at h
  refine ⟨hread _ (by decide +kernel), fun h => ?_, hread _ (by decide +kernel), fun h => ?_,
    hread _ (by decide +kernel), fun h => ?_⟩
  · exact ((ofJson_obj_admits _).2.2.2.mp h).2 (.lineEnd rfl (by decide))
  · exact ((ofJson_obj_admits _).2.2.2.mp h).2
      (.letter rfl (List.mem_singleton_self 'ß') (by decide))
  · exact ((ofJson_obj_admits _).2.2.2.mp h).2 (.flag rfl)

end SheetSchema.Field
