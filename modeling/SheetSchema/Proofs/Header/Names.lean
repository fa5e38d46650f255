import Mathlib
import SheetSchema.Proofs.A1.Numbering
import SheetSchema.Proofs.Header.Fields

/-!
# The names of the fields

Some texts and headers always give fields (`exists_areFieldsOf`), one for each pair of them, in
consecutive columns and in one row. A field is named after its text, its header or its position
(`baseOf`). If an earlier field has that name, the least number from two on that makes it differ
from the names of all earlier fields stands behind it (`IsNamed`).

The search for a number ends since there are more numbers than earlier names
(`isNamed_uniqueName`), and neither the number nor the base can spoil a name: both keep it in lower
camel case (`IsNamed.isLowerCamel`), which is what a field asks of its name.
-/

namespace SheetSchema.Header

/-! ## What the fields are -/

/-- The name that a text and a header ask for at a position: the identifier of the first of them
that is not empty, or the fallback. -/
def baseOf (position : ℕ) (text header : String) : String :=
  Name.camelCase
    (if text ≠ "" then text else if header ≠ "" then header else fallbackName position)
    (fallbackName position)

/-- The name is the base, or the base with the least number from two on behind it that makes the
name differ from all earlier ones. -/
inductive IsNamed (earlier : List String) (base : String) : String → Prop
  | base (h : base ∉ earlier) : IsNamed earlier base base
  | numbered {n : ℕ} (h : base ∈ earlier) (hn : IsLeast {n | 2 ≤ n ∧ s!"{base}{n}" ∉ earlier} n) :
      IsNamed earlier base s!"{base}{n}"

/-- The fields are those of some texts and headers, from a column on and in a row. -/
structure AreFieldsOf (texts headers : List String) (start row : ℤ) (fields : List Field) :
    Prop where
  length : fields.length = min texts.length headers.length
  column : ∀ {k : ℕ} {f}, fields[k]? = some f → Column.lettersOf (start + k) = .ok f.column
  row : ∀ f ∈ fields, f.row.toJson = .int row
  isLowerCamel : ∀ f ∈ fields, Name.isLowerCamel f.name.toList = true
  nodup : (fields.map Field.name).Nodup
  name : ∀ {k : ℕ} {text header f}, texts[k]? = some text → headers[k]? = some header →
    fields[k]? = some f → IsNamed ((fields.take k).map Field.name) (baseOf k text header) f.name

/-! ## Names -/

section Names

variable {earlier : List String} {base name : String}

/-- A name that is made unique is named as it has to be. -/
theorem isNamed_uniqueName (taken : List String) (base : String) :
    IsNamed taken base (uniqueName taken base) := by
  unfold uniqueName
  split
  · next hmem =>
    obtain ⟨m, hm, hle, htaken, -⟩ := exists_firstFree_eq taken base taken.length 2
    have hfree := firstFree_not_mem taken base 2
    rw [hm] at hfree ⊢
    refine .numbered hmem ⟨⟨hle, hfree⟩, fun i ⟨hi, hfreei⟩ => ?_⟩
    by_contra hlt
    exact hfreei (htaken i hi (by omega))
  · next h => exact .base h

example : uniqueName ["name2", "name"] "name" = "name3" := by decide

/-- It does not matter in which order the earlier names are told. -/
theorem IsNamed.of_mem_iff {others : List String} (h : IsNamed earlier base name)
    (hmem : ∀ x, x ∈ earlier ↔ x ∈ others) : IsNamed others base name := by
  cases h with
  | base h => exact .base fun hbase => h ((hmem _).mpr hbase)
  | numbered h hn => exact .numbered ((hmem _).mp h) (by simpa only [hmem] using hn)

/-- A number behind an identifier keeps it in lower camel case. -/
theorem isLowerCamel_numbered (hbase : Name.isLowerCamel base.toList = true) (n : ℕ) :
    Name.isLowerCamel (s!"{base}{n}").toList = true := by
  rw [toList_numbered]
  exact Name.isLowerCamel_append hbase fun c hc =>
    Text.isAlphanum_of_isDigit (Text.isDigit_of_mem_digitsOf hc)

theorem IsNamed.isLowerCamel (h : IsNamed earlier base name)
    (hbase : Name.isLowerCamel base.toList = true) : Name.isLowerCamel name.toList = true := by
  cases h with
  | base => exact hbase
  | numbered => exact isLowerCamel_numbered hbase _

theorem isLowerCamel_fallbackName (position : ℕ) :
    Name.isLowerCamel (fallbackName position).toList = true := by
  have hfield : Name.isLowerCamel "field".toList = true := by decide
  exact isLowerCamel_numbered hfield (position + 1)

theorem isLowerCamel_baseOf (position : ℕ) (text header : String) :
    Name.isLowerCamel (baseOf position text header).toList = true :=
  Name.isLowerCamel_camelCase _ (isLowerCamel_fallbackName position)

/-- Two texts always ask for a name. -/
theorem baseName_str (position : ℕ) (text header : String) :
    baseName position (.str text) (.str header) = .ok (baseOf position text header) := by
  have hgiven : Json.firstGiven [.str text, .str header] (.str (fallbackName position)) =
      .str (if text ≠ "" then text else if header ≠ "" then header else fallbackName position) := by
    have hempty : (Json.str "").truthy = false := rfl
    by_cases htext : text = ""
    · by_cases hheader : header = ""
      · simp [Json.firstGiven, htext, hheader, hempty]
      · have := (Json.truthy_str_iff header).mpr hheader
        simp [Json.firstGiven, htext, hheader, hempty, this]
    · have := (Json.truthy_str_iff text).mpr htext
      simp [Json.firstGiven, htext, this]
  rw [baseName, hgiven]
  rfl

end Names

/-! ## Fields -/

section Fields

variable {start row : ℤ} {lang : Json} {position : ℕ} {taken : List String}
  {items : List (String × String)} {fields : List Field}

/-- The values that some pairs of texts are. -/
def valuesOf (items : List (String × String)) : List (Json × Json) :=
  items.map (Prod.map .str .str)

/-- Pairs of texts always give fields, in columns and a row that there are. -/
theorem exists_fieldsFrom (hstart : 0 ≤ start) (hrow : 1 ≤ row) (lang : Json) (position : ℕ)
    (taken : List String) (items : List (String × String)) :
    ∃ fields, fieldsFrom (.int start) (.int row) lang position taken (valuesOf items) =
      .ok fields := by
  induction items generalizing position taken with
  | nil => exact ⟨[], rfl⟩
  | cons item items ih =>
    obtain ⟨text, header⟩ := item
    let name := uniqueName taken (baseOf position text header)
    have hname : Name.isLowerCamel name.toList = true :=
      (isNamed_uniqueName taken _).isLowerCamel (isLowerCamel_baseOf position text header)
    obtain ⟨more, hmore⟩ := ih (position + 1) (name :: taken)
    have hpos : 0 < row.toNat := by omega
    -- The field can be told, since its name is in lower camel case whatever was taken before it.
    let f : Field :=
      { name
        column := Column.letters (start + position).toNat
        row := .number row.toNat hpos
        description := sourceOf lang (.str header)
        name_valid := Field.isName_of_isLowerCamel hname
        column_capitals := Column.isCapitals_letters _ }
    exact ⟨f :: more, (fieldsFrom_cons_eq_ok_iff hstart).mpr ⟨_, f, more, baseName_str _ _ _, rfl,
      rfl, rfl, dif_pos hpos, rfl, rfl, rfl, hmore, rfl⟩⟩

/-- The field at a position stands in the column at that position, and is named after its texts
apart from the names that are taken and those of the fields before it. -/
theorem getElem?_fieldsFrom (hstart : 0 ≤ start)
    (h : fieldsFrom (.int start) (.int row) lang position taken (valuesOf items) = .ok fields)
    {k : ℕ} {text header : String} {f : Field} (hitem : items[k]? = some (text, header))
    (hf : fields[k]? = some f) :
    f.column = Column.letters (start + position + k).toNat ∧
      f.name = uniqueName (((fields.take k).map Field.name).reverse ++ taken)
        (baseOf (position + k) text header) := by
  -- What is taken grows at its front, so the names before a field stand there in reverse.
  induction items generalizing position taken fields k with
  | nil => cases hitem
  | cons item items ih =>
    obtain ⟨base, g, more, hbase, hname, -, hcolumn, -, -, -, -, hmore, rfl⟩ :=
      (fieldsFrom_cons_eq_ok_iff hstart).mp h
    rw [baseName_str] at hbase
    obtain rfl := Except.ok.inj hbase
    cases k with
    | zero =>
      obtain rfl : item = (text, header) := Option.some.inj hitem
      obtain rfl : g = f := Option.some.inj hf
      simp [hcolumn, hname]
    | succ k =>
      obtain ⟨hfcolumn, hfname⟩ := ih hmore hitem hf
      have hindex : start + (position + 1 : ℕ) + k = start + position + (k + 1 : ℕ) := by
        push_cast
        ring
      rw [hfcolumn, hfname, hindex, Nat.add_right_comm]
      simp [Nat.add_assoc]

theorem length_fieldsFrom (hstart : 0 ≤ start)
    (h : fieldsFrom (.int start) (.int row) lang position taken (valuesOf items) = .ok fields) :
    fields.length = items.length := by
  have := congrArg List.length (columns_fieldsFrom hstart h)
  simpa [valuesOf] using this

/-- What fields that are made of pairs of texts are. -/
theorem areFieldsOf_of_fieldsFrom (hstart : 0 ≤ start) {texts headers : List String}
    (h : fieldsFrom (.int start) (.int row) lang 0 [] (valuesOf (texts.zip headers)) = .ok fields) :
    AreFieldsOf texts headers start row fields := by
  have hlength := length_fieldsFrom hstart h
  have hfield : ∀ {k : ℕ} {text header f}, texts[k]? = some text → headers[k]? = some header →
      fields[k]? = some f → f.column = Column.letters (start + k).toNat ∧
        IsNamed ((fields.take k).map Field.name) (baseOf k text header) f.name := by
    intro k text header f htext hheader hf
    obtain ⟨hcolumn, hname⟩ :=
      getElem?_fieldsFrom hstart h (List.getElem?_zip_eq_some.mpr ⟨htext, hheader⟩) hf
    rw [Nat.cast_zero, add_zero] at hcolumn
    rw [zero_add, List.append_nil] at hname
    exact ⟨hcolumn, hname ▸ (isNamed_uniqueName _ _).of_mem_iff fun x => List.mem_reverse⟩
  have htexts : ∀ {k : ℕ} {f}, fields[k]? = some f →
      ∃ text header, texts[k]? = some text ∧ headers[k]? = some header := by
    intro k f hf
    have hk := (List.getElem?_eq_some_iff.mp hf).1
    rw [hlength, List.length_zip] at hk
    exact ⟨texts[k], headers[k], List.getElem?_eq_getElem _, List.getElem?_eq_getElem _⟩
  exact
    { length := by rw [hlength, List.length_zip]
      column := fun {k f} hf => by
        obtain ⟨text, header, htext, hheader⟩ := htexts hf
        rw [(hfield htext hheader hf).1, Column.lettersOf, if_neg (by omega)]
      row := fun f hf => (HeaderRow.ofJson?_eq_some_iff.mp (rows_fieldsFrom hstart h f hf)).symm
      isLowerCamel := fun f hf => by
        obtain ⟨k, hk⟩ := List.mem_iff_getElem?.mp hf
        obtain ⟨text, header, htext, hheader⟩ := htexts hk
        exact (hfield htext hheader hk).2.isLowerCamel (isLowerCamel_baseOf k text header)
      nodup := (names_fieldsFrom hstart h).1
      name := fun htext hheader hf => (hfield htext hheader hf).2 }

/-- Some texts and headers always give fields, which are those of the texts and headers. -/
theorem exists_areFieldsOf (texts headers : List String) (hstart : 0 ≤ start) (hrow : 1 ≤ row)
    (lang : Json) : ∃ fields,
      fieldsOf (texts.map .str) (headers.map .str) (.int start) (.int row) lang = .ok fields ∧
        AreFieldsOf texts headers start row fields := by
  obtain ⟨fields, h⟩ := exists_fieldsFrom hstart hrow lang 0 [] (texts.zip headers)
  refine ⟨fields, ?_, areFieldsOf_of_fieldsFrom hstart h⟩
  rw [fieldsOf, List.zip_map]
  exact h

/-- Two headers that ask for one name, in the last column of one letter and the first of two. -/
theorem exists_areFieldsOf_repeated : ∃ fields,
    fieldsOf (["Full name", "full name"].map .str) (["氏名", "氏名"].map .str) (.int 25) (.int 3)
      (.str "ja") = .ok fields ∧
    AreFieldsOf ["Full name", "full name"] ["氏名", "氏名"] 25 3 fields :=
  exists_areFieldsOf _ _ (by decide) (by decide) _

end Fields

end SheetSchema.Header
