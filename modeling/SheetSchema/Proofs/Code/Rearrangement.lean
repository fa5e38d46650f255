import Mathlib
import SheetSchema.Code.Mapper
import SheetSchema.Code.Catalog
import SheetSchema.Code.Default
import SheetSchema.Proofs.Refusal
import SheetSchema.Proofs.Schema.Layout

/-!
# The order of declaration carries no meaning

What is generated for a schema reads its fields in canonical order, asks whether there is one that
fits, or takes the row of the first. So a schema may be rearranged (`Schema.IsRearrangement`): if no
two fields share a column and the rows are the same number, everything that is computed and
generated stays the same (`Schema.interchangeable_of_isRearrangement`).

The templates of the operations are looked at piece by piece. A piece reads no more of its context
than `Code.Context.Agrees` lists, so the operations of contexts that agree have the same code
(`Code.Operation.codeOf_congr`), whatever the catalog holds.
-/

namespace SheetSchema

/-! ## Contexts that agree -/

namespace Code

/-- The contexts agree on all that templates read. -/
structure Context.Agrees (a b : Context) : Prop where
  feature : a.feature = b.feature
  keyField : a.keyField = b.keyField
  rangeExpression : a.rangeExpression = b.rangeExpression
  rowColumns : a.rowColumns = b.rowColumns
  rowWidth : a.rowWidth = b.rowWidth
  firstDataRow : a.firstDataRow = b.firstDataRow
  hasIdField : a.hasIdField = b.hasIdField

variable {a b : Context}

theorem Piece.render_congr (h : a.Agrees b) (p : Piece) : p.render a = p.render b := by
  cases p with
  | text s | declares s | calls s | binds s => rfl
  | feature | fromRow | toRow => simp only [render, h.feature]
  | key | keyParameter => simp only [render, h.keyField]
  | range => simp only [render, h.rangeExpression]
  | sheetName => simp only [render, Context.sheetNameExpression, h.rangeExpression]
  | rowRange => simp only [render, h.rowColumns]
  | firstDataRow => simp only [render, h.firstDataRow]
  | rowWidth => simp only [render, h.rowWidth]
  | newId => simp only [render, h.hasIdField]

theorem Template.render_congr (h : a.Agrees b) (t : Template) : t.render a = t.render b := by
  rw [render, render, funext (Piece.render_congr h)]

/-- The operations of contexts that agree have the same code. -/
theorem Operation.codeOf_congr (h : a.Agrees b) (given : Json) :
    codeOf a given = codeOf b given := by
  have hcode : code a = code b := by
    funext id
    rw [code, code]
    split
    · next op _ => exact Template.render_congr h op.template
    · rfl
  cases given <;> simp only [codeOf, hcode]

end Code

/-! ## Rearranged schemas -/

theorem HeaderRow.eq_of_value_eq {row other : HeaderRow} (hrow : row ≠ .flag)
    (hother : other ≠ .flag) (h : row.value = other.value) : row = other := by
  cases row with
  | flag => exact absurd rfl hrow
  | number n pos =>
    cases other with
    | flag => exact absurd rfl hother
    | number m pos' =>
      obtain rfl : n = m := h
      rfl

namespace Schema

/-- The schemas differ in nothing but the order in which their fields are declared. -/
structure IsRearrangement (s t : Schema) : Prop where
  fields : s.fields.Perm t.fields
  sheetName : s.sheetName = t.sheetName
  spreadsheetId : s.spreadsheetId = t.spreadsheetId
  rangeName : s.rangeName = t.rangeName

namespace IsRearrangement

variable {s t : Schema}

theorem fields_eq_nil_iff (h : s.IsRearrangement t) : s.fields = [] ↔ t.fields = [] := by
  constructor
  · intro hnil
    exact List.perm_nil.mp (hnil ▸ h.fields.symm)
  · intro hnil
    exact List.perm_nil.mp (hnil ▸ h.fields)

/-! ### What scans the fields -/

/-- Whichever field comes first, its row is that of all fields. -/
theorem headerRow_eq (h : s.IsRearrangement t) (hrow : s.validate = .ok ())
    (hnumber : ∀ f ∈ s.fields, f.row ≠ .flag) : s.headerRow = t.headerRow := by
  by_cases hnil : t.fields = []
  · rw [headerRow_of_nil hnil, headerRow_of_nil (h.fields_eq_nil_iff.mpr hnil)]
  · obtain ⟨f, hf, hheader⟩ := headerRow_mem hnil
    have hmem : f ∈ s.fields := h.fields.mem_iff.mpr hf
    rw [hheader]
    exact HeaderRow.eq_of_value_eq (headerRow_ne_flag hnumber) (hnumber f hmem)
      (validate_eq_ok_iff.mp hrow f hmem).symm

theorem validate (h : s.IsRearrangement t) (hrow : s.validate = .ok ())
    (hnumber : ∀ f ∈ s.fields, f.row ≠ .flag) : t.validate = .ok () := by
  refine validate_eq_ok_iff.mpr fun f hf => ?_
  rw [← h.headerRow_eq hrow hnumber]
  exact validate_eq_ok_iff.mp hrow f (h.fields.mem_iff.mpr hf)

theorem columnSpan?_eq (h : s.IsRearrangement t) : s.columnSpan? = t.columnSpan? := by
  by_cases hnil : s.fields = []
  · rw [columnSpan?_of_nil hnil, columnSpan?_of_nil (h.fields_eq_nil_iff.mp hnil)]
  · obtain ⟨lo, hi, hspan⟩ := exists_columnSpan? hnil
    rw [hspan, eq_comm, columnSpan?_eq_some_iff]
    simp only [(h.fields.map Field.columnIndex).mem_iff.symm]
    exact columnSpan?_eq_some_iff.mp hspan

theorem checkFormats_eq (h : s.IsRearrangement t) : s.checkFormats = t.checkFormats :=
  forM_eq_of_perm Field.checkFormat_eq h.fields

/-- Which field of a name comes first may differ, but not whether there is one. -/
theorem isSome_getField?_eq (h : s.IsRearrangement t) (name : String) :
    (s.getField? name).isSome = (t.getField? name).isSome := by
  rw [Bool.eq_iff_iff, getField?, getField?, List.find?_isSome, List.find?_isSome]
  simp only [h.fields.mem_iff]

/-! ### What is computed from them -/

theorem columnBounds_eq (h : s.IsRearrangement t) : s.columnBounds = t.columnBounds := by
  rw [columnBounds, columnBounds, h.columnSpan?_eq]

theorem headerRange_eq (h : s.IsRearrangement t) (hrow : s.validate = .ok ())
    (hnumber : ∀ f ∈ s.fields, f.row ≠ .flag) (quote : Bool) :
    s.headerRange quote = t.headerRange quote := by
  rw [headerRange, headerRange, hrow, h.validate hrow hnumber, h.columnBounds_eq, h.sheetName,
    h.headerRow_eq hrow hnumber]

theorem dataRange_eq (h : s.IsRearrangement t) (hrow : s.validate = .ok ())
    (hnumber : ∀ f ∈ s.fields, f.row ≠ .flag) (quote : Bool) :
    s.dataRange quote = t.dataRange quote := by
  rw [dataRange, dataRange, hrow, h.validate hrow hnumber, h.columnBounds_eq, h.sheetName,
    h.headerRow_eq hrow hnumber]

theorem positioned_eq (h : s.IsRearrangement t) (hdistinct : s.HasDistinctColumns) :
    s.positioned = t.positioned := by
  rw [positioned, positioned, ordered_eq_of_perm hdistinct h.fields]

theorem naturalKey_eq (h : s.IsRearrangement t) (hdistinct : s.HasDistinctColumns) :
    s.naturalKey = t.naturalKey := by
  rw [naturalKey, naturalKey, ordered_eq_of_perm hdistinct h.fields]

/-- A context knows both schemas by their fields, or neither. -/
theorem fieldedSchema?_cases (h : s.IsRearrangement t) (ctx : Code.Context) :
    (Code.Context.fieldedSchema? { ctx with schema? := some s } = none ∧
      Code.Context.fieldedSchema? { ctx with schema? := some t } = none) ∨
    (Code.Context.fieldedSchema? { ctx with schema? := some s } = some s ∧
      Code.Context.fieldedSchema? { ctx with schema? := some t } = some t) := by
  by_cases hnil : s.fields = []
  · exact Or.inl ⟨Code.Context.fieldedSchema?_of_nil rfl hnil,
      Code.Context.fieldedSchema?_of_nil rfl (h.fields_eq_nil_iff.mp hnil)⟩
  · exact Or.inr ⟨Code.Context.fieldedSchema?_eq rfl hnil,
      Code.Context.fieldedSchema?_eq rfl (mt h.fields_eq_nil_iff.mpr hnil)⟩

/-- Generated operations are told the same. -/
theorem agrees (h : s.IsRearrangement t) (hdistinct : s.HasDistinctColumns)
    (hrow : s.validate = .ok ()) (hnumber : ∀ f ∈ s.fields, f.row ≠ .flag) (ctx : Code.Context) :
    Code.Context.Agrees { ctx with schema? := some s } { ctx with schema? := some t } := by
  have hkey : s.naturalKey = t.naturalKey := h.naturalKey_eq hdistinct
  have hid : (s.getField? "id").isSome = (t.getField? "id").isSome := h.isSome_getField?_eq "id"
  have hrange : s.dataRange true = t.dataRange true := h.dataRange_eq hrow hnumber true
  have hheader : s.headerRow = t.headerRow := h.headerRow_eq hrow hnumber
  obtain ⟨hs, ht⟩ | ⟨hs, ht⟩ := h.fieldedSchema?_cases ctx <;>
    refine
      { feature := rfl
        keyField := hkey
        rangeExpression := ?_
        rowColumns := ?_
        rowWidth := ?_
        firstDataRow := ?_
        hasIdField := hid }
  -- without fields both contexts have the defaults
  · simp only [Code.Context.rangeExpression, hs, ht]
  · simp only [Code.Context.rowColumns, hs, ht]
  · simp only [Code.Context.rowWidth, hs, ht]
  · simp only [Code.Context.firstDataRow, hs, ht]
  -- with fields they ask them
  · simp only [Code.Context.rangeExpression, hs, ht, hrange]
  · simp only [Code.Context.rowColumns, hs, ht, h.columnBounds_eq]
  · simp only [Code.Context.rowWidth, hs, ht, Option.bind_some, h.columnSpan?_eq]
  · simp only [Code.Context.firstDataRow, hs, ht, hheader]

end IsRearrangement

/-! ## The main result -/

variable {s t : Schema}

/-- The mappers see nothing but the fields in canonical order and the check of their formats. -/
theorem mappers_eq (hpositioned : s.positioned = t.positioned)
    (hformats : s.checkFormats = t.checkFormats) :
    s.rowToObject = t.rowToObject ∧ s.objectToRow = t.objectToRow := by
  unfold rowToObject objectToRow slots
  rw [hpositioned, hformats]
  exact ⟨rfl, rfl⟩

/-- Everything that is computed for the schemas or generated from them is the same, refusals
included. -/
structure Interchangeable (s t : Schema) : Prop where
  ordered : s.ordered = t.ordered
  naturalKey : s.naturalKey = t.naturalKey
  columnBounds : s.columnBounds = t.columnBounds
  headerRange : ∀ quote, s.headerRange quote = t.headerRange quote
  dataRange : ∀ quote, s.dataRange quote = t.dataRange quote
  rowToObject : ∀ feature, s.rowToObject feature = t.rowToObject feature
  objectToRow : ∀ entity, s.objectToRow entity = t.objectToRow entity
  /-- The same pairs in the same order. -/
  defaults : ∀ custom, s.defaults custom = t.defaults custom
  code : ∀ (ctx : Code.Context) given,
    Code.Operation.codeOf { ctx with schema? := some s } given =
      Code.Operation.codeOf { ctx with schema? := some t } given

/-- A rearranged schema is as good as the schema, if no two fields share a column and the rows are
the same number. -/
theorem interchangeable_of_isRearrangement (h : s.IsRearrangement t)
    (hdistinct : s.HasDistinctColumns) (hrow : s.validate = .ok ())
    (hnumber : ∀ f ∈ s.fields, f.row ≠ .flag) : s.Interchangeable t where
  ordered := ordered_eq_of_perm hdistinct h.fields
  naturalKey := h.naturalKey_eq hdistinct
  columnBounds := h.columnBounds_eq
  headerRange := h.headerRange_eq hrow hnumber
  dataRange := h.dataRange_eq hrow hnumber
  rowToObject := congrFun (mappers_eq (h.positioned_eq hdistinct) h.checkFormats_eq).1
  objectToRow := congrFun (mappers_eq (h.positioned_eq hdistinct) h.checkFormats_eq).2
  defaults custom := by rw [defaults, defaults, ordered_eq_of_perm hdistinct h.fields]
  code ctx := Code.Operation.codeOf_congr (h.agrees hdistinct hrow hnumber ctx)

/-- The tasks declared the other way round. -/
def reversedTasks : Schema := { shuffledTasks with fields := shuffledTasks.fields.reverse }

theorem shuffledTasks_interchangeable_reverse :
    shuffledTasks.IsRearrangement reversedTasks ∧ shuffledTasks.HasDistinctColumns ∧
    shuffledTasks.validate = .ok () ∧ (∀ f ∈ shuffledTasks.fields, f.row ≠ .flag) ∧
    shuffledTasks.Interchangeable reversedTasks := by
  have hperm : shuffledTasks.IsRearrangement reversedTasks :=
    ⟨(List.reverse_perm _).symm, rfl, rfl, rfl⟩
  have hdistinct := shuffledTasks_hasDistinctColumns
  exact ⟨hperm, hdistinct, by decide, by decide,
    interchangeable_of_isRearrangement hperm hdistinct (by decide) (by decide)⟩

end Schema

end SheetSchema
