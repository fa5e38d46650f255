import Mathlib
import SheetSchema.Grid.Range
import SheetSchema.Proofs.Json.Access

/-!
# Regions and their bounds

A region is told by its sheet and its four bounds (`GridRange.ofBounds_eq_ok_iff`), and bounds that
are whole numbers make one exactly if no start is negative and no span is reversed
(`GridRange.exists_ofIndices_iff`). A cell lies in it if its row and its column lie in the two spans
(`GridRange.Contains`, `Span.contains_iff`). Reading a region asks an object for its bounds, with
defaults for those that are absent (`GridRange.ofJson_obj_eq_ok_iff`), so writing a region and
reading it back gives the region (`GridRange.ofJson_toJson`).
-/

namespace SheetSchema

namespace Span

theorem ext_iff' {a b : Span} : a = b ↔ a.start = b.start ∧ a.stop? = b.stop? := by
  cases a
  cases b
  simp

/-- What lies in a span between whole numbers. -/
theorem contains_iff {span : Span} {start : Int} {stop? : Option Int}
    (hstart : span.start = .whole start) (hstop : span.stop? = stop?.map .whole) {i : Int} :
    span.Contains i ↔ start ≤ i ∧ ∀ stop ∈ stop?, i < stop := by
  rw [Contains, hstart, hstop]
  cases stop? <;> simp

/-- The span reaches from the least to the greatest index of two others. -/
def IsHull (span a b : Span) : Prop :=
  ∀ i, span.Contains i ↔ ∃ j k, (a.Contains j ∨ b.Contains j) ∧ (a.Contains k ∨ b.Contains k) ∧
    j ≤ i ∧ i ≤ k

/-- A span between whole numbers reaches from its first index to its last. -/
theorem isHull_of_ends {span a b : Span} {start stop : Int} (hlt : start < stop)
    (hstart : span.start = .whole start) (hstop : span.stop? = some (.whole stop))
    (ha : ∀ i, a.Contains i ↔ i = start) (hb : ∀ i, b.Contains i ↔ i = stop - 1) :
    span.IsHull a b := by
  intro i
  have hspan := contains_iff hstart (show span.stop? = (some stop).map .whole from hstop) (i := i)
  simp only [hspan, ha, hb, Option.mem_some_iff, forall_eq']
  constructor
  · rintro ⟨hle, hi⟩
    exact ⟨start, stop - 1, Or.inl rfl, Or.inr rfl, hle, by omega⟩
  · rintro ⟨j, k, hj, hk, hle, hi⟩
    omega

end Span

namespace GridRange

/-- The cell in this row and this column lies in the region. -/
def Contains (r : GridRange) (row column : Int) : Prop :=
  r.rows.Contains row ∧ r.columns.Contains column

/-- The region is the least that covers two others. -/
structure IsBoundingBox (box a b : GridRange) : Prop where
  rows : box.rows.IsHull a.rows b.rows
  columns : box.columns.IsHull a.columns b.columns

theorem startOf_eq_ok_iff {x : Number} {start : Start} : startOf x = .ok start ↔ x = start.val := by
  unfold startOf
  split
  · rw [Except.ok.injEq, Subtype.ext_iff]
  · next h =>
    simp only [reduceCtorEq, false_iff]
    rintro rfl
    exact h start.property

theorem spanOf_eq_ok_iff {start : Start} {reversed : Error} {stop? : Option Number} {span : Span} :
    spanOf start reversed stop? = .ok span ↔ start.val = span.start ∧ stop? = span.stop? := by
  unfold spanOf
  split
  · rw [Except.ok.injEq, Span.ext_iff']
  · next h =>
    simp only [reduceCtorEq, false_iff]
    rintro ⟨hstart, rfl⟩
    exact h (hstart ▸ span.start_lt)

/-- The region between some bounds is the one that has these bounds. -/
theorem ofBounds_eq_ok_iff {sheet : Json} {startRow startColumn : Number}
    {endRow? endColumn? : Option Number} {r : GridRange} :
    ofBounds sheet startRow endRow? startColumn endColumn? = .ok r ↔
      r.sheet = sheet ∧ r.rows.start = startRow ∧ r.rows.stop? = endRow? ∧
        r.columns.start = startColumn ∧ r.columns.stop? = endColumn? := by
  simp only [ofBounds, bind_eq_ok, startOf_eq_ok_iff, spanOf_eq_ok_iff, pure_eq_ok]
  constructor
  · rintro ⟨a, rfl, b, rfl, rows, ⟨h1, h2⟩, columns, ⟨h3, h4⟩, rfl⟩
    exact ⟨rfl, h1.symm, h2.symm, h3.symm, h4.symm⟩
  · rintro ⟨rfl, rfl, rfl, rfl, rfl⟩
    exact ⟨⟨_, r.rows.start_nonneg⟩, rfl, ⟨_, r.columns.start_nonneg⟩, rfl, r.rows, ⟨rfl, rfl⟩,
      r.columns, ⟨rfl, rfl⟩, rfl⟩

theorem ofIndices_eq_ok_iff {sheet : Json} {startRow startColumn : Int}
    {endRow? endColumn? : Option Int} {r : GridRange} :
    ofIndices sheet startRow endRow? startColumn endColumn? = .ok r ↔
      r.sheet = sheet ∧ r.rows.start = .whole startRow ∧ r.rows.stop? = endRow?.map .whole ∧
        r.columns.start = .whole startColumn ∧ r.columns.stop? = endColumn?.map .whole :=
  ofBounds_eq_ok_iff

/-- Bounds that are whole numbers make a region if no start is negative and no span is reversed. -/
theorem exists_ofIndices (sheet : Json) {startRow startColumn : Int}
    {endRow? endColumn? : Option Int} (hrow : 0 ≤ startRow) (hcolumn : 0 ≤ startColumn)
    (hrows : ∀ stop ∈ endRow?, startRow < stop)
    (hcolumns : ∀ stop ∈ endColumn?, startColumn < stop) :
    ∃ r, ofIndices sheet startRow endRow? startColumn endColumn? = .ok r := by
  refine ⟨⟨sheet, ⟨.whole startRow, endRow?.map .whole, by simpa using hrow, ?_⟩,
    ⟨.whole startColumn, endColumn?.map .whole, by simpa using hcolumn, ?_⟩⟩,
    ofIndices_eq_ok_iff.mpr ⟨rfl, rfl, rfl, rfl, rfl⟩⟩
  · simpa using hrows
  · simpa using hcolumns

section Indices

variable {sheet : Json} {startRow startColumn : Int} {endRow? endColumn? : Option Int}
  {r : GridRange}

/-- Bounds that are whole numbers make a region if and only if no start is negative and no span is
reversed. -/
theorem exists_ofIndices_iff :
    (∃ r, ofIndices sheet startRow endRow? startColumn endColumn? = .ok r) ↔
      0 ≤ startRow ∧ 0 ≤ startColumn ∧ (∀ stop ∈ endRow?, startRow < stop) ∧
        ∀ stop ∈ endColumn?, startColumn < stop := by
  constructor
  · rintro ⟨r, h⟩
    obtain ⟨-, hrow, hrows, hcolumn, hcolumns⟩ := ofIndices_eq_ok_iff.mp h
    have hrow' := hrow ▸ r.rows.start_nonneg
    have hcolumn' := hcolumn ▸ r.columns.start_nonneg
    have hrows' := hrow ▸ hrows ▸ r.rows.start_lt
    have hcolumns' := hcolumn ▸ hcolumns ▸ r.columns.start_lt
    simp only [Number.lt_whole, decide_eq_false_iff_not, not_lt] at hrow' hcolumn'
    simp only [Option.mem_map, forall_exists_index, and_imp, forall_apply_eq_imp_iff₂,
      Number.le_whole, decide_eq_false_iff_not, not_le] at hrows' hcolumns'
    exact ⟨hrow', hcolumn', hrows', hcolumns'⟩
  · rintro ⟨hrow, hcolumn, hrows, hcolumns⟩
    exact exists_ofIndices sheet hrow hcolumn hrows hcolumns

/-- The cells between bounds that are whole numbers. -/
theorem contains_ofIndices_iff
    (h : ofIndices sheet startRow endRow? startColumn endColumn? = .ok r) {row column : Int} :
    r.Contains row column ↔ (startRow ≤ row ∧ ∀ stop ∈ endRow?, row < stop) ∧
      startColumn ≤ column ∧ ∀ stop ∈ endColumn?, column < stop := by
  obtain ⟨-, hrow, hrows, hcolumn, hcolumns⟩ := ofIndices_eq_ok_iff.mp h
  rw [Contains, Span.contains_iff hrow hrows, Span.contains_iff hcolumn hcolumns]

/-- Bounds that make no region are refused as not valid. -/
theorem not_escapes_ofIndices :
    ¬ Escapes (ofIndices sheet startRow endRow? startColumn endColumn?) := by
  have hstart : ∀ x, ¬ Escapes (startOf x) := fun x => by
    unfold startOf
    split <;> simp [Error.category]
  have hspan : ∀ start stop?, ¬ Escapes (spanOf start .rowsReversed stop?) ∧
      ¬ Escapes (spanOf start .columnsReversed stop?) := fun start stop? => by
    unfold spanOf
    constructor <;> split <;> simp [Error.category]
  simp only [ofIndices, ofBounds, escapes_bind_iff, escapes_pure_iff, hstart, (hspan _ _).1,
    (hspan _ _).2, and_false, exists_false, or_false, not_false_iff]

end Indices

/-! ## Reading -/

/-- A stop as it is written, which an endless span leaves out. -/
def stopJson (stop? : Option Number) : Json := (stop?.map Number.toJson).getD .null

theorem indexOf_eq_ok_iff {value : Json} {x : Number} :
    indexOf value = .ok x ↔ value = x.toJson := by
  constructor
  · intro h
    cases value <;> simp [indexOf, Number.ofJson?] at h <;> rw [← h] <;> rfl
  · rintro rfl
    rw [indexOf, Number.ofJson?_toJson]

theorem stopOf_eq_ok_iff {value : Json} {stop? : Option Number} :
    stopOf value = .ok stop? ↔ value = stopJson stop? := by
  cases stop? with
  | none =>
    cases value <;> simp [stopOf, stopJson, map_eq_ok]
  | some stop =>
    have hne : stop.toJson ≠ .null := by cases stop <;> simp [Number.toJson]
    cases value with
    | null => simpa [stopOf, stopJson] using hne.symm
    | _ => simp [stopOf, stopJson, map_eq_ok, indexOf_eq_ok_iff]

/-- The entries of an object give the region its sheet and its bounds. A sheet or a start that is
not there is zero, and a span without stop is endless. -/
structure DescribedBy (r : GridRange) (entries : Entries Json) : Prop where
  sheet : (entries.get? "sheetId").getD (.int 0) = r.sheet
  startRow : (entries.get? "startRowIndex").getD (.int 0) = r.rows.start.toJson
  endRow : (entries.get? "endRowIndex").getD .null = stopJson r.rows.stop?
  startColumn : (entries.get? "startColumnIndex").getD (.int 0) = r.columns.start.toJson
  endColumn : (entries.get? "endColumnIndex").getD .null = stopJson r.columns.stop?

/-- An object is read as the region that it describes. -/
theorem ofJson_obj_eq_ok_iff {entries : Entries Json} {r : GridRange} :
    ofJson (.obj entries) = .ok r ↔ r.DescribedBy entries := by
  simp only [ofJson, Json.memberD_obj, ok_bind, bind_eq_ok, indexOf_eq_ok_iff, stopOf_eq_ok_iff,
    startOf_eq_ok_iff, spanOf_eq_ok_iff, pure_eq_ok]
  constructor
  · rintro ⟨x, hx, a, rfl, y, hy, b, rfl, stop?, hs, rows, ⟨h1, rfl⟩, stop?', hs', columns,
      ⟨h2, rfl⟩, rfl⟩
    exact ⟨rfl, h1 ▸ hx, hs, h2 ▸ hy, hs'⟩
  · rintro ⟨h1, h2, h3, h4, h5⟩
    rw [h1]
    exact ⟨_, h2, ⟨_, r.rows.start_nonneg⟩, rfl, _, h4, ⟨_, r.columns.start_nonneg⟩, rfl, _, h3,
      r.rows, ⟨rfl, rfl⟩, _, h5, r.columns, ⟨rfl, rfl⟩, rfl⟩

/-- What is written for a region describes it. -/
theorem exists_toJson (r : GridRange) :
    ∃ entries, r.toJson = .obj entries ∧ r.DescribedBy entries := by
  refine ⟨_, rfl, ?_⟩
  obtain ⟨sheet, ⟨_, rows, _, _⟩, ⟨_, columns, _, _⟩⟩ := r
  cases rows <;> cases columns <;>
    constructor <;> simp [stopEntry, stopJson, Entries.get?_cons]

/-- A region is read back as it was written. -/
theorem ofJson_toJson (r : GridRange) : ofJson r.toJson = .ok r := by
  obtain ⟨entries, hentries, h⟩ := r.exists_toJson
  rw [hentries]
  exact ofJson_obj_eq_ok_iff.mpr h

end GridRange

end SheetSchema
