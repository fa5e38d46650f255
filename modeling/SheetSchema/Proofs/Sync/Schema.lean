import Mathlib
import SheetSchema.Schema.Wire
import SheetSchema.Proofs.Schema.Order
import SheetSchema.Proofs.Sync.Replace

/-!
# Synchronising the data of a schema

The data range of a schema is written, cleaned up, taken apart and read again before it reaches the
service. If the sheet name has no blank at its ends and does not hold the separator, and the row
below the headers can be written, what is read is the region of the data (`Schema.IsDataRegion`) on
the sheet of that name (`Schema.exists_parseRange_dataCells`). `Schema.SynchronizesData` is the law
that a synchronisation therefore keeps, and these are exactly the schemas that keep it
(`Schema.synchronizesData_iff`): names are trimmed when they are written, and split off at the first
separator, so a schema with another name is sent elsewhere or nowhere.
-/

namespace SheetSchema

open Sync

/-- The change keeps a name for a region. -/
def Change.isAddition : Change → Bool
  | addNamedRange .. => true
  | _ => false

namespace Schema

/-- The region of the data of a schema on the sheet `k`: from the row below the headers down, over
the columns of the fields. -/
structure IsDataRegion (s : Schema) (k : Json) (r : GridRange) : Prop where
  sheet : r.sheet = k
  firstRow : r.rows.start = .whole s.headerRow.value
  lastRow : r.rows.stop? = none
  columns : ∃ lo hi, IsLeast {i | i ∈ s.fields.map Field.columnIndex} lo ∧
    IsGreatest {i | i ∈ s.fields.map Field.columnIndex} hi ∧
    r.columns.start = .whole lo ∧ r.columns.stop? = some (.whole (hi + 1))

/-- The sheet name is read back as it is written, and the first row of the data can be written. -/
structure IsRoundTrip (s : Schema) : Prop where
  trimmed_eq : trimmed s.sheetName = s.sheetName
  not_mem : '!' ∉ s.sheetName.toList
  writable : Decimal.isWritable ((s.headerRow.value + 1 : Nat) : Int) = true

variable {s : Schema} {lo hi : Int}

theorem trim_sheetName_ne_nil (s : Schema) : Text.trim s.sheetName.toList ≠ [] := by
  rw [ne_eq, Text.trim_eq_nil_iff]
  exact ne_true_of_eq_false s.sheetName_given

/-- The cells of the data of a schema whose columns span from `lo` to `hi`. -/
def dataCells (s : Schema) (lo hi : Int) : String :=
  String.ofList (((Column.letters lo.toNat).toList ++ Text.digitsOf (s.headerRow.value + 1)) ++
    ':' :: (Column.letters hi.toNat).toList)

/-- The data range is taken apart into the trimmed sheet name and the cells, if the name does not
hold the separator. -/
theorem split_dataRange (hrow : s.validate = .ok ()) (hspan : s.columnSpan? = some (lo, hi))
    (hwritable : Decimal.isWritable ((s.headerRow.value + 1 : Nat) : Int) = true)
    (hname : '!' ∉ s.sheetName.toList) :
    ∃ text, s.dataRange true = .ok text ∧ text ≠ "" ∧
      A1.split (A1.normalize text) = .ok (trimmed s.sheetName, s.dataCells lo hi) := by
  set first := Column.letters lo.toNat ++ String.ofList (Text.digitsOf (s.headerRow.value + 1))
    with hfirst
  set last := Column.letters hi.toNat with hlast
  have hcells : (s.dataCells lo hi).toList = first.toList ++ ':' :: last.toList := by
    simp [dataCells, hfirst, hlast]
  have hall : ∀ c ∈ first.toList ++ ':' :: last.toList, A1.isCellChar c = true := by
    rw [← hcells, dataCells, String.toList_ofList]
    exact A1.isCellChar_of_mem_open (Column.isCapitals_letters _) (Column.isCapitals_letters _) _
  refine ⟨A1.range (A1.quoteSheet s.sheetName) first last, ?_, ?_, ?_⟩
  · rw [dataRange_eq_rangeOf hrow hspan, A1.rangeOf_open hwritable]
    rfl
  · intro hempty
    have := congrArg String.toList hempty
    simp [A1.toList_range] at this
  · rw [A1.split_normalize_range (fun h => hname (Text.mem_of_mem_trim h))
      s.trim_sheetName_ne_nil hall]
    have hjoined : first ++ ":" ++ last = s.dataCells lo hi := by
      apply String.toList_injective
      rw [hcells]
      simp
    rw [hjoined]

/-- The cells of the data are read as the region of the data. -/
theorem exists_parseRange_dataCells (hspan : s.columnSpan? = some (lo, hi))
    (hwritable : Decimal.isWritable ((s.headerRow.value + 1 : Nat) : Int) = true) (k : Json) :
    ∃ r, A1.parseRange (s.dataCells lo hi) k = .ok r ∧ s.IsDataRegion k r := by
  obtain ⟨hlo, hle⟩ := columnSpan?_bounds hspan
  obtain ⟨hleast, hgreatest⟩ := columnSpan?_eq_some_iff.mp hspan
  have hcolumns : ∀ stop ∈ some (hi + 1), lo < stop := by
    intro stop hstop
    obtain rfl : hi + 1 = stop := Option.some.inj hstop
    omega
  obtain ⟨r, hr⟩ : ∃ r, GridRange.ofIndices k s.headerRow.value none lo (some (hi + 1)) = .ok r :=
    GridRange.exists_ofIndices k (by omega) hlo (by simp) hcolumns
  refine ⟨r, ?_, ?_⟩
  · have hstart : (((s.headerRow.value + 1 : Nat) : Int) - 1) = s.headerRow.value := by omega
    rw [dataCells, A1.parseRange_open (Column.isCapitals_letters _) (Column.isCapitals_letters _)
      hwritable, hstart, Column.indexOf_letters, Column.indexOf_letters, Int.toNat_of_nonneg hlo,
      Int.toNat_of_nonneg (hlo.trans hle), hr]
  · obtain ⟨hsheet, hfirst, hlast, hleft, hright⟩ := GridRange.ofIndices_eq_ok_iff.mp hr
    exact ⟨hsheet, hfirst, hlast, lo, hi, hleast, hgreatest, hleft, hright⟩

/-- The law of a schema: where a spreadsheet is described with exactly one sheet of its name, a
synchronisation makes two calls, and the one named range that its batch adds is the region of the
data on that sheet. The batch submits its changes, and the synchronisation succeeds if it goes
through. -/
def SynchronizesData (s : Schema) : Prop :=
  ∀ (σ : Type) (service : Service σ) (w : World σ) (spreadsheet name : Json) (tree : FileTree)
    (data : Json) (m : Metadata) (k : Json), spreadsheet.truthy = true → name.truthy = true →
    (service w.service (.metadata spreadsheet)).1 = .ok data →
    Metadata.ofJson spreadsheet data = .ok m →
    m.sheets.filter (·.title = .str s.sheetName) = [⟨k, .str s.sheetName⟩] →
    ∃ changes range, changes.filter Change.isAddition = [.addNamedRange name range] ∧
      s.IsDataRegion k range ∧
      ((synchronizeSchema spreadsheet s name none tree).run service w).2.calls =
        w.calls ++ [.metadata spreadsheet, .batchUpdate spreadsheet (requests changes)] ∧
      (Call.batchUpdate spreadsheet (requests changes)).Submits spreadsheet changes ∧
      ∀ value, (service (described service spreadsheet w.service)
          (.batchUpdate spreadsheet (requests changes))).1 = .ok value →
        ∃ o w', (synchronizeSchema spreadsheet s name none tree).run service w =
          (.ok (o, tree), w') ∧ o.range = range ∧ o.changes = changes

/-- The only sheet of a title is the one that is found. -/
theorem findSheet?_of_filter {m : Metadata} {title : String} {sheet : Sheet}
    (h : m.sheets.filter (·.title = .str title) = [sheet]) :
    m.findSheet? (.str title) = some sheet := by
  have hsame : (fun sheet : Sheet => sheet.title.same (.str title)) =
      fun sheet => decide (sheet.title = .str title) := funext fun sheet => Json.same_str _ _
  rw [Metadata.findSheet?, hsame, ← List.head?_filter, h, List.head?_cons]

/-- A schema whose sheet name is read back keeps the law. -/
theorem IsRoundTrip.synchronizesData (h : s.IsRoundTrip) (hfields : s.fields ≠ [])
    (hrow : s.validate = .ok ()) : s.SynchronizesData := by
  intro σ service w spreadsheet name tree data m k hspreadsheet hname hdata hm hsheets
  obtain ⟨lo, hi, hspan⟩ := exists_columnSpan? hfields
  obtain ⟨text, htext, hne, hsplit⟩ := split_dataRange hrow hspan h.writable h.not_mem
  obtain ⟨range, hrange, hregion⟩ := exists_parseRange_dataCells hspan h.writable k
  rw [h.trimmed_eq] at hsplit
  set r : Request := ⟨spreadsheet, name, .str text⟩ with hr
  set p : Plan := ⟨A1.normalize text, s.sheetName, range, replacedId? m name,
    batch (replacedId? m name) name range⟩ with hp
  have hreaches : Reaches service r w.service
      ⟨A1.normalize text, s.sheetName, s.dataCells lo hi⟩ m p :=
    { target_eq := target_eq_ok_iff.mpr
        ⟨normalized_eq_ok_iff.mpr ⟨hspreadsheet, hname, hne, rfl⟩, hsplit⟩
      described_by := ⟨data, hdata, hm⟩
      fits := ⟨⟨_, findSheet?_of_filter hsheets, hrange⟩, rfl, rfl, rfl, rfl⟩ }
  have hgiven : Json.firstGiven [name] s.rangeName = name := by
    simp [Json.firstGiven, hname]
  have hsync : (synchronizeSchema spreadsheet s name none tree : Session σ (Outcome × FileTree)) =
      synchronize r none tree := by
    simp only [synchronizeSchema, hgiven, hname, htext]
    rfl
  refine ⟨p.changes, range, ?_, hregion, ?_, submits_batchUpdate spreadsheet p.changes,
    fun value hvalue => ?_⟩
  · rw [hp, batch]
    cases replacedId? m name <;> rfl
  · rw [hsync, calls_synchronize,
      calls_apply (w := { w with ledger := {}, files := tree }) hreaches]
    rfl
  · obtain ⟨w₁, happly⟩ :=
      exists_run_apply (w := { w with ledger := {}, files := tree }) hreaches hvalue
    obtain ⟨o, w', hrun, horange, hchanges⟩ := exists_run_synchronize happly
    exact ⟨o, w', hsync ▸ hrun, horange, hchanges⟩

/-- A synchronisation of a schema that succeeds has read a target from the data range. -/
theorem of_synchronizeSchema {σ : Type} {service : Service σ} {w w' : World σ}
    {spreadsheet name : Json} {constants? : Option Path} {tree tree' : FileTree} {o : Outcome}
    (h : (synchronizeSchema spreadsheet s name constants? tree).run service w =
      (.ok (o, tree'), w')) :
    ∃ text t m p, s.dataRange true = .ok text ∧ Reaches service
      ⟨spreadsheet, Json.firstGiven [name] s.rangeName, .str text⟩ w.service t m p := by
  replace h := (Session.run_withFiles_eq_ok_iff.mp h).1
  dsimp only at h
  split at h
  · cases h
  · obtain ⟨text, w₁, hwritten, hrun⟩ := Session.run_bind_eq_ok_iff.mp h
    obtain ⟨htext, rfl⟩ := Session.run_ofExcept_eq_ok_iff.mp hwritten
    obtain ⟨p, w₂, happly, -⟩ := of_bringInStep hrun
    obtain ⟨t, m, hreaches, -⟩ := of_apply happly
    exact ⟨text, t, m, p, htext, hreaches⟩

/-- The answers of a service whose spreadsheet has the one sheet `title`. -/
def lonelyReplies (title : String) : List Reply :=
  [.ok (.obj [("sheets", .arr [.obj [("properties", .obj [("title", .str title)])]])]),
    .ok (.obj [])]

/-- A schema that keeps the law has a sheet name that is read back. -/
theorem SynchronizesData.isRoundTrip (h : s.SynchronizesData) (hfields : s.fields ≠ [])
    (hrow : s.validate = .ok ()) : s.IsRoundTrip := by
  have hlonely : Metadata.ofJson (.str "book") (.obj [("sheets",
      .arr [.obj [("properties", .obj [("title", .str s.sheetName)])]])]) =
      .ok ⟨.str "book", [⟨.int 0, .str s.sheetName⟩], []⟩ := rfl
  obtain ⟨changes, range, -, -, -, -, hok⟩ := h _ scripted { service := lonelyReplies s.sheetName }
    (.str "book") (.str "data") {} _ _ (.int 0) rfl rfl rfl hlonely (by simp)
  obtain ⟨o, w', hrun, -⟩ := hok _ rfl
  obtain ⟨text, t, m, p, htext, htarget, ⟨data, hdata, hm⟩, hfits⟩ := of_synchronizeSchema hrun
  obtain rfl := Reply.ok.inj hdata
  obtain rfl := Except.ok.inj (hlonely.symm.trans hm)
  obtain ⟨hrangeText, hsplit⟩ := target_eq_ok_iff.mp htarget
  obtain ⟨-, -, -, hnormalize⟩ := normalized_eq_ok_iff.mp hrangeText
  rw [← hnormalize] at hsplit
  -- The sheet that was found is the only one there is.
  have hname : t.sheetName = s.sheetName := by
    obtain ⟨sheet, hfind, -⟩ := hfits.range
    have hsame := List.find?_some hfind
    have hmem := List.mem_of_find?_eq_some hfind
    obtain rfl := List.mem_singleton.mp hmem
    rw [Json.same_str] at hsame
    exact (Json.str.inj (of_decide_eq_true hsame)).symm
  obtain ⟨lo, hi, hspan⟩ := exists_columnSpan? hfields
  have hwritable : Decimal.isWritable ((s.headerRow.value + 1 : Nat) : Int) = true := by
    rw [dataRange_eq_rangeOf hrow hspan] at htext
    exact A1.isWritable_of_rangeOf htext
  have hmem : '!' ∉ s.sheetName.toList := hname ▸ A1.not_mem_of_split hsplit
  obtain ⟨text', htext', -, hsplit'⟩ := split_dataRange hrow hspan hwritable hmem
  obtain rfl := Except.ok.inj (htext'.symm.trans htext)
  have htrimmed := congrArg Prod.fst (Except.ok.inj (hsplit'.symm.trans hsplit))
  exact ⟨htrimmed.trans hname, hmem, hwritable⟩

/-- A schema with fields in one row keeps the law if and only if its sheet name is read back as it
is written: it has no blank at its ends and does not hold the separator, and the row below the
headers can be written. -/
theorem synchronizesData_iff (hfields : s.fields ≠ []) (hrow : s.validate = .ok ()) :
    s.SynchronizesData ↔ s.IsRoundTrip :=
  ⟨fun h => h.isRoundTrip hfields hrow, fun h => h.synchronizesData hfields hrow⟩

/-- A schema of a sheet whose name needs quotes, with its fields out of order. -/
def mailTasks : Schema where
  sheetName := "Bob's mail"
  fields := [
    { name := "id", column := "AB", name_valid := by decide, column_capitals := by decide },
    { name := "status", column := "C", name_valid := by decide, column_capitals := by decide }]
  sheetName_given := by decide

/-- It keeps the law. -/
theorem mailTasks_synchronizesData : mailTasks.fields ≠ [] ∧ mailTasks.validate = .ok () ∧
    mailTasks.SynchronizesData := by
  refine ⟨by decide, by decide, (synchronizesData_iff (by decide) (by decide)).mpr ?_⟩
  exact ⟨by decide +kernel, by decide, by decide +kernel⟩

/-- A schema of a sheet whose name has blanks around it. -/
def paddedTasks : Schema where
  sheetName := " Tasks "
  fields := [{ name := "id", column := "A", name_valid := by decide, column_capitals := by decide }]
  sheetName_given := by decide

/-- The sheets of a spreadsheet that has this sheet and one without the blanks. -/
def paddedSheets : Json :=
  .obj [("sheets", .arr [
    .obj [("properties", .obj [("sheetId", .int 5), ("title", .str " Tasks ")])],
    .obj [("properties", .obj [("sheetId", .int 6), ("title", .str "Tasks")])]])]

/-- A schema that can be read, with a field, does not keep the law: its data are looked for on the
sheet whose name has no blanks. -/
theorem paddedTasks_not_synchronizesData :
    Schema.ofJson (.obj [("sheetName", .str " Tasks "),
      ("fields", .arr [.obj [("name", .str "id"), ("column", .str "A")]])]) = .ok paddedTasks ∧
    paddedTasks.fields ≠ [] ∧ paddedTasks.validate = .ok () ∧ ¬ paddedTasks.SynchronizesData := by
  refine ⟨by decide +kernel, by decide, by decide, fun h => ?_⟩
  have hmetadata : Metadata.ofJson (.str "book") paddedSheets = .ok ⟨.str "book",
      [⟨.int 5, .str " Tasks "⟩, ⟨.int 6, .str "Tasks"⟩], []⟩ := by decide +kernel
  obtain ⟨changes, range, -, hregion, -, -, hok⟩ := h _ scripted
    { service := [.ok paddedSheets, .ok (.obj [])] } (.str "book") (.str "data") {} _ _ (.int 5)
    rfl rfl rfl hmetadata (by decide +kernel)
  obtain ⟨o, w', hrun, horange, -⟩ := hok _ rfl
  have hsheet : ((synchronizeSchema (.str "book") paddedTasks (.str "data") none {}).run scripted
      { service := [.ok paddedSheets, .ok (.obj [])] }).1.toOption.map (fun r => r.1.range.sheet) =
      some (.int 6) := by decide +kernel
  rw [hrun] at hsheet
  have hsix : o.range.sheet = .int 6 := by simpa [Except.toOption] using hsheet
  rw [horange, hregion.sheet] at hsix
  revert hsix
  decide

end Schema

end SheetSchema
