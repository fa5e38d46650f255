import Mathlib
import SheetSchema.Proofs.Header.Reading
import SheetSchema.Proofs.Service.Outcome

/-!
# What the stages of an inference make of the replies

The sheet name that an inference goes on with is told by the reply to its first call (`titleOf`),
and the header row by the reply to the first read, or by that to the second one if the first fails
(`run_fetchHeaderRow_of_first`, `run_fetchHeaderRow_of_second`). What is computed between the calls
never fails because of a remote service.
-/

namespace SheetSchema

variable {σ : Type} {service : Service σ} {w : World σ}

/-! ## Checks between the calls -/

namespace NeverRemote

variable {α : Type}

theorem gridRange (data : Json) : NeverRemote (GridRange.ofJson data) := by
  have hindex (value : Json) : NeverRemote (GridRange.indexOf value) := by
    rw [GridRange.indexOf]
    split
    · exact ok _
    · exact error rfl
  have hstop (value : Json) : NeverRemote (GridRange.stopOf value) := by
    rw [GridRange.stopOf.eq_def]
    split
    · exact ok _
    · exact (hindex _).map _
  have hstart (x : Number) : NeverRemote (GridRange.startOf x) := by
    rw [GridRange.startOf]
    split
    · exact ok _
    · exact error rfl
  have hspan (start : GridRange.Start) {reversed : Error}
      (h : reversed.category.isTransient = false) (stop? : Option Number) :
      NeverRemote (GridRange.spanOf start reversed stop?) := by
    rw [GridRange.spanOf]
    split
    · exact ok _
    · exact error h
  exact (memberD _ _ _).bind fun _ => (memberD _ _ _).bind fun _ => (hindex _).bind fun _ =>
    (hstart _).bind fun _ => (memberD _ _ _).bind fun _ => (hindex _).bind fun _ =>
    (hstart _).bind fun _ => (memberD _ _ _).bind fun _ => (hstop _).bind fun _ =>
    (hspan _ rfl _).bind fun _ => (memberD _ _ _).bind fun _ => (hstop _).bind fun _ =>
    (hspan _ rfl _).bind fun _ => pure _

theorem sheet (entry : Json) : NeverRemote (Sheet.ofJson entry) :=
  (member _ _).bind fun _ => (memberD _ _ _).bind fun _ => (memberD _ _ _).bind fun _ => pure _

theorem namedRange (entry : Json) : NeverRemote (NamedRange.ofJson entry) := by
  refine (memberD _ _ _).bind fun region => (memberD _ _ _).bind fun _ =>
    (memberD _ _ _).bind fun _ => ?_
  simp only
  split
  · exact ((gridRange region).map _).bind fun _ => pure _
  · exact (pure _).bind fun _ => pure _

theorem metadata (spreadsheet data : Json) : NeverRemote (Metadata.ofJson spreadsheet data) :=
  (memberD _ _ _).bind fun _ => (elements _).bind fun _ => (mapM sheet _).bind fun _ =>
    (memberD _ _ _).bind fun _ => (elements _).bind fun _ => (mapM namedRange _).bind fun _ =>
    pure _

theorem titleLine (m : Metadata) : NeverRemote m.titleLine := by
  refine bind (mapM (fun title => ?_) _) fun _ => pure _
  split
  · exact ok _
  · exact error rfl

theorem writeInt (n : Int) : NeverRemote (writeInt n) := by
  rw [SheetSchema.writeInt]
  split
  · exact ok _
  · exact error rfl

theorem rangeOf (sheet first : String) (row : Int) (last : String) (lastRow? : Option Int)
    (quote : Bool) : NeverRemote (A1.rangeOf sheet first row last lastRow? quote) := by
  have hcorner (column : String) (row : Int) : NeverRemote (A1.corner column row) :=
    (writeInt row).bind fun _ => pure _
  refine (hcorner _ _).bind fun _ => ?_
  cases lastRow? with
  | some row => exact (hcorner _ _).bind fun _ => pure _
  | none => exact (pure _).bind fun _ => pure _

theorem lettersOf (index : Int) : NeverRemote (Column.lettersOf index) := by
  rw [Column.lettersOf]
  split
  · exact error rfl
  · exact ok _

theorem cellReference (reference fallback : String) :
    NeverRemote (A1.CellReference.parse reference fallback) := by
  rw [A1.CellReference.parse]
  split
  · refine bind ?_ fun _ => pure _
    rw [A1.readRow]
    split
    · exact ok _
    · exact error rfl
  · exact error rfl

end NeverRemote

namespace Header

variable {r : Request}

theorem neverRemote_expectedHeaders (r : Request) : NeverRemote (expectedHeaders r) := by
  rw [expectedHeaders]
  split
  · exact .error rfl
  split
  · exact .error rfl
  split
  · exact .error rfl
  · exact (NeverRemote.elements _).bind fun _ => .pure _

theorem neverRemote_headerCells (startCell sheetName : Json) (count : Nat) :
    NeverRemote (headerCells startCell sheetName count) :=
  (NeverRemote.asString _).bind fun _ => (NeverRemote.cellReference _ _).bind fun _ =>
    (NeverRemote.lettersOf _).bind fun _ => .pure _

theorem neverRemote_rowRange (sheet : String) (cell : A1.CellReference) (lastColumn : String)
    (quote : Bool) : NeverRemote (rowRange sheet cell lastColumn quote) :=
  NeverRemote.rangeOf _ _ _ _ _ _

theorem neverRemote_checkHeaders (headers : List String) (rows : Json) :
    NeverRemote (checkHeaders headers rows) := by
  refine NeverRemote.bind ?_ fun cells => ?_
  · refine (NeverRemote.sequence _).bind fun items => ?_
    split
    · exact .pure _
    · rw [cellsOf.eq_def]
      split <;> first | exact .ok _ | exact .error rfl
  · split
    · exact .pure _
    · exact .error rfl

/-- The ranges of an inference are refused only for misuses of values. -/
theorem isDiagnosable_inferredRanges {title : Json} {cell : A1.CellReference} {lastColumn : String}
    {error : Error} (h : inferredRanges title cell lastColumn = .error error) :
    error.category.isDiagnosable = false := by
  rw [inferredRanges] at h
  cases title with
  | str name =>
    cases hrow : Decimal.isWritable (cell.row : Int) with
    | false =>
      rw [Json.asString, ok_bind, rowRange, A1.rangeOf_of_not_isWritable hrow, error_bind] at h
      rw [← Except.error.inj h]
      rfl
    | true =>
      rw [Json.asString, ok_bind, rowRange, A1.rangeOf_row hrow, ok_bind] at h
      cases hdata : Decimal.isWritable (((cell.row + 1 : Nat) : Int)) with
      | false =>
        rw [← Nat.cast_succ, A1.rangeOf_of_not_isWritable hdata, error_bind] at h
        rw [← Except.error.inj h]
        rfl
      | true =>
        rw [← Nat.cast_succ, A1.rangeOf_open hdata] at h
        cases h
  | _ =>
    rw [← Except.error.inj h]
    rfl

theorem neverRemote_ofValues (name type column row : Json) (required : Bool)
    (format description : Json) :
    NeverRemote (Field.ofValues name type column row required format description) := by
  have hname : NeverRemote (Field.nameOf name) := by
    rw [Field.nameOf.eq_def]
    split
    · split
      · exact .ok _
      · exact .error rfl
    · exact .error rfl
  have htype (name : String) : NeverRemote (Field.typeOf name type) := by
    rw [Field.typeOf]
    split
    · exact .ok _
    · exact .error rfl
  have hcolumn : NeverRemote (Field.columnOf column) := by
    rw [Field.columnOf.eq_def]
    split
    · simp only
      split
      · exact .ok _
      · exact .error rfl
    · exact .error rfl
  have hrow (name : String) : NeverRemote (Field.rowOf name row) := by
    rw [Field.rowOf]
    split
    · exact .ok _
    · exact .error rfl
  exact hname.bind fun _ => (htype _).bind fun _ => hcolumn.bind fun _ => (hrow _).bind fun _ =>
    .pure _

theorem neverRemote_fieldsFrom (start row lang : Json) (position : Nat) (taken : List String)
    (items : List (Json × Json)) :
    NeverRemote (fieldsFrom start row lang position taken items) := by
  have hletters (index : Number) : NeverRemote (Column.lettersOfNumber index) := by
    rw [Column.lettersOfNumber]
    split
    · exact .error rfl
    · split
      · exact .ok _
      · split
        · exact .ok _
        · exact .error rfl
  have hcolumn (position : Nat) : NeverRemote (columnAt start position) := by
    rw [columnAt]
    split
    · exact hletters _
    · exact .error rfl
  induction items generalizing position taken with
  | nil => exact .ok _
  | cons item items ih =>
    have hbase : NeverRemote (baseName position item.1 item.2) :=
      (NeverRemote.asString _).bind fun _ => .pure _
    exact hbase.bind fun _ => (hcolumn _).bind fun _ =>
      (neverRemote_ofValues _ _ _ _ _ _ _).bind fun _ => (ih _ _).bind fun _ => .pure _

theorem neverRemote_schema (fields : List Field) (sheetName spreadsheetId rangeName : Json) :
    NeverRemote (Schema.ofValues fields sheetName spreadsheetId rangeName) := by
  refine NeverRemote.bind ?_ fun _ => .pure _
  rw [Schema.sheetNameOf.eq_def]
  split
  · split
    · exact .ok _
    · exact .error rfl
  · exact .error rfl

/-- A stage that fails leaves its name. -/
theorem ends_within {α : Type} {stage : Stage} {x : Session σ α} {ok : α → World σ → Prop}
    {failed : Failure → World σ → Prop} :
    Session.Ends (within stage x) service w ok failed ↔
      Session.Ends x service w ok fun failure w' =>
        failed failure { w' with ledger := w'.ledger.set "failedStage" (.str stage.name) } := by
  rw [within]
  rcases hrun : x.run service w with ⟨failure | a, w'⟩
  · rw [Session.ends_iff_of_run_error hrun]
    exact Session.ends_iff_of_run_error (by rw [Session.run_orElse, hrun]; rfl)
  · rw [Session.ends_iff_of_run_ok hrun]
    exact Session.ends_iff_of_run_ok (by rw [Session.run_orElse, hrun])

/-! ## The name of the sheet -/

/-- The name of the sheet that a description leads to. -/
def titleIn (r : Request) (m : Metadata) : Except Error Json :=
  match m.findSheet? r.sheetName with
  | some sheet => .ok sheet.title
  | none => do
    throw (.sheetNotListed r.sheetName.text (← m.titleLine) r.spreadsheet.text)

/-- What the reply about a spreadsheet describes. -/
def description (r : Request) (reply : Reply) : Except Error Metadata :=
  reply.outcome (.metadataFailed r.spreadsheet.text) >>= Metadata.ofJson r.spreadsheet

/-- The name of the sheet that a reply about the spreadsheet leads to: the given one, if the call
has failed. -/
def titleOf (r : Request) (reply : Reply) : Except Error Json :=
  if reply.fails then .ok r.sheetName else description r reply >>= titleIn r

theorem neverRemote_titleIn (r : Request) (m : Metadata) : NeverRemote (titleIn r m) := by
  rw [titleIn]
  split
  · exact .ok _
  · exact (NeverRemote.titleLine m).bind fun _ => .error rfl

theorem isTransient_description {reply : Reply} {error : Error}
    (h : description r reply = .error error) : error.category.isTransient = reply.fails :=
  Reply.isTransient_eq_fails (fun _ => rfl) (NeverRemote.metadata _) h

theorem neverRemote_titleOf (r : Request) (reply : Reply) : NeverRemote (titleOf r reply) := by
  rw [titleOf]
  split
  · exact .ok _
  · next h =>
    refine NeverRemote.bind (fun error herror => ?_) (neverRemote_titleIn r)
    rw [isTransient_description herror]
    exact Bool.not_eq_true _ ▸ h

theorem run_metadata (r : Request) (service : Service σ) (w : World σ) :
    (Sheets.metadata r.spreadsheet).run service w =
      (Session.ofExcept (description r (service w.service (.metadata r.spreadsheet)).1)).run service
        (w.after service (.metadata r.spreadsheet)) :=
  Sheets.run_demand_bind ..

/-- The facts that resolving the sheet records. -/
def resolveFacts : List String :=
  ["metadataWarning", "metadataFetched", "sheetNotFound", "availableSheets", "sheetId",
    "exactSheetName"]

/-- All facts stay that resolving the sheet does not record. -/
def KeepsFacts (w w' : World σ) : Prop :=
  ∀ key ∉ resolveFacts, w'.ledger.get? key = w.ledger.get? key

theorem get?_set_of_mem {name : String} (hname : name ∈ resolveFacts) (ledger : Ledger)
    (value : Json) {key : String} (hkey : key ∉ resolveFacts) :
    (ledger.set name value).get? key = ledger.get? key := by
  refine Ledger.get?_set_of_ne _ _ ?_
  rintro rfl
  exact hkey hname

/-- Describing a spreadsheet takes one call. A call that fails leaves no description. -/
theorem run_describe (r : Request) (service : Service σ) (w : World σ) :
    ∃ w', (describe r).run service w =
        (Session.ofExcept
          (if (service w.service (.metadata r.spreadsheet)).1.fails then .ok none
          else (description r (service w.service (.metadata r.spreadsheet)).1).map some)).run
            service w' ∧
      World.SameRemote (w.after service (.metadata r.spreadsheet)) w' ∧ KeepsFacts w w' := by
  have hrun := Session.run_map_of_run (run_metadata r service w) some
  cases hdescription : description r (service w.service (.metadata r.spreadsheet)).1 with
  | ok m =>
    rw [hdescription] at hrun
    rw [describe, Session.run_onTransient_of_ok hrun, Reply.fails_eq_false_of_ok hdescription]
    exact ⟨_, rfl, refl_of _ _, fun _ _ => rfl⟩
  | error error =>
    rw [hdescription] at hrun
    rw [describe, Session.run_onTransient_of_error hrun, isTransient_description hdescription]
    cases (service w.service (.metadata r.spreadsheet)).1.fails with
    | true => exact ⟨_, rfl, ⟨rfl, rfl⟩, fun _ hkey => get?_set_of_mem (by decide) _ _ hkey⟩
    | false => exact ⟨_, rfl, refl_of _ _, fun _ _ => rfl⟩

/-- A sheet is found among those of a description, or the error tells which there are. -/
theorem run_titleIn (r : Request) (m : Metadata) (service : Service σ) (w : World σ) :
    ∃ w', (do
        Session.record "metadataFetched" (.str "success")
        match m.findSheet? r.sheetName with
        | none => do
          let available ← Session.ofExcept m.titleLine
          Session.record "sheetNotFound" (.bool true)
          Session.record "availableSheets" (.str available)
          Session.throw (.sheetNotListed r.sheetName.text available r.spreadsheet.text)
        | some sheet =>
          Session.record "sheetId" sheet.id
          Session.record "exactSheetName" sheet.title
          pure sheet.title : Session σ Json).run service w =
        (Session.ofExcept (titleIn r m)).run service w' ∧ World.SameRemote w w' ∧
      KeepsFacts w w' := by
  rw [Session.run_bind_of_ok (Session.run_record _ _ _ _), titleIn]
  cases m.findSheet? r.sheetName with
  | some sheet =>
    refine ⟨_, rfl, ⟨rfl, rfl⟩, fun key hkey => ?_⟩
    rw [get?_set_of_mem (by decide) _ _ hkey, get?_set_of_mem (by decide) _ _ hkey,
      get?_set_of_mem (by decide) _ _ hkey]
  | none =>
    cases m.titleLine with
    | ok available =>
      refine ⟨_, rfl, ⟨rfl, rfl⟩, fun key hkey => ?_⟩
      rw [get?_set_of_mem (by decide) _ _ hkey, get?_set_of_mem (by decide) _ _ hkey,
        get?_set_of_mem (by decide) _ _ hkey]
    | error error =>
      exact ⟨_, rfl, ⟨rfl, rfl⟩, fun key hkey => get?_set_of_mem (by decide) _ _ hkey⟩

/-- The sheet is resolved by one call, whose reply tells its name. -/
theorem run_resolveSheet (r : Request) (service : Service σ) (w : World σ) :
    ∃ w', (resolveSheet r).run service w =
        (Session.ofExcept (titleOf r (service w.service (.metadata r.spreadsheet)).1)).run
          service w' ∧
      World.SameRemote (w.after service (.metadata r.spreadsheet)) w' ∧ KeepsFacts w w' := by
  obtain ⟨w₁, hdescribe, hsame, hkeeps⟩ := run_describe r service w
  rw [resolveSheet, titleOf, Session.run_bind, hdescribe]
  cases (service w.service (.metadata r.spreadsheet)).1.fails with
  | true => exact ⟨w₁, rfl, hsame, hkeeps⟩
  | false =>
    cases description r (service w.service (.metadata r.spreadsheet)).1 with
    | error error => exact ⟨w₁, rfl, hsame, hkeeps⟩
    | ok m =>
      obtain ⟨w', hrun, hsame', hkeeps'⟩ := run_titleIn r m service w₁
      exact ⟨w', hrun, trans_of _ hsame hsame', fun key hkey =>
        (hkeeps' key hkey).trans (hkeeps key hkey)⟩

/-! ## The header row -/

/-- The header row that a request asks for, given the reply about the spreadsheet. -/
structure RowRequest (r : Request) (description : Reply) where
  headers : List String
  title : Json
  cell : A1.CellReference
  lastColumn : String
  /-- The range of the header row under the quoted sheet name. -/
  quoted : String
  /-- The range of the header row under the plain sheet name. -/
  plain : String
  headers_eq : expectedHeaders r = .ok headers
  title_eq : titleOf r description = .ok title
  cells_eq : headerCells r.startCell title headers.length = .ok (cell, lastColumn)
  quoted_eq : rowRange cell.sheet cell lastColumn true = .ok quoted
  plain_eq : rowRange cell.sheet cell lastColumn false = .ok plain

/-- The rows that a reply about a range holds. -/
def rowsIn (range : String) (reply : Reply) : Except Error Json :=
  reply.outcome (.readFailed range) >>= fun data => data.memberD "values" (.arr [])

theorem isTransient_rowsIn {range : String} {reply : Reply} {error : Error}
    (h : rowsIn range reply = .error error) : error.category.isTransient = reply.fails :=
  Reply.isTransient_eq_fails (fun _ => rfl) (fun data => NeverRemote.memberD data _ _) h

theorem run_values (spreadsheet : Json) (range : String) (service : Service σ) (w : World σ) :
    (Sheets.values spreadsheet (.str range)).run service w =
      (Session.ofExcept (rowsIn range (service w.service (.values spreadsheet (.str range))).1)).run
        service (w.after service (.values spreadsheet (.str range))) :=
  Sheets.run_demand_bind ..

/-- The header row as it is read after the first read has failed with `error`. -/
def readAgain (spreadsheet : Json) (quoted plain : String) (error : Error) : Session σ Json := do
  Session.record "headerRangeError" (.str error.message)
  Session.record "headerRangeFallback" (.str plain)
  let answer ← ((Sheets.values spreadsheet (.str plain)) >>= fun rows => pure (Except.ok rows))
    |>.onTransient fun error => pure (.error error)
  match answer with
  | .ok rows =>
    Session.forget "headerRangeError"
    pure rows
  | .error error =>
    Session.report Level.warning inferenceLogger
      s!"Header row fetch failed for {quoted} and {plain}: {error.message}"
    Session.record "headerRangeErrorFallback" (.str error.message)
    pure (.arr [])

/-- The rows of the second read: none, if it has failed as well. -/
def rowsAgain (plain : String) (reply : Reply) : Except Error Json :=
  if reply.fails then .ok (.arr []) else rowsIn plain reply

variable {spreadsheet : Json} {cell : A1.CellReference} {lastColumn quoted plain : String}

theorem run_fetchHeaderRow (hquoted : rowRange cell.sheet cell lastColumn true = .ok quoted)
    (hplain : rowRange cell.sheet cell lastColumn false = .ok plain) (service : Service σ)
    (w : World σ) : (fetchHeaderRow spreadsheet cell lastColumn).run service w =
      ((Sheets.values spreadsheet (.str quoted)).onTransient
        (readAgain spreadsheet quoted plain)).run service
          { w with ledger := w.ledger.set "headerRangeInput" (.str quoted) } := by
  rw [fetchHeaderRow, hquoted, hplain]
  rfl

/-- A header row that can be read under the quoted sheet name is read once. -/
theorem run_fetchHeaderRow_of_first
    (hquoted : rowRange cell.sheet cell lastColumn true = .ok quoted)
    (hplain : rowRange cell.sheet cell lastColumn false = .ok plain)
    (hfirst : (service w.service (.values spreadsheet (.str quoted))).1.fails = false) :
    ∃ w', (fetchHeaderRow spreadsheet cell lastColumn).run service w =
        (Session.ofExcept (rowsIn quoted
          (service w.service (.values spreadsheet (.str quoted))).1)).run service w' ∧
      World.SameRemote (w.after service (.values spreadsheet (.str quoted))) w' ∧
      w'.ledger = w.ledger.set "headerRangeInput" (.str quoted) := by
  have hrun := run_values spreadsheet quoted service
    { w with ledger := w.ledger.set "headerRangeInput" (.str quoted) }
  rw [run_fetchHeaderRow hquoted hplain]
  cases hrows : rowsIn quoted (service w.service (.values spreadsheet (.str quoted))).1 with
  | ok rows =>
    rw [hrows] at hrun
    rw [Session.run_onTransient_of_ok hrun]
    exact ⟨_, rfl, ⟨rfl, rfl⟩, rfl⟩
  | error error =>
    rw [hrows] at hrun
    rw [Session.run_onTransient_of_error hrun, isTransient_rowsIn hrows, hfirst]
    exact ⟨_, rfl, ⟨rfl, rfl⟩, rfl⟩

/-- Reading again takes one call. If that gives the header row, no fact tells of the failure of the
first read but the range that has been read instead. -/
theorem run_readAgain (spreadsheet : Json) (quoted plain : String) (error : Error)
    (service : Service σ) (w : World σ) :
    ∃ w', (readAgain spreadsheet quoted plain error).run service w =
        (Session.ofExcept (rowsAgain plain
          (service w.service (.values spreadsheet (.str plain))).1)).run service w' ∧
      World.SameRemote (w.after service (.values spreadsheet (.str plain))) w' ∧
      w'.ledger.get? "headerRangeFallback" = some (.str plain) ∧
      ∀ rows, rowsIn plain (service w.service (.values spreadsheet (.str plain))).1 = .ok rows →
        w'.ledger.get? "headerRangeError" = none := by
  rw [readAgain, Session.run_bind_of_ok (Session.run_record _ _ _ _),
    Session.run_bind_of_ok (Session.run_record _ _ _ _), Session.run_bind, rowsAgain]
  have hrun := Session.run_map_of_run (run_values spreadsheet plain service { w with
    ledger := (w.ledger.set "headerRangeError" (.str error.message)).set "headerRangeFallback"
      (.str plain) }) fun rows => (Except.ok rows : Except Error Json)
  cases hrows : rowsIn plain (service w.service (.values spreadsheet (.str plain))).1 with
  | ok rows =>
    rw [hrows] at hrun
    rw [Session.run_onTransient_of_ok hrun, Reply.fails_eq_false_of_ok hrows]
    refine ⟨_, rfl, ⟨rfl, rfl⟩, ?_, fun _ _ => Entries.get?_erase_self _ _⟩
    exact (Entries.get?_erase_of_ne _ (by decide)).trans (Ledger.get?_set_self _ _ _)
  | error second =>
    rw [hrows] at hrun
    rw [Session.run_onTransient_of_error hrun, isTransient_rowsIn hrows]
    cases (service w.service (.values spreadsheet (.str plain))).1.fails with
    | true =>
      refine ⟨_, rfl, ⟨rfl, rfl⟩, ?_, fun _ h => nomatch h⟩
      exact (Ledger.get?_set_of_ne _ _ (by decide)).trans (Ledger.get?_set_self _ _ _)
    | false => exact ⟨_, rfl, ⟨rfl, rfl⟩, Ledger.get?_set_self _ _ _, fun _ h => nomatch h⟩

/-- A header row that cannot be read under the quoted sheet name is read under the plain one. -/
theorem run_fetchHeaderRow_of_second
    (hquoted : rowRange cell.sheet cell lastColumn true = .ok quoted)
    (hplain : rowRange cell.sheet cell lastColumn false = .ok plain)
    (hfirst : (service w.service (.values spreadsheet (.str quoted))).1.fails = true) :
    ∃ w', (fetchHeaderRow spreadsheet cell lastColumn).run service w =
        (Session.ofExcept (rowsAgain plain (service (w.after service
          (.values spreadsheet (.str quoted))).service (.values spreadsheet (.str plain))).1)).run
            service w' ∧
      World.SameRemote ((w.after service (.values spreadsheet (.str quoted))).after service
        (.values spreadsheet (.str plain))) w' ∧
      w'.ledger.get? "headerRangeFallback" = some (.str plain) ∧
      ∀ rows, rowsIn plain (service (w.after service
          (.values spreadsheet (.str quoted))).service (.values spreadsheet (.str plain))).1 =
            .ok rows →
        w'.ledger.get? "headerRangeError" = none := by
  have hrun := run_values spreadsheet quoted service
    { w with ledger := w.ledger.set "headerRangeInput" (.str quoted) }
  obtain ⟨error, herror⟩ : ∃ error, rowsIn quoted
      (service w.service (.values spreadsheet (.str quoted))).1 = .error error :=
    Reply.exists_error_of_fails hfirst
  rw [herror] at hrun
  rw [run_fetchHeaderRow hquoted hplain, Session.run_onTransient_of_error hrun,
    isTransient_rowsIn herror, hfirst]
  exact run_readAgain spreadsheet quoted plain error service _

/-- A header row with a quoted range has a plain one. -/
theorem exists_plain (hquoted : rowRange cell.sheet cell lastColumn true = .ok quoted) :
    ∃ plain, rowRange cell.sheet cell lastColumn false = .ok plain := by
  have hwritable : Decimal.isWritable (cell.row : Int) = true := A1.isWritable_of_rangeOf hquoted
  exact ⟨_, A1.rangeOf_row hwritable _ _ _ _⟩

/-- Without a range nothing is read. -/
theorem run_fetchHeaderRow_of_error {error : Error}
    (h : rowRange cell.sheet cell lastColumn true = .error error) (service : Service σ)
    (w : World σ) : (fetchHeaderRow spreadsheet cell lastColumn).run service w =
      (.error ⟨error, []⟩, w) := by
  rw [fetchHeaderRow, h]
  rfl

end Header

end SheetSchema
