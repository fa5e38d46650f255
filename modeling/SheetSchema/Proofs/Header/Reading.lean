import Mathlib
import SheetSchema.Proofs.Header.Inference

/-!
# Which header row an inference reads

An inference describes the spreadsheet by its first call and reads the header row by its second one.
What it reads is on the sheet that the start cell stands on, and what it reports is on the sheet of
the schema. The two are the same exactly if the start cell names that sheet, or names none and the
sheet has no quotes around its name (`infer_reads_headerRange_iff`).
-/

namespace SheetSchema

/-! ## The sheet of a start cell -/

namespace A1

/-- A start cell stands on the sheet `title`: it names that sheet, or it names none and the title
has no quotes around it. -/
def standsOn (start title : List Char) : Bool :=
  match Text.breakOn? ['!'] (Text.trim start) with
  | some (sheet, _) => Text.trim (unquoteSheet sheet) == Text.trim title
  | none => !Text.isQuotedBy sheetQuote title

/-- A title in quotes is not what is left of it without them. -/
theorem trim_unquoteSheet_eq_iff (title : List Char) :
    Text.trim (unquoteSheet title) = Text.trim title ↔
      Text.isQuotedBy sheetQuote title = false := by
  cases hquoted : Text.isQuotedBy sheetQuote title with
  | false => simp [unquoteSheet_eq_self hquoted]
  | true =>
    simp only [Bool.true_eq_false, iff_false]
    intro h
    have hlength := congrArg List.length h
    rw [Text.trim_eq_self (noBlankEnds_of_isQuotedBy (by decide) hquoted)] at hlength
    have := Text.length_trim_le (unquoteSheet title)
    have := length_unquoteSheet_lt hquoted
    omega

/-- The sheet of a start cell is the given one, up to blanks, if the cell stands on it. -/
theorem trim_sheetOf_eq_iff (start title : List Char) :
    Text.trim (CellReference.sheetOf start title) = Text.trim title ↔
      standsOn start title = true := by
  rw [CellReference.sheetOf, standsOn]
  cases Text.breakOn? ['!'] (Text.trim start) with
  | some parts => exact beq_iff_eq.symm
  | none =>
    rw [Bool.not_eq_true']
    exact trim_unquoteSheet_eq_iff title

theorem quoteSheet_eq_iff {a b : String} :
    quoteSheet a = quoteSheet b ↔ Text.trim a.toList = Text.trim b.toList := by
  rw [quoteSheet, quoteSheet, String.ofList_inj, quoteTrimmed_injective.eq_iff]

theorem range_inj {a b first last : String} : range a first last = range b first last ↔ a = b := by
  rw [← String.toList_inj, toList_range, toList_range, List.append_left_inj, String.toList_inj]

end A1

namespace Header

variable {σ : Type} {service : Service σ} {w w' : World σ} {t : Translator} {r : Request}
  {i : Inference}

/-- The header ranges of two sheets with the same cells are the same if the sheet names are, up to
blanks. -/
theorem rowRange_eq_iff {a b : String} {cell : A1.CellReference} {lastColumn : String}
    {first second : String} (ha : rowRange a cell lastColumn true = .ok first)
    (hb : rowRange b cell lastColumn true = .ok second) :
    first = second ↔ Text.trim a.toList = Text.trim b.toList := by
  have hrow : Decimal.isWritable (cell.row : Int) = true := A1.isWritable_of_rangeOf ha
  rw [rowRange, A1.rangeOf_row hrow] at ha hb
  obtain rfl := Except.ok.inj ha
  obtain rfl := Except.ok.inj hb
  rw [A1.range_inj]
  exact A1.quoteSheet_eq_iff

/-! ## Calls -/

/-- Describing a spreadsheet takes one call, whether it succeeds or not. -/
theorem calls_describe {m? : Option Metadata}
    (h : (describe r).run service w = (.ok m?, w')) :
    w'.calls = w.calls ++ [.metadata r.spreadsheet] := by
  rcases Session.run_onTransient_eq_ok_iff.mp h with h | ⟨e, w₁, h, hrest, -⟩
  · obtain ⟨m, w₁, hm, hpure⟩ := Session.run_bind_eq_ok_iff.mp h
    obtain ⟨-, rfl⟩ := Prod.mk.inj hpure
    rw [Sheets.world_metadata hm]
    rfl
  · have hafter : w₁ = w.after service (.metadata r.spreadsheet) := by
      rcases Session.run_bind_eq_error_iff.mp h with h | ⟨m, w₂, -, hpure⟩
      · exact Sheets.world_metadata h
      · cases hpure
    have hsame : World.SameRemote w₁ w' := by
      refine Session.Respects.of_run ?_ hrest
      exact (Session.Respects.sameRemote_report _ _ _).bind fun _ =>
        (Session.Respects.sameRemote_record _ _).bind fun _ => Session.Respects.pure _
    rw [hsame.1, hafter]
    rfl

/-- Resolving the sheet takes one call. -/
theorem calls_resolveSheet {given : Json} (h : (resolveSheet r).run service w = (.ok given, w')) :
    w'.calls = w.calls ++ [.metadata r.spreadsheet] := by
  obtain ⟨m?, w₁, hdescribe, hrest⟩ := Session.run_bind_eq_ok_iff.mp h
  have hsame : World.SameRemote w₁ w' := by
    refine Session.Respects.of_run ?_ hrest
    cases m? with
    | none => exact Session.Respects.pure _
    | some m =>
      refine (Session.Respects.sameRemote_record _ _).bind fun _ => ?_
      split
      · exact (Session.Respects.ofExcept _).bind fun _ =>
          (Session.Respects.sameRemote_record _ _).bind fun _ =>
            (Session.Respects.sameRemote_record _ _).bind fun _ => Session.Respects.throw _
      · exact (Session.Respects.sameRemote_record _ _).bind fun _ =>
          (Session.Respects.sameRemote_record _ _).bind fun _ => Session.Respects.pure _
  rw [hsame.1, calls_describe hdescribe]

theorem extends_values {key : String} (spreadsheet range : Json) :
    Session.Respects (World.Extends key) (Sheets.values spreadsheet range : Session σ Json) := by
  refine Session.Respects.bind ?_ fun data => Session.Respects.ofExcept _
  refine (Session.Respects.extends_call _).bind fun reply => ?_
  cases reply with
  | ok value => exact Session.Respects.pure _
  | refused code message => exact Session.Respects.throw _
  | unreachable reason => exact Session.Respects.throw _
  | unreadable reason => exact Session.Respects.throw _
  | broken error => exact Session.Respects.throw _

/-- The first range that is read for the header row is on the sheet of the cell, and the fact about
it says so. -/
theorem of_fetchHeaderRow {spreadsheet rows : Json} {cell : A1.CellReference} {lastColumn : String}
    (h : (fetchHeaderRow spreadsheet cell lastColumn).run service w = (.ok rows, w')) :
    ∃ read, rowRange cell.sheet cell lastColumn true = .ok read ∧
      (∃ rest, w'.calls = w.calls ++ .values spreadsheet (.str read) :: rest) ∧
      w'.ledger.get? "headerRangeInput" = some (.str read) := by
  simp only [fetchHeaderRow, Session.run_bind_eq_ok_iff, Session.run_ofExcept_eq_ok_iff,
    Session.run_record, Prod.mk.injEq] at h
  obtain ⟨read, _, ⟨hread, rfl⟩, fallback, _, ⟨-, rfl⟩, _, _, ⟨-, rfl⟩, h⟩ := h
  set recorded : World σ := { w with ledger := w.ledger.set "headerRangeInput" (.str read) }
  have hextends : World.Extends "headerRangeInput"
      (recorded.after service (.values spreadsheet (.str read))) w' := by
    rcases Session.run_onTransient_eq_ok_iff.mp h with h | ⟨e, w₁, h, hrest, -⟩
    · rw [Sheets.world_values h]
      exact refl_of _ _
    · rw [← Sheets.world_values h]
      refine Session.Respects.of_run ?_ hrest
      refine (Session.Respects.extends_record (by decide) _).bind fun _ =>
        (Session.Respects.extends_record (by decide) _).bind fun _ => ?_
      refine (Session.Respects.onTransient ((extends_values _ _).bind fun _ =>
        Session.Respects.pure _) fun _ => Session.Respects.pure _).bind fun answer => ?_
      cases answer with
      | ok rows =>
        exact (Session.Respects.extends_forget (by decide)).bind fun _ => Session.Respects.pure _
      | error error =>
        exact (Session.Respects.extends_report _ _ _).bind fun _ =>
          (Session.Respects.extends_record (by decide) _).bind fun _ => Session.Respects.pure _
  obtain ⟨⟨rest, hcalls⟩, hfact⟩ := hextends
  refine ⟨read, hread, ⟨rest, ?_⟩, ?_⟩
  · rw [← hcalls]
    simp [recorded, World.after]
  · rw [hfact]
    exact Ledger.get?_set_self _ _ _

/-! ## What is read and what is reported -/

/-- An inference that succeeds has read its header row from the sheet that the start cell stands on:
the range that it reads first is the one that it reports if and only if that is the sheet of the
schema. -/
theorem infer_reads_headerRange_iff (h : (infer t r).run service w = (.ok i, w')) :
    ∃ start read rest, r.startCell = .str start ∧
      w'.calls = w.calls ++
        .metadata r.spreadsheet :: .values r.spreadsheet (.str read) :: rest ∧
      i.debug.get? "headerRangeInput" = some (.str read) ∧
      (read = i.headerRange ↔ A1.standsOn start.toList i.schema.sheetName.toList = true) := by
  obtain ⟨T⟩ := exists_trace h
  obtain ⟨read, hread, ⟨rest, hcalls⟩, hfact⟩ := of_fetchHeaderRow T.fetched_eq
  obtain ⟨⟨more, hmore⟩, hkept⟩ := T.extends_fetched
  have hsheet := (A1.CellReference.of_parse T.cell_eq).1
  refine ⟨T.start, read, rest ++ more, T.start_eq, ?_, ?_, ?_⟩
  · rw [← hmore, hcalls, calls_resolveSheet T.resolved_eq]
    simp
  · rw [T.debug_eq, hkept, hfact]
  · rw [rowRange_eq_iff hread T.headerRange_eq, hsheet, String.toList_ofList]
    exact A1.trim_sheetOf_eq_iff T.start.toList i.schema.sheetName.toList

/-- A request for a sheet whose start cell names another one. -/
def strayRequest : Request where
  spreadsheet := .str "book"
  sheetName := .str "Tasks"
  headers := .arr [.str "ID", .str "name"]
  startCell := .str "Other!A1"

/-- What a spreadsheet with both sheets answers: its description, then the row that is asked for. -/
def strayReplies : List Reply :=
  [.ok (.obj [("sheets", .arr [
      .obj [("properties", .obj [("sheetId", .int 0), ("title", .str "Tasks")])],
      .obj [("properties", .obj [("sheetId", .int 1), ("title", .str "Other")])]])]),
    .ok (.obj [("values", .arr [.arr [.str "ID", .str "name"]])])]

/-- A start cell that names another sheet makes a schema of one sheet from the headers of another.
-/
theorem infer_reads_other_sheet :
    ∃ i w' read, (infer {} strayRequest).run scripted { service := strayReplies } = (.ok i, w') ∧
      i.schema.sheetName = "Tasks" ∧ i.debug.get? "headerRangeInput" = some (.str read) ∧
      read ≠ i.headerRange := by
  obtain ⟨i, w', hrun⟩ := Session.exists_run_of_isOk (infer {} strayRequest) scripted
    { service := strayReplies } (by decide +kernel)
  have hname : ((infer {} strayRequest).run scripted { service := strayReplies }).1.toOption.map
      (fun i => i.schema.sheetName) = some "Tasks" := by decide +kernel
  rw [hrun] at hname
  have htitle : i.schema.sheetName = "Tasks" := by simpa [Except.toOption] using hname
  obtain ⟨start, read, rest, hstart, -, hfact, hread⟩ := infer_reads_headerRange_iff hrun
  obtain rfl : "Other!A1" = start := Json.str.inj hstart
  refine ⟨i, w', read, hrun, htitle, hfact, ?_⟩
  rw [ne_eq, hread, htitle]
  decide +kernel

end Header

end SheetSchema
