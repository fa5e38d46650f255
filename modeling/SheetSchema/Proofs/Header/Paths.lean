import Mathlib
import SheetSchema.Proofs.Header.Stages
import SheetSchema.Proofs.Header.Tiers

/-!
# The paths to a header row

An inference comes to its header row on one of four paths: the spreadsheet can be described or not,
and the row is found by the first read or by the second. `Leads` says that the services let it come
to given rows on one of them. What is seen of an inference, its `Report`, does not tell the paths
apart: it is that of a computation which knows the rows from the start (`reportOf`), so it is the
same on all of them (`report_inferWith`).

This holds whatever translates the headers, as long as it answers by the state of the services and
not by what an inference has noted about itself (`Session.IgnoresFacts`). The translation by tiers
is such a one (`ignoresFacts_translate`).
-/

namespace SheetSchema

variable {σ : Type}

/-- The outcome of the session depends on the state of the service alone, and not on the calls, the
log and the facts of the run. -/
def Session.IgnoresFacts {α : Type} (x : Session σ α) : Prop :=
  ∀ (service : Service σ) (w w' : World σ), w.service = w'.service →
    (x.run service w).1 = (x.run service w').1

namespace Header

variable {service : Service σ} {w w' : World σ} {r : Request}

/-! ## Paths -/

/-- The description of the spreadsheet lists the sheet. -/
def Lists (r : Request) (reply : Reply) : Prop :=
  ∃ m sheet, description r reply = .ok m ∧ m.findSheet? r.sheetName = some sheet ∧
    sheet.title = r.sheetName

/-- A sheet that is asked for by a text is listed if some sheet has it for its title. -/
theorem lists_iff_of_text {name : String} (h : r.sheetName = .str name) {reply : Reply} :
    Lists r reply ↔ ∃ m, description r reply = .ok m ∧ .str name ∈ m.titles := by
  have hsame (sheet : Sheet) : sheet.title.same r.sheetName = true ↔ sheet.title = .str name := by
    rw [h, Json.same_str, decide_eq_true_iff]
  constructor
  · rintro ⟨m, sheet, hm, hfind, htitle⟩
    refine ⟨m, hm, List.mem_map.mpr ⟨sheet, List.mem_of_find?_eq_some hfind, ?_⟩⟩
    rw [htitle, h]
  · rintro ⟨m, hm, hmem⟩
    obtain ⟨sheet, hsheet, htitle⟩ := List.mem_map.mp hmem
    obtain ⟨found, hfound⟩ : ∃ found, m.findSheet? r.sheetName = some found :=
      Option.isSome_iff_exists.mp (List.find?_isSome.mpr ⟨sheet, hsheet, (hsame sheet).mpr htitle⟩)
    refine ⟨m, found, hm, hfound, ?_⟩
    have hfits := List.find?_some hfound
    rw [h]
    exact (hsame found).mp hfits

/-- From the state `s` on the rows are found in the quoted range or, if that cannot be read, in the
plain one, which leaves the state `later`. -/
inductive Finds (service : Service σ) (spreadsheet : Json) (quoted plain : String) (rows : Json)
    (s later : σ) : Prop
  | first {reply : Reply} (hread : service s (.values spreadsheet (.str quoted)) = (reply, later))
      (hrows : rowsIn quoted reply = .ok rows)
  | second {failed reply : Reply} {between : σ}
      (hfailed : service s (.values spreadsheet (.str quoted)) = (failed, between))
      (hfails : failed.fails = true)
      (hread : service between (.values spreadsheet (.str plain)) = (reply, later))
      (hrows : rowsIn plain reply = .ok rows)

/-- From the state `s` on, the services let an inference come to the rows, and then are in the state
`later`. -/
structure Leads (service : Service σ) (r : Request) (rows : Json) (s later : σ) : Prop where
  /-- The description lists the sheet, or cannot be had. -/
  described : Lists r (service s (.metadata r.spreadsheet)).1 ∨
    (service s (.metadata r.spreadsheet)).1.fails = true
  found : ∀ row : RowRequest r (service s (.metadata r.spreadsheet)).1,
    Finds service r.spreadsheet row.quoted row.plain rows
      (service s (.metadata r.spreadsheet)).2 later

/-! ## What is seen of an inference -/

/-- What is seen of an inference: the schema with its ranges, or the error with the stage that it
tells. -/
inductive Report where
  | inferred (schema : Schema) (headerRange dataRange : String)
  | failed (error : Error) (stage? : Option Json)
deriving DecidableEq

/-- The report of an outcome. -/
def report : Except Failure Inference → Report
  | .ok i => .inferred i.schema i.headerRange i.dataRange
  | .error failure => .failed failure.error (Entries.get? failure.facts "failedStage")

/-- The report of a stage that fails. -/
def Stage.report (stage : Stage) (failure : Failure) : Report :=
  Header.report (.error (failure.attach [("failedStage", .str stage.name)]))

/-- The report of an inference once the headers are translated. -/
def reportOfFields (r : Request) (headers : List String) (cell : A1.CellReference)
    (title headerRange dataRange : String) (translated : List Json) : Report :=
  match fieldsOf translated (headers.map .str) (.int cell.columnIndex) (.int cell.row) r.lang >>=
    fun fields => Schema.ofValues fields (.str title) r.spreadsheet .null with
  | .error error => Stage.buildFields.report ⟨error, []⟩
  | .ok schema => .inferred schema headerRange dataRange

/-- The report of an inference once the header row matches, where `translated` is the outcome of
translating the headers. -/
def reportOfRow (r : Request) (headers : List String) (cell : A1.CellReference)
    (lastColumn : String) (translated : Except Failure (List Json)) : Report :=
  match inferredRanges r.sheetName cell lastColumn with
  | .error error => .failed error none
  | .ok (title, headerRange, dataRange) =>
    match translated with
    | .error failure => Stage.translate.report failure
    | .ok translated => reportOfFields r headers cell title headerRange dataRange translated

/-- The report of an inference that knows the rows, where `translated` tells the outcome of
translating some headers. -/
def reportOf (r : Request) (rows : Json)
    (translated : List String → Except Failure (List Json)) : Report :=
  match expectedHeaders r with
  | .error error => Stage.resolveSheet.report ⟨error, []⟩
  | .ok headers =>
    match headerCells r.startCell r.sheetName headers.length with
    | .error error => Stage.parseHeaderCell.report ⟨error, []⟩
    | .ok (cell, lastColumn) =>
      match rowRange cell.sheet cell lastColumn true with
      | .error error => Stage.fetchHeaderRow.report ⟨error, []⟩
      | .ok _ =>
        match checkHeaders headers rows with
        | .error error => Stage.validateMatch.report ⟨error, []⟩
        | .ok () => reportOfRow r headers cell lastColumn (translated headers)

/-- A stage that fails has the report of its failure, whatever other facts there are. -/
theorem report_attach (failure : Failure) (ledger : Ledger) (stage : Stage) :
    report (.error (failure.attach (ledger.set "failedStage" (.str stage.name)).facts)) =
      stage.report failure := by
  rw [Stage.report, report, report, Failure.attach, Failure.attach]
  split
  · refine congrArg _ (Entries.get?_putAll_congr ?_ failure.facts)
    exact Ledger.get?_set_self _ _ _
  · rfl

variable {rows : Json} {later : σ}

theorem Leads.titleOf_eq (h : Leads service r rows w.service later) :
    titleOf r (service w.service (.metadata r.spreadsheet)).1 = .ok r.sheetName := by
  rw [titleOf]
  rcases h.described with ⟨m, sheet, hm, hfind, htitle⟩ | hfails
  · rw [if_neg (Bool.eq_false_iff.mp (Reply.fails_eq_false_of_ok hm)), hm, ok_bind, titleIn, hfind]
    exact congrArg _ htitle
  · rw [if_pos hfails]

/-- The rows that are found are fetched. -/
theorem Finds.run_fetchHeaderRow {cell : A1.CellReference} {lastColumn quoted plain : String}
    (h : Finds service r.spreadsheet quoted plain rows w.service later)
    (hquoted : rowRange cell.sheet cell lastColumn true = .ok quoted)
    (hplain : rowRange cell.sheet cell lastColumn false = .ok plain) :
    ∃ w', (fetchHeaderRow r.spreadsheet cell lastColumn).run service w = (.ok rows, w') ∧
      w'.service = later := by
  cases h with
  | @first reply hread hrows =>
    have hfails : (service w.service (.values r.spreadsheet (.str quoted))).1.fails = false := by
      rw [hread]
      exact Reply.fails_eq_false_of_ok hrows
    obtain ⟨w', hrun, hsame, -⟩ := run_fetchHeaderRow_of_first hquoted hplain hfails
    rw [hread, hrows] at hrun
    refine ⟨w', hrun, ?_⟩
    rw [hsame.2, World.after, hread]
  | @second failed reply between hfailed hfails hread hrows =>
    have hfirst : (service w.service (.values r.spreadsheet (.str quoted))).1.fails = true := by
      rw [hfailed]
      exact hfails
    have hbetween : (w.after service (.values r.spreadsheet (.str quoted))).service = between := by
      rw [World.after, hfailed]
    obtain ⟨w', hrun, hsame, -⟩ := run_fetchHeaderRow_of_second hquoted hplain hfirst
    rw [hbetween, hread, rowsAgain,
      if_neg (Bool.eq_false_iff.mp (Reply.fails_eq_false_of_ok hrows)), hrows] at hrun
    refine ⟨w', hrun, ?_⟩
    rw [hsame.2, World.after, hbetween, hread]

/-! ## Inferences -/

variable {translation : List String → Json → Session σ (List Json)}

/-- What is seen of a failure whose stage is not told is its error. -/
theorem report_misuse {error : Error} (herror : error.category.isDiagnosable = false)
    (facts : Entries Json) :
    report (.error (Failure.attach ⟨error, []⟩ facts)) = .failed error none := by
  rw [Failure.attach, if_neg (Bool.eq_false_iff.mp herror)]
  rfl

/-- The translation of the headers, if they have a language. -/
def translatedBy (translation : List String → Json → Session σ (List Json)) (r : Request)
    (headers : List String) : Session σ (List Json) :=
  if r.lang.truthy then translation headers r.lang else pure (headers.map .str)

theorem ignoresFacts_translatedBy (h : ∀ headers lang, (translation headers lang).IgnoresFacts)
    (r : Request) (headers : List String) : (translatedBy translation r headers).IgnoresFacts := by
  rw [translatedBy]
  split
  · exact h headers r.lang
  · exact fun _ _ _ _ => rfl

/-- The session, run with a ledger of its own, has this report. -/
def HasReport (x : Session σ Inference) (service : Service σ) (w : World σ) (seen : Report) :
    Prop :=
  Session.Ends x service w (fun i _ => report (.ok i) = seen) fun failure w' =>
    report (.error (failure.attach w'.ledger.facts)) = seen

theorem hasReport_buildFields (headers : List String) (cell : A1.CellReference)
    (title headerRange dataRange : String) (translated : List Json) :
    HasReport (within .buildFields do
        let fields ← Session.ofExcept
          (fieldsOf translated (headers.map .str) (.int cell.columnIndex) (.int cell.row) r.lang)
        let schema ← Session.ofExcept (Schema.ofValues fields (.str title) r.spreadsheet .null)
        return (⟨schema, headerRange, dataRange, ← Session.ledger⟩ : Inference)) service w
      (reportOfFields r headers cell title headerRange dataRange translated) := by
  rw [HasReport, ends_within, Session.ends_bind, reportOfFields]
  cases fieldsOf translated (headers.map .str) (.int cell.columnIndex) (.int cell.row) r.lang with
  | error error =>
    rw [Session.ends_error]
    exact report_attach _ _ _
  | ok fields =>
    rw [Session.ends_ok, Session.ends_bind, ok_bind]
    cases Schema.ofValues fields (.str title) r.spreadsheet .null with
    | error error =>
      rw [Session.ends_error]
      exact report_attach _ _ _
    | ok schema =>
      rw [Session.ends_ok, Session.ends_bind, Session.ends_ledger, Session.ends_pure]
      rfl

/-- Once the header row matches, the report is told by the outcome of the translation. -/
theorem hasReport_inferFromRow (headers : List String) (cell : A1.CellReference)
    (lastColumn : String) (hservice : w'.service = w.service)
    (htranslation : (translatedBy translation r headers).IgnoresFacts) :
    HasReport (inferFromRow translation r headers r.sheetName cell lastColumn) service w'
      (reportOfRow r headers cell lastColumn
        ((translatedBy translation r headers).run service w).1) := by
  rw [HasReport, inferFromRow, Session.ends_bind, reportOfRow]
  cases hranges : inferredRanges r.sheetName cell lastColumn with
  | error error =>
    rw [Session.ends_error]
    exact report_misuse (isDiagnosable_inferredRanges hranges) _
  | ok ranges =>
    obtain ⟨title, headerRange, dataRange⟩ := ranges
    simp only [Session.ends_ok, Session.ends_bind, Session.ends_record]
    rw [ends_within, ← translatedBy]
    generalize hnoted : World.mk w'.service w'.calls w'.log _ _ = noted
    have houtcome := htranslation service noted w (by rw [← hnoted, hservice])
    rcases hrun : (translatedBy translation r headers).run service noted with
      ⟨failure | translated, w₂⟩
    · rw [hrun] at houtcome
      rw [Session.ends_iff_of_run_error hrun, ← houtcome]
      exact report_attach _ _ _
    · rw [hrun] at houtcome
      rw [Session.ends_iff_of_run_ok hrun, ← houtcome]
      exact hasReport_buildFields headers cell title headerRange dataRange translated

/-- An inference that is led to some rows is seen as one that knows them. -/
theorem hasReport_inferStages (h : Leads service r rows w.service later)
    (htranslation : ∀ headers lang, (translation headers lang).IgnoresFacts) :
    HasReport (inferStages translation r) service w (reportOf r rows fun headers =>
      ((translatedBy translation r headers).run service { service := later }).1) := by
  rw [HasReport, inferStages, Session.ends_bind, ends_within, Session.ends_bind]
  cases hheaders : expectedHeaders r with
  | error error =>
    rw [Session.ends_error]
    simp only [reportOf, hheaders]
    exact report_attach _ _ _
  | ok headers =>
    obtain ⟨w₁, hrun, hsame, -⟩ := run_resolveSheet r service w
    rw [h.titleOf_eq] at hrun
    rw [Session.ends_ok, Session.ends_bind, Session.ends_iff_of_run_ok hrun, Session.ends_pure,
      Session.ends_bind, ends_within]
    cases hcells : headerCells r.startCell r.sheetName headers.length with
    | error error =>
      rw [Session.ends_error]
      simp only [reportOf, hheaders, hcells]
      exact report_attach _ _ _
    | ok cells =>
      obtain ⟨cell, lastColumn⟩ := cells
      rw [Session.ends_ok, Session.ends_bind, ends_within]
      cases hquoted : rowRange cell.sheet cell lastColumn true with
      | error error =>
        rw [Session.ends_iff_of_run_error (run_fetchHeaderRow_of_error hquoted service w₁)]
        simp only [reportOf, hheaders, hcells, hquoted]
        exact report_attach _ _ _
      | ok quoted =>
        obtain ⟨plain, hplain⟩ := exists_plain hquoted
        let row : RowRequest r (service w.service (.metadata r.spreadsheet)).1 :=
          ⟨headers, r.sheetName, cell, lastColumn, quoted, plain, hheaders, h.titleOf_eq, hcells,
            hquoted, hplain⟩
        have hfinds : Finds service r.spreadsheet quoted plain rows w₁.service later := by
          rw [hsame.2]
          exact h.found row
        obtain ⟨w₂, hfetch, hlater⟩ := hfinds.run_fetchHeaderRow hquoted hplain
        rw [Session.ends_iff_of_run_ok hfetch, Session.ends_bind, ends_within]
        cases hcheck : checkHeaders headers rows with
        | error error =>
          rw [Session.ends_error]
          simp only [reportOf, hheaders, hcells, hquoted, hcheck]
          exact report_attach _ _ _
        | ok _ =>
          rw [Session.ends_ok]
          simp only [reportOf, hheaders, hcells, hquoted, hcheck]
          exact hasReport_inferFromRow headers cell lastColumn hlater
            (ignoresFacts_translatedBy htranslation r headers)

/-- The translation by tiers answers by the state of the service. -/
theorem ignoresFacts_translate (t : Translator) (headers : List String) (source : Json) :
    (translate t headers source : Session σ (List Json)).IgnoresFacts := by
  intro service w w' hservice
  cases hasked : asked? t headers with
  | none =>
    obtain ⟨w₁, hrun, -⟩ := run_translate_of_unasked hasked source service w
    obtain ⟨w₂, hrun', -⟩ := run_translate_of_unasked hasked source service w'
    rw [hrun, hrun']
  | some address =>
    obtain ⟨w₁, hrun, -⟩ := run_translate_of_asked hasked source service w
    obtain ⟨w₂, hrun', -⟩ := run_translate_of_asked hasked source service w'
    rw [hrun, hrun', hservice]

/-! ## The main result -/

/-- An inference that is led to some rows has the report of one that knows them. -/
theorem report_inferWith (h : Leads service r rows w.service later)
    (htranslation : ∀ headers lang, (translation headers lang).IgnoresFacts) :
    report ((inferWith translation r).run service w).1 = reportOf r rows fun headers =>
      ((translatedBy translation r headers).run service { service := later }).1 := by
  set seen := reportOf r rows fun headers =>
    ((translatedBy translation r headers).run service { service := later }).1
  let P (outcome : Except Failure Inference) (_ : World σ) : Prop := report outcome = seen
  have hends : Session.Ends (inferWith translation r) service w (fun i => P (.ok i))
      fun failure => P (.error failure) :=
    Session.ends_recording.mpr (hasReport_inferStages h htranslation)
  exact hends.run

/-- Two inferences that are led to the same rows, on whatever paths, have the same report. -/
theorem report_eq_of_leads (r : Request) (rows : Json) (service : Service σ) (w w' : World σ)
    (later : σ) (h : Leads service r rows w.service later)
    (h' : Leads service r rows w'.service later) :
    (∀ translation : List String → Json → Session σ (List Json),
      (∀ headers lang, (translation headers lang).IgnoresFacts) →
      report ((inferWith translation r).run service w).1 =
        report ((inferWith translation r).run service w').1) ∧
    ∀ t : Translator, report ((infer t r).run service w).1 =
      report ((infer t r).run service w').1 := by
  have hreport (translation : List String → Json → Session σ (List Json))
      (htranslation : ∀ headers lang, (translation headers lang).IgnoresFacts) :
      report ((inferWith translation r).run service w).1 =
        report ((inferWith translation r).run service w').1 := by
    rw [report_inferWith h htranslation, report_inferWith h' htranslation]
  exact ⟨hreport, fun t => hreport _ fun headers lang => ignoresFacts_translate t headers lang⟩

section Scripts

variable {description failed answer : Reply}

/-- Replies in a row lead to the rows of the second one. -/
theorem leads_first (hdescribed : Lists r description ∨ description.fails = true)
    (hrows : ∀ range, rowsIn range answer = .ok rows) (later : List Reply) :
    Leads scripted r rows (description :: answer :: later) later :=
  ⟨hdescribed, fun _ => .first rfl (hrows _)⟩

/-- Replies in a row lead to the rows of the third one if the second has failed. -/
theorem leads_second (hdescribed : Lists r description ∨ description.fails = true)
    (hfails : failed.fails = true) (hrows : ∀ range, rowsIn range answer = .ok rows)
    (later : List Reply) :
    Leads scripted r rows (description :: failed :: answer :: later) later :=
  ⟨hdescribed, fun _ => .second rfl hfails rfl (hrows _)⟩

end Scripts

/-- A request for two headers in Japanese. -/
def taskRequest : Request where
  spreadsheet := .str "book"
  sheetName := .str "Tasks"
  headers := .arr [.str "ID", .str "名前"]
  startCell := .str "B3"
  lang := .str "ja"

/-- The rows that hold the headers. -/
def taskRows : Json := .arr [.arr [.str " ID ", .str "名前"]]

/-- The header row is found. -/
def taskAnswer : Reply := .ok (.obj [("values", taskRows)])

/-- The spreadsheet has the sheet, and the quoted range can be read. -/
def directReplies : List Reply :=
  [.ok (.obj [("sheets", .arr [
    .obj [("properties", .obj [("sheetId", .int 7), ("title", .str "Tasks")])]])]), taskAnswer]

/-- The spreadsheet cannot be described, and only the plain range can be read. -/
def degradedReplies : List Reply :=
  [.unreachable "no route", .refused (.int 400) (.str "Unable to parse range"), taskAnswer]

/-- An inference that meets both failures has the report of one that meets none, and so it has if
the headers cannot be translated. -/
theorem report_degraded_eq_direct :
    Leads scripted taskRequest taskRows directReplies [] ∧
    Leads scripted taskRequest taskRows degradedReplies [] ∧
    ((infer {} taskRequest).run scripted { service := directReplies }).1.isOk = true ∧
    report ((infer {} taskRequest).run scripted { service := directReplies }).1 =
      report ((infer {} taskRequest).run scripted { service := degradedReplies }).1 ∧
    report ((inferWith (fun _ _ => Session.throw .notProvided) taskRequest).run scripted
        { service := directReplies }).1 =
      report ((inferWith (fun _ _ => Session.throw .notProvided) taskRequest).run scripted
        { service := degradedReplies }).1 := by
  have hdirect : Leads scripted taskRequest taskRows directReplies [] :=
    leads_first (.inl ((lists_iff_of_text rfl).mpr ⟨_, rfl, by decide⟩)) (fun _ => rfl) []
  have hdegraded : Leads scripted taskRequest taskRows degradedReplies [] :=
    leads_second (.inr rfl) rfl (fun _ => rfl) []
  obtain ⟨hany, htiers⟩ := report_eq_of_leads taskRequest taskRows scripted
    { service := directReplies } { service := degradedReplies } [] hdirect hdegraded
  exact ⟨hdirect, hdegraded, by decide +kernel, htiers {}, hany _ fun _ _ _ _ _ _ => rfl⟩

end Header

end SheetSchema
