import Mathlib
import SheetSchema.Proofs.A1.Range
import SheetSchema.Proofs.Service.Sheets
import SheetSchema.Proofs.Sync.Book

/-!
# Replacing a named range

A synchronisation describes the spreadsheet, makes a plan and submits the batch of that plan; it
does nothing else to the service. `Plan.Fits` says what the plan is, `of_apply` and
`of_apply_error` what a run did to the service, whether it succeeds or not. Up to the batch a run
has nothing to do with the files (`ignoresFiles_apply`), and what comes after it works on files only
(`of_synchronize`, `of_synchronize_error`).

On a service that keeps a book, a run that succeeds rebinds its name to the region that it reports
(`apply_rebinds`), and a batch that does not go through leaves the book as it was
(`apply_unchanged`).
-/

namespace SheetSchema.Sync

variable {σ : Type} {service : Service σ} {w w' : World σ} {r : Request} {t : Target}
  {m : Metadata} {p : Plan}

/-! ## Requests -/

theorem normalized_eq_ok_iff {spreadsheet name : Json} {text rangeText : String} :
    normalized ⟨spreadsheet, name, .str text⟩ = .ok rangeText ↔
      spreadsheet.truthy = true ∧ name.truthy = true ∧ text ≠ "" ∧
        A1.normalize text = rangeText := by
  have htext : (Json.str text).truthy = (text != "") := rfl
  have hread : (Json.str text).asString.map A1.normalize = .ok (A1.normalize text) := rfl
  rw [normalized, htext, hread, ← bne_iff_ne]
  cases spreadsheet.truthy
  · simp
  cases name.truthy
  · simp
  cases text != ""
  · simp
  · simp

theorem target_eq_ok_iff : target r = .ok t ↔
    normalized r = .ok t.rangeText ∧ A1.split t.rangeText = .ok (t.sheetName, t.cells) := by
  simp only [target, bind_eq_ok, pure_eq_ok]
  constructor
  · rintro ⟨rangeText, hrangeText, ⟨sheetName, cells⟩, hsplit, rfl⟩
    exact ⟨hrangeText, hsplit⟩
  · rintro ⟨hrangeText, hsplit⟩
    exact ⟨_, hrangeText, _, hsplit, rfl⟩

/-! ## Plans -/

/-- The plan is the one for the request in a spreadsheet of this description. -/
structure Plan.Fits (p : Plan) (r : Request) (t : Target) (m : Metadata) : Prop where
  range : ∃ sheet, m.findSheet? (.str t.sheetName) = some sheet ∧
    A1.parseRange t.cells sheet.id = .ok p.range
  rangeText : p.rangeText = t.rangeText
  sheetName : p.sheetName = t.sheetName
  replaced? : p.replaced? = replacedId? m r.rangeName
  changes : p.changes = batch p.replaced? r.rangeName p.range

theorem sameRemote_findSheet (m : Metadata) (title : String) :
    Session.Respects World.SameRemote (findSheet m title : Session σ Sheet) := by
  rw [findSheet]
  split
  · exact Session.Respects.pure _
  · exact (Session.Respects.ofExcept _).bind fun _ =>
      (Session.Respects.sameRemote_record _ _).bind fun _ => Session.Respects.throw _

theorem sameRemote_plan (r : Request) (t : Target) (m : Metadata) :
    Session.Respects World.SameRemote (plan r t m : Session σ Plan) :=
  (sameRemote_findSheet m t.sheetName).bind fun _ =>
    (Session.Respects.sameRemote_record _ _).bind fun _ =>
      (Session.Respects.ofExcept _).bind fun _ =>
        (Session.Respects.sameRemote_record _ _).bind fun _ => Session.Respects.pure _

theorem run_findSheet_eq_ok_iff {title : String} {sheet : Sheet} :
    (findSheet m title).run service w = (.ok sheet, w') ↔
      m.findSheet? (.str title) = some sheet ∧ w = w' := by
  rw [findSheet]
  cases m.findSheet? (.str title) with
  | some found => simp
  | none =>
    simp only [reduceCtorEq, false_and, iff_false]
    intro h
    simp [Session.run_bind_eq_ok_iff] at h

/-- A plan that is made fits. -/
theorem fits_of_plan (h : (plan r t m).run service w = (.ok p, w')) : p.Fits r t m := by
  simp only [plan, Session.run_bind_eq_ok_iff, run_findSheet_eq_ok_iff,
    Session.run_ofExcept_eq_ok_iff, Session.run_record, Session.run_pure, Prod.mk.injEq,
    Except.ok.injEq] at h
  obtain ⟨sheet, _, ⟨hsheet, rfl⟩, _, _, ⟨-, rfl⟩, range, _, ⟨hrange, rfl⟩, _, _, ⟨-, rfl⟩, rfl,
    -⟩ := h
  exact ⟨⟨sheet, hsheet, hrange⟩, rfl, rfl, rfl, rfl⟩

/-- A plan is made where one fits. -/
theorem exists_run_plan (h : p.Fits r t m) (service : Service σ) (w : World σ) :
    ∃ w', (plan r t m).run service w = (.ok p, w') := by
  obtain ⟨⟨sheet, hsheet, hrange⟩, hrangeText, hsheetName, hreplaced, hchanges⟩ := h
  have hp : p = ⟨t.rangeText, t.sheetName, p.range, replacedId? m r.rangeName,
      batch (replacedId? m r.rangeName) r.rangeName p.range⟩ := by
    rw [← hrangeText, ← hsheetName, ← hreplaced, ← hchanges]
  have hfound : (findSheet m t.sheetName).run service w = (.ok sheet, w) :=
    run_findSheet_eq_ok_iff.mpr ⟨hsheet, rfl⟩
  rw [plan, Session.run_bind_of_ok hfound, Session.run_bind_of_ok (Session.run_record _ _ _ _),
    hrange, hp]
  exact ⟨_, rfl⟩

theorem Plan.Fits.changes_ne_nil (h : p.Fits r t m) : p.changes ≠ [] := by
  rw [h.changes, batch]
  simp

/-! ## What a run does to the service -/

/-- The batch that a plan submits. -/
def Plan.call (p : Plan) (spreadsheet : Json) : Call :=
  .batchUpdate spreadsheet (requests p.changes)

/-- The state of the service once it has described the spreadsheet. -/
def described (service : Service σ) (spreadsheet : Json) (s : σ) : σ :=
  (service s (.metadata spreadsheet)).2

/-- A run that reaches its batch has read a description and made a plan that fits. -/
structure Reaches (service : Service σ) (r : Request) (s : σ) (t : Target) (m : Metadata)
    (p : Plan) : Prop where
  target_eq : target r = .ok t
  described_by : ∃ data, (service s (.metadata r.spreadsheet)).1 = .ok data ∧
    Metadata.ofJson r.spreadsheet data = .ok m
  fits : p.Fits r t m

/-- A run that succeeds has described the spreadsheet, and its batch went through. -/
theorem of_apply (h : (apply r).run service w = (.ok p, w')) :
    ∃ t m, Reaches service r w.service t m p ∧
      (∃ value, (service (described service r.spreadsheet w.service)
        (p.call r.spreadsheet)).1 = .ok value) ∧
      w'.service =
        (service (described service r.spreadsheet w.service) (p.call r.spreadsheet)).2 := by
  simp only [apply, Session.run_bind_eq_ok_iff, Session.run_ofExcept_eq_ok_iff,
    Session.run_record, Session.run_pure, Prod.mk.injEq, Except.ok.injEq,
    Sheets.run_metadata_eq_ok_iff] at h
  obtain ⟨t, _, ⟨ht, rfl⟩, _, _, ⟨-, rfl⟩, _, _, ⟨-, rfl⟩, m, w₁, ⟨hdata, hw₁⟩, p', w₂, hplan,
    value, w₃, hbatch, rfl, rfl⟩ := h
  have hfits := fits_of_plan hplan
  have hservice : w₂.service = described service r.spreadsheet w.service := by
    rw [((sameRemote_plan r t m).of_run hplan).2, hw₁]
    rfl
  rw [Sheets.run_batchUpdate hfits.changes_ne_nil, Session.run_ofExcept_eq_ok_iff,
    Reply.outcome_eq_ok_iff, hservice] at hbatch
  refine ⟨t, m, ⟨ht, hdata, hfits⟩, ⟨value, hbatch.1⟩, ?_⟩
  rw [← hbatch.2, ← hservice]
  rfl

/-- A run that fails has not called the service, or has only described the spreadsheet, or its batch
did not go through. -/
theorem of_apply_error {failure : Failure}
    (h : (apply r).run service w = (.error failure, w')) :
    w'.service = w.service ∨ w'.service = described service r.spreadsheet w.service ∨
      ∃ t m p, Reaches service r w.service t m p ∧
        (∀ value, (service (described service r.spreadsheet w.service)
          (p.call r.spreadsheet)).1 ≠ .ok value) ∧
        w'.service =
          (service (described service r.spreadsheet w.service) (p.call r.spreadsheet)).2 := by
  rw [apply] at h
  rcases Session.run_bind_eq_error_iff.mp h with h | ⟨t, w₁, htarget, h⟩
  · exact .inl (congrArg World.service (Session.world_ofExcept h))
  obtain ⟨ht, rfl⟩ := Session.run_ofExcept_eq_ok_iff.mp htarget
  rw [Session.run_bind_of_ok (Session.run_record _ _ _ _),
    Session.run_bind_of_ok (Session.run_record _ _ _ _)] at h
  rcases Session.run_bind_eq_error_iff.mp h with h | ⟨m, w₁, hm, h⟩
  · exact .inr (.inl (congrArg World.service (Sheets.world_metadata h)))
  obtain ⟨hdata, rfl⟩ := Sheets.run_metadata_eq_ok_iff.mp hm
  rcases Session.run_bind_eq_error_iff.mp h with h | ⟨p, w₂, hplan, h⟩
  · exact .inr (.inl ((sameRemote_plan r t m).of_run h).2)
  have hfits := fits_of_plan hplan
  have hservice : w₂.service = described service r.spreadsheet w.service :=
    ((sameRemote_plan r t m).of_run hplan).2
  rcases Session.run_bind_eq_error_iff.mp h with h | ⟨_, _, _, h⟩
  · rw [Sheets.run_batchUpdate hfits.changes_ne_nil, Session.run_ofExcept_eq_error_iff,
      hservice] at h
    obtain ⟨⟨error, herror, -⟩, rfl⟩ := h
    refine .inr (.inr ⟨t, m, p, ⟨ht, hdata, hfits⟩, ?_, ?_⟩)
    · intro value hvalue
      rw [Plan.call] at hvalue
      rw [hvalue] at herror
      cases herror
    · rw [← hservice]
      rfl
  · cases h

/-- A run that reaches its batch comes to what the batch comes to. -/
theorem exists_run_apply_eq (h : Reaches service r w.service t m p) :
    ∃ w₂, w₂.calls = w.calls ++ [.metadata r.spreadsheet] ∧
      w₂.service = described service r.spreadsheet w.service ∧ (apply r).run service w =
        (Sheets.batchUpdate r.spreadsheet p.changes >>= fun _ => pure p).run service w₂ := by
  obtain ⟨htarget, hdata, hfits⟩ := h
  set recorded : World σ := { w with
    ledger := (w.ledger.set "sheetName" (.str t.sheetName)).set "cellRange" (.str t.cells) }
  obtain ⟨w₂, hplan⟩ := exists_run_plan hfits service
    (recorded.after service (.metadata r.spreadsheet))
  obtain ⟨hcalls, hservice⟩ := (sameRemote_plan r t m).of_run hplan
  have hmetadata : (Sheets.metadata r.spreadsheet).run service recorded =
      (.ok m, recorded.after service (.metadata r.spreadsheet)) :=
    Sheets.run_metadata_eq_ok_iff.mpr ⟨hdata, rfl⟩
  refine ⟨w₂, hcalls, hservice, ?_⟩
  rw [apply, Session.run_bind_of_ok (Session.run_ofExcept_eq_ok_iff.mpr ⟨htarget, rfl⟩),
    Session.run_bind_of_ok (Session.run_record _ _ _ _),
    Session.run_bind_of_ok (Session.run_record _ _ _ _), Session.run_bind_of_ok hmetadata,
    Session.run_bind_of_ok hplan]

/-- A run that reaches its batch succeeds if the batch goes through. -/
theorem exists_run_apply (h : Reaches service r w.service t m p) {value : Json}
    (hvalue : (service (described service r.spreadsheet w.service) (p.call r.spreadsheet)).1 =
      .ok value) : ∃ w', (apply r).run service w = (.ok p, w') := by
  obtain ⟨w₂, -, hservice, hrun⟩ := exists_run_apply_eq h
  have hbatch : (Sheets.batchUpdate r.spreadsheet p.changes).run service w₂ =
      (.ok value, w₂.after service (p.call r.spreadsheet)) := by
    rw [Sheets.run_batchUpdate h.fits.changes_ne_nil, Session.run_ofExcept_eq_ok_iff,
      Reply.outcome_eq_ok_iff, hservice]
    exact ⟨hvalue, rfl⟩
  rw [hrun, Session.run_bind_of_ok hbatch]
  exact ⟨_, rfl⟩

/-- A run that reaches its batch makes two calls, whatever comes of the batch. -/
theorem calls_apply (h : Reaches service r w.service t m p) : ((apply r).run service w).2.calls =
    w.calls ++ [.metadata r.spreadsheet, p.call r.spreadsheet] := by
  obtain ⟨w₂, hcalls, -, hrun⟩ := exists_run_apply_eq h
  have hafter : ((Sheets.batchUpdate r.spreadsheet p.changes).run service w₂).2 =
      w₂.after service (p.call r.spreadsheet) := by
    rw [Sheets.run_batchUpdate h.fits.changes_ne_nil]
    exact Session.world_ofExcept rfl
  have hworld :
      ((Sheets.batchUpdate r.spreadsheet p.changes >>= fun _ => pure p).run service w₂).2 =
        w₂.after service (p.call r.spreadsheet) := by
    rw [Session.run_bind, ← hafter]
    rcases (Sheets.batchUpdate r.spreadsheet p.changes).run service w₂ with ⟨e | value, w₃⟩
    · rfl
    · rfl
  rw [hrun, hworld]
  change w₂.calls ++ [p.call r.spreadsheet] = _
  rw [hcalls, List.append_assoc, List.singleton_append]

/-! ## Apart from the files -/

theorem ignoresFiles_findSheet (m : Metadata) (title : String) :
    Session.IgnoresFiles (findSheet m title : Session σ Sheet) := by
  rw [findSheet]
  split
  · exact .pure _
  · exact (Session.IgnoresFiles.ofExcept _).bind fun _ =>
      (Session.IgnoresFiles.record _ _).bind fun _ => .throw _

theorem ignoresFiles_plan (r : Request) (t : Target) (m : Metadata) :
    Session.IgnoresFiles (plan r t m : Session σ Plan) :=
  (ignoresFiles_findSheet m t.sheetName).bind fun _ =>
    (Session.IgnoresFiles.record _ _).bind fun _ =>
      (Session.IgnoresFiles.ofExcept _).bind fun _ =>
        (Session.IgnoresFiles.record _ _).bind fun _ => .pure _

/-- Up to its batch a run has nothing to do with the files. -/
theorem ignoresFiles_apply (r : Request) : Session.IgnoresFiles (apply r : Session σ Plan) :=
  (Session.IgnoresFiles.ofExcept _).bind fun t =>
    (Session.IgnoresFiles.record _ _).bind fun _ =>
      (Session.IgnoresFiles.record _ _).bind fun _ =>
        (Sheets.ignoresFiles_metadata r.spreadsheet).bind fun m =>
          (ignoresFiles_plan r t m).bind fun p =>
            (Sheets.ignoresFiles_batchUpdate r.spreadsheet p.changes).bind fun _ => .pure _

/-! ## What comes after the batch -/

variable {constants? : Option Path} {tree tree' : FileTree} {o : Outcome}

theorem sameRemote_updateConstants (constants? : Option Path) (name : Json) (range : String) :
    Session.Respects World.SameRemote
      (updateConstants constants? name range : Session σ (List String)) := by
  cases constants? with
  | none => exact Session.Respects.pure _
  | some path =>
    refine Session.Respects.bind ?_ fun _ => Session.Respects.pure _
    refine Session.Respects.sameRemote_files.bind fun tree => ?_
    split
    · exact Session.Respects.sameRemote_onFiles _
    · exact (Session.Respects.sameRemote_report _ _ _).bind fun _ => Session.Respects.pure _

/-- A synchronisation that succeeds has applied its plan, and reports it. -/
theorem of_bringInStep (h : (bringInStep r constants?).run service w = (.ok o, w')) :
    ∃ p w₁, (apply r).run service { w with ledger := {} } = (.ok p, w₁) ∧ w'.service = w₁.service ∧
      o.rangeName = r.rangeName ∧ o.range = p.range ∧ o.replaced? = p.replaced? ∧
      o.changes = p.changes := by
  simp only [bringInStep, Session.run_bind_eq_ok_iff, Session.run_recording_eq_ok_iff,
    Session.run_report, Session.run_pure, Prod.mk.injEq, Except.ok.injEq] at h
  obtain ⟨p, w₁, hp, lines, w₂, hlines, _, _, ⟨-, rfl⟩, rfl, rfl⟩ := h
  have hservice := ((sameRemote_updateConstants constants? _ _).of_run hlines).2
  exact ⟨p, w₁, hp, hservice, rfl, rfl, rfl, rfl⟩

theorem of_synchronize (h : (synchronize r constants? tree).run service w = (.ok (o, tree'), w')) :
    ∃ p w₁, (apply r).run service { w with ledger := {}, files := tree } = (.ok p, w₁) ∧
      w'.service = w₁.service ∧ o.rangeName = r.rangeName ∧ o.range = p.range ∧
      o.replaced? = p.replaced? ∧ o.changes = p.changes :=
  of_bringInStep (Session.run_withFiles_eq_ok_iff.mp h).1

/-- Without a file of constants a synchronisation succeeds once its plan is applied, and leaves the
files as they are. -/
theorem exists_run_synchronize {w₁ : World σ}
    (h : (apply r).run service { w with ledger := {}, files := tree } = (.ok p, w₁)) :
    ∃ o w', (synchronize r none tree).run service w = (.ok (o, tree), w') ∧ o.range = p.range ∧
      o.changes = p.changes := by
  have hrecorded : (Session.recording (apply r)).run service { w with files := tree } =
      (.ok p, w₁) := Session.run_recording_eq_ok_iff.mpr h
  have htree : w₁.files = tree := (ignoresFiles_apply r).files_eq h
  simp only [synchronize, Session.run_withFiles_eq_ok_iff, bringInStep,
    Session.run_bind_of_ok hrecorded]
  exact ⟨_, _, ⟨rfl, htree⟩, rfl, rfl⟩

/-- The calls of a synchronisation are those of applying its plan. -/
theorem calls_synchronize (r : Request) (constants? : Option Path) (tree : FileTree)
    (service : Service σ) (w : World σ) : ((synchronize r constants? tree).run service w).2.calls =
      ((apply r).run service { w with ledger := {}, files := tree }).2.calls := by
  have hworld := Session.world_recording (apply r) service { w with files := tree }
  rw [synchronize, Session.world_withFiles, bringInStep, Session.run_bind, ← hworld]
  rcases (Session.recording (apply r)).run service { w with files := tree } with ⟨e | p, w₁⟩
  · rfl
  · refine And.left (Session.Respects.bind (sameRemote_updateConstants constants? _ _)
      (fun _ => ?_) service w₁)
    exact (Session.Respects.sameRemote_report _ _ _).bind fun _ => Session.Respects.pure _

/-- A synchronisation that fails has failed to apply its plan, or has applied it and could not set
the constant in the file that is given. -/
theorem of_synchronize_error {failure : Failure}
    (h : (synchronize r constants? tree).run service w = (.error failure, w')) :
    (∃ cause, (apply r).run service { w with ledger := {}, files := tree } = (.error cause, w')) ∨
      constants? ≠ none ∧ ∃ p w₁,
        (apply r).run service { w with ledger := {}, files := tree } = (.ok p, w₁) ∧
        w'.service = w₁.service := by
  rw [synchronize, Session.run_withFiles_eq_error_iff, bringInStep] at h
  rcases Session.run_bind_eq_error_iff.mp h with h | ⟨p, w₁, hp, h⟩
  · exact .inl (Session.exists_run_of_recording_eq_error h)
  rcases Session.run_bind_eq_error_iff.mp h with h | ⟨lines, w₂, hlines, h⟩
  · refine .inr ⟨?_, p, w₁, Session.run_recording_eq_ok_iff.mp hp,
      ((sameRemote_updateConstants constants? _ _).of_run h).2⟩
    rintro rfl
    cases h
  · cases h

/-! ## On a service that keeps a book -/

variable {spreadsheet text : Json} {book : σ → Book} {name : String}

/-- The request names the region on one of the sheets. -/
def Request.Names (r : Request) (sheets : List Sheet) (range : GridRange) : Prop :=
  ∃ t sheet, target r = .ok t ∧ sheets.find? (·.title.same (.str t.sheetName)) = some sheet ∧
    A1.parseRange t.cells sheet.id = .ok range

/-- A request names one region at most. -/
theorem Request.Names.unique {sheets : List Sheet} {first second : GridRange}
    (h : r.Names sheets first) (h' : r.Names sheets second) : first = second := by
  obtain ⟨t, sheet, ht, hsheet, hrange⟩ := h
  obtain ⟨t', sheet', ht', hsheet', hrange'⟩ := h'
  obtain rfl : t = t' := Except.ok.inj (ht.symm.trans ht')
  obtain rfl : sheet = sheet' := Option.some.inj (hsheet.symm.trans hsheet')
  exact Except.ok.inj (hrange.symm.trans hrange')

/-- A named region has an end. -/
theorem Request.Names.bounded {sheets : List Sheet} {range : GridRange}
    (h : r.Names sheets range) : range.Bounded := by
  obtain ⟨t, sheet, -, -, hrange⟩ := h
  exact (A1.stops_of_parseRange hrange).2

/-- The id of a name in a description is that of its entry in the book. -/
theorem replacedId?_eq {b : Book} (hb : b.Sound) {ranges : List NamedRange}
    (h : List.Forall₂ Entry.ReadAs b.entries ranges) (sheets : List Sheet) (name : String) :
    replacedId? ⟨spreadsheet, sheets, ranges⟩ (.str name) =
      (b.entries.find? (·.name = name)).map (·.id) := by
  rw [replacedId?, Metadata.findNamedRange?]
  cases hfind : b.entries.find? (·.name = name) with
  | none => rw [find?_eq_none_of_readAs h hfind]; rfl
  | some e =>
    obtain ⟨n, hn, hread⟩ := exists_find?_of_readAs h hfind
    have hid := hb.id_ne e (List.mem_of_find?_eq_some hfind)
    simp [hn, hread.id, hid]

/-- What a run that reaches its batch has read is the book. -/
theorem Reaches.of_keeps {s : σ} (hkeeps : Keeps service spreadsheet book) (hb : (book s).Sound)
    (h : Reaches service ⟨spreadsheet, .str name, text⟩ s t m p) :
    Request.Names ⟨spreadsheet, .str name, text⟩ (book s).sheets p.range ∧
      p.changes =
        batch (((book s).entries.find? (·.name = name)).map (·.id)) (.str name) p.range := by
  obtain ⟨htarget, ⟨data, hreply, hm⟩, hfits⟩ := h
  obtain ⟨ranges, hmetadata, hread⟩ :=
    Book.exists_metadata (hkeeps.describes s data hreply) spreadsheet
  obtain rfl : ⟨spreadsheet, (book s).sheets, ranges⟩ = m := Except.ok.inj (hmetadata.symm.trans hm)
  obtain ⟨sheet, hsheet, hrange⟩ := hfits.range
  refine ⟨⟨t, sheet, htarget, hsheet, hrange⟩, ?_⟩
  rw [hfits.changes, hfits.replaced?, replacedId?_eq hb hread]

/-- A run that succeeds rebinds its name to the region that it reports, which is the one that the
request names. -/
theorem apply_rebinds (hkeeps : Keeps service spreadsheet book) (hb : (book w.service).Sound)
    (h : (apply ⟨spreadsheet, .str name, text⟩).run service w = (.ok p, w')) :
    Request.Names ⟨spreadsheet, .str name, text⟩ (book w.service).sheets p.range ∧
      Book.Rebinds name p.range (book w.service) (book w'.service) := by
  obtain ⟨t, m, hreaches, ⟨value, hvalue⟩, hservice⟩ := of_apply h
  obtain ⟨hnames, hchanges⟩ := hreaches.of_keeps hkeeps hb
  refine ⟨hnames, Book.rebinds_of_edited hb ?_⟩
  have hedited := hkeeps.applies (described service spreadsheet w.service) _ _
    (Book.batch_askedBy _ name p.range) value (by rw [← hchanges]; exact hvalue)
  rw [described, hkeeps.unchanged, ← hchanges] at hedited
  rw [hservice]
  exact hedited

/-- A run that fails leaves the book as it is. -/
theorem apply_unchanged {failure : Failure} (hkeeps : Keeps service spreadsheet book)
    (hb : (book w.service).Sound)
    (h : (apply ⟨spreadsheet, .str name, text⟩).run service w = (.error failure, w')) :
    book w'.service = book w.service := by
  rcases of_apply_error h with hservice | hservice | ⟨t, m, p, hreaches, hfails, hservice⟩
  · rw [hservice]
  · rw [hservice, described, hkeeps.unchanged]
  · obtain ⟨-, hchanges⟩ := hreaches.of_keeps hkeeps hb
    have hsame := hkeeps.fails (described service spreadsheet w.service) _ _
      (Book.batch_askedBy _ name p.range) (by rw [← hchanges]; exact hfails)
    rw [described, hkeeps.unchanged, ← hchanges] at hsame
    rw [hservice]
    exact hsame

end SheetSchema.Sync
