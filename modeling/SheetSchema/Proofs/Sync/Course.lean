import Mathlib
import SheetSchema.Proofs.Files.Work
import SheetSchema.Proofs.Service.Outcome
import SheetSchema.Proofs.Sync.Replace

/-!
# The course of a synchronisation

A synchronisation asks for a description of the spreadsheet and submits one batch. `Course` lists
the points where it can stop, with the calls and replies up to there, the facts that are collected,
and what comes of it; planning the batch can stop in three ways of its own (`Planning`). Every run
takes such a course (`exists_course`).

`synchronize_isOrderly` is the main result, for all arguments and all replies. At most one
description is asked for and at most one batch is submitted after it, and the batch is submitted
exactly if the request, the sheet and the cells are settled (`Settles`). What it submits are
requests for the deletion and the addition that replace the named range (`Replaces`,
`Call.Submits`). Unless the batch goes through, the run ends in a failure that is the same for all
files and leaves them as they are, and a failure that can carry facts carries those of its course.
-/

namespace SheetSchema.Sync

variable {σ : Type} {service : Service σ} {w : World σ} {r : Request} {t : Target} {m : Metadata}

/-! ## What a batch takes -/

/-- The description of the spreadsheet that a reply comes to. -/
def Request.describe (r : Request) (reply : Reply) : Except Error Metadata :=
  reply.outcome (.metadataFailed r.spreadsheet.text) >>= Metadata.ofJson r.spreadsheet

/-- All that a batch takes: the range text is split, the spreadsheet is described, the first sheet
with the title is found, and the cells on it are read. -/
structure Settles (r : Request) (reply : Reply) (t : Target) (m : Metadata) (sheet : Sheet)
    (range : GridRange) : Prop where
  target_eq : target r = .ok t
  describe_eq : r.describe reply = .ok m
  find_eq : m.sheets.find? (·.title.same (.str t.sheetName)) = some sheet
  parse_eq : A1.parseRange t.cells sheet.id = .ok range

/-- The changes that point `name` at a region: the first named range of that name is deleted, if it
is there and has an id, and the name is added. -/
inductive Replaces (m : Metadata) (name : Json) (range : GridRange) : List Change → Prop
  | anew (h : ∀ n, m.namedRanges.find? (·.name.same name) = some n → n.id = "") :
      Replaces m name range [.addNamedRange name range]
  | again {n : NamedRange} (h : m.namedRanges.find? (·.name.same name) = some n) (hid : n.id ≠ "") :
      Replaces m name range [.deleteNamedRange (.str n.id), .addNamedRange name range]

theorem replaces_batch (m : Metadata) (name : Json) (range : GridRange) :
    Replaces m name range (batch (replacedId? m name) name range) := by
  rw [batch, replacedId?, Metadata.findNamedRange?]
  cases hfind : m.namedRanges.find? (·.name.same name) with
  | none =>
    refine .anew fun n hn => ?_
    rw [hfind] at hn
    cases hn
  | some n =>
    by_cases hid : n.id = ""
    · rw [Option.map_some, Option.filter_some, if_neg (by simpa using hid)]
      refine .anew fun n' hn' => ?_
      rw [hfind] at hn'
      exact Option.some.inj hn' ▸ hid
    · rw [Option.map_some, Option.filter_some, if_pos (by simpa using hid)]
      exact .again hfind hid

/-! ## Where a run can stop -/

/-- The facts about a request that has been taken apart. -/
def Target.facts (t : Target) : Entries Json :=
  [("sheetName", .str t.sheetName), ("cellRange", .str t.cells)]

/-- The facts about a plan. -/
def Plan.facts (p : Plan) : Entries Json :=
  [("sheetId", p.range.sheet), ("requestCount", .int p.changes.length)]

/-- What planning a batch comes to, with the facts that it collects. -/
inductive Planning (r : Request) (t : Target) (m : Metadata) :
    Entries Json → Except Error Plan → Prop
  /-- No sheet has the title, and the titles there are cannot be listed. -/
  | unlisted {error : Error} (hfind : m.findSheet? (.str t.sheetName) = none)
      (hlist : m.titleLine = .error error) : Planning r t m [] (.error error)
  /-- No sheet has the title. -/
  | unfound {titles : String} (hfind : m.findSheet? (.str t.sheetName) = none)
      (hlist : m.titleLine = .ok titles) :
      Planning r t m [("availableSheets", .str titles)] (.error (.sheetNotFound t.sheetName))
  /-- The cells cannot be read. -/
  | unread {sheet : Sheet} {error : Error} (hfind : m.findSheet? (.str t.sheetName) = some sheet)
      (hparse : A1.parseRange t.cells sheet.id = .error error) :
      Planning r t m [("sheetId", sheet.id)] (.error error)
  | made {p : Plan} (h : p.Fits r t m) : Planning r t m p.facts (.ok p)

/-- The calls of a run with their replies, the facts that it collects, and what comes of it. -/
inductive Course (r : Request) : List (Call × Reply) → Entries Json → Except Error Plan → Prop
  /-- An argument is missing, or the range text cannot be split. -/
  | unaddressed {error : Error} (htarget : target r = .error error) :
      Course r [] [] (.error error)
  /-- There is no description, or it cannot be read. -/
  | undescribed {t : Target} {reply : Reply} {error : Error} (htarget : target r = .ok t)
      (hdescribe : r.describe reply = .error error) :
      Course r [(.metadata r.spreadsheet, reply)] t.facts (.error error)
  | unplanned {t : Target} {reply : Reply} {m : Metadata} {facts : Entries Json} {error : Error}
      (htarget : target r = .ok t) (hdescribe : r.describe reply = .ok m)
      (hplan : Planning r t m facts (.error error)) :
      Course r [(.metadata r.spreadsheet, reply)] (t.facts ++ facts) (.error error)
  /-- The batch goes through or fails. -/
  | submitted {t : Target} {reply answer : Reply} {m : Metadata} {p : Plan}
      (htarget : target r = .ok t) (hdescribe : r.describe reply = .ok m) (hfits : p.Fits r t m) :
      Course r [(.metadata r.spreadsheet, reply), (p.call r.spreadsheet, answer)]
        (t.facts ++ p.facts)
        ((answer.outcome (.batchUpdateFailed p.changes.length r.spreadsheet.text)).map fun _ => p)

/-! ## Every run takes a course -/

/-- Planning calls nobody, and comes to what planning can come to. -/
theorem exists_planning (r : Request) (t : Target) (m : Metadata) (service : Service σ)
    (hfacts : w.ledger.facts = t.facts) : ∃ facts result w',
      (plan r t m).run service w = (Session.ofExcept result).run service w' ∧
      World.SameRemote w w' ∧ w'.ledger.facts = t.facts ++ facts ∧ Planning r t m facts result := by
  have hset (key : String) (value : Json) (hkey : key ∉ t.facts.keys) :
      (w.ledger.set key value).facts = t.facts ++ [(key, value)] := by
    rw [Ledger.set, hfacts, Entries.put_of_not_mem hkey]
  cases hfind : m.findSheet? (.str t.sheetName) with
  | none =>
    cases hlist : m.titleLine with
    | error error =>
      refine ⟨[], .error error, w, ?_, ⟨rfl, rfl⟩, by simp [hfacts], .unlisted hfind hlist⟩
      rw [plan, findSheet, hfind, hlist]
      rfl
    | ok titles =>
      refine ⟨_, _, { w with ledger := w.ledger.set "availableSheets" (.str titles) }, ?_,
        ⟨rfl, rfl⟩, hset _ _ (by simp [Target.facts, Entries.keys]), .unfound hfind hlist⟩
      rw [plan, findSheet, hfind, hlist]
      rfl
  | some sheet =>
    have hfound : (findSheet m t.sheetName).run service w = (.ok sheet, w) :=
      run_findSheet_eq_ok_iff.mpr ⟨hfind, rfl⟩
    have hsheet := hset "sheetId" sheet.id (by simp [Target.facts, Entries.keys])
    set w₁ : World σ := { w with ledger := w.ledger.set "sheetId" sheet.id }
    rw [plan, Session.run_bind_of_ok hfound, Session.run_bind_of_ok (Session.run_record _ _ _ _)]
    cases hparse : A1.parseRange t.cells sheet.id with
    | error error =>
      exact ⟨_, .error error, w₁, Session.run_bind_of_error rfl, ⟨rfl, rfl⟩, hsheet,
        .unread hfind hparse⟩
    | ok range =>
      have hid := (A1.stops_of_parseRange hparse).1
      let p : Plan := ⟨t.rangeText, t.sheetName, range, replacedId? m r.rangeName,
        batch (replacedId? m r.rangeName) r.rangeName range⟩
      have hplan : (w₁.ledger.set "requestCount" (.int p.changes.length)).facts =
          t.facts ++ p.facts := by
        rw [Ledger.set, hsheet, Entries.put_of_not_mem (by simp [Target.facts, Entries.keys]),
          Plan.facts, hid, List.append_assoc, List.singleton_append]
      exact ⟨p.facts, .ok p, { w₁ with ledger := w₁.ledger.set "requestCount" _ }, rfl, ⟨rfl, rfl⟩,
        hplan, .made ⟨⟨sheet, hfind, hparse⟩, rfl, rfl, rfl, rfl⟩⟩

/-- Every run takes a course, whatever the service replies. -/
theorem exists_course (r : Request) (service : Service σ) (hledger : w.ledger = {}) :
    ∃ made facts result w',
      (apply r).run service w = (Session.ofExcept result).run service w' ∧
      World.SameRemote (w.afterAll service made) w' ∧ w'.ledger.facts = facts ∧
      Course r (exchange service w.service made) facts result := by
  rw [apply]
  cases htarget : target r with
  | error error =>
    exact ⟨[], [], .error error, w, Session.run_bind_of_error rfl, ⟨rfl, rfl⟩, by rw [hledger],
      .unaddressed htarget⟩
  | ok t =>
    set w₁ : World σ := { w with
      ledger := (w.ledger.set "sheetName" (.str t.sheetName)).set "cellRange" (.str t.cells) }
    have hfacts : w₁.ledger.facts = t.facts := by
      simp [w₁, hledger, Ledger.set, Entries.put, Target.facts]
    set w₂ := w₁.after service (.metadata r.spreadsheet)
    have hasked : (Sheets.metadata r.spreadsheet).run service w₁ = (Session.ofExcept
        (r.describe (service w.service (.metadata r.spreadsheet)).1)).run service w₂ :=
      Sheets.run_demand_bind _ _ _ _ _
    have hsame : World.SameRemote (w.afterAll service [.metadata r.spreadsheet]) w₂ := ⟨rfl, rfl⟩
    have htaken : (Session.ofExcept (.ok t)).run service w = (.ok t, w) := rfl
    rw [Session.run_bind_of_ok htaken, Session.run_bind_of_ok (Session.run_record _ _ _ _),
      Session.run_bind_of_ok (Session.run_record _ _ _ _)]
    cases hdescribe : r.describe (service w.service (.metadata r.spreadsheet)).1 with
    | error error =>
      rw [hdescribe] at hasked
      exact ⟨_, _, .error error, w₂, Session.run_bind_of_error hasked, hsame, hfacts,
        .undescribed htarget hdescribe⟩
    | ok m =>
      rw [hdescribe] at hasked
      rw [Session.run_bind_of_ok hasked]
      obtain ⟨facts, result, w₃, hplan, hremote, hplanned, hplanning⟩ :=
        exists_planning (w := w₂) r t m service hfacts
      cases result with
      | error error =>
        exact ⟨_, _, .error error, w₃, Session.run_bind_of_error hplan, trans_of _ hsame hremote,
          hplanned, .unplanned htarget hdescribe hplanning⟩
      | ok p =>
        cases hplanning with
        | made hfits =>
        have hservice : w₃.service = described service r.spreadsheet w.service := hremote.2
        have hbatch := Sheets.run_batchUpdate hfits.changes_ne_nil r.spreadsheet service w₃
        rw [hservice] at hbatch
        refine ⟨[.metadata r.spreadsheet, p.call r.spreadsheet], _, _,
          w₃.after service (p.call r.spreadsheet), ?_, ?_, hplanned,
          .submitted htarget hdescribe hfits⟩
        · rw [Session.run_bind_of_ok hplan]
          exact Session.run_map_of_run hbatch fun _ => p
        · exact (trans_of _ hsame hremote).afterAll [p.call r.spreadsheet]

/-! ## What a course comes to -/

variable {e : List (Call × Reply)} {facts : Entries Json} {result : Except Error Plan}

/-- The batch is among the calls, and it went through. -/
def Applied (r : Request) (e : List (Call × Reply)) : Prop :=
  ∃ requests value, (.batchUpdate r.spreadsheet requests, .ok value) ∈ e

/-- At most one description is asked for, and at most one batch is submitted after it. -/
theorem Course.exists_calls_prefix (h : Course r e facts result) :
    ∃ requests, e.map Prod.fst <+:
      [.metadata r.spreadsheet, .batchUpdate r.spreadsheet requests] := by
  cases h with
  | unaddressed => exact ⟨.null, List.nil_prefix⟩
  | undescribed => exact ⟨.null, List.prefix_append [_] [_]⟩
  | unplanned => exact ⟨.null, List.prefix_append [_] [_]⟩
  | submitted => exact ⟨_, List.prefix_rfl⟩

/-- Planning fails only where nothing is settled. -/
theorem Planning.not_settles {reply : Reply} {error : Error} {sheet : Sheet} {range : GridRange}
    (h : Planning r t m facts (.error error)) : ¬ Settles r reply t m sheet range := by
  rintro ⟨-, -, hfind, hparse⟩
  cases h with
  | unlisted hnone => exact absurd (hnone.symm.trans hfind) nofun
  | unfound hnone => exact absurd (hnone.symm.trans hfind) nofun
  | unread hsome hunread =>
    obtain rfl := Option.some.inj (hsome.symm.trans hfind)
    exact absurd (hunread.symm.trans hparse) nofun

/-- A batch that is submitted was settled, and asks for changes that replace the name. -/
theorem Course.of_mem {answer : Reply} (h : Course r e facts result)
    (hanswer : ∀ reply, e.head? = some (.metadata r.spreadsheet, reply) → reply = answer)
    {submitted : Json} (hmem : .batchUpdate r.spreadsheet submitted ∈ e.map Prod.fst) :
    ∃ t m sheet range changes, Settles r answer t m sheet range ∧ range.sheet = sheet.id ∧
      Replaces m r.rangeName range changes ∧
      (Call.batchUpdate r.spreadsheet submitted).Submits r.spreadsheet changes := by
  cases h with
  | unaddressed => simp at hmem
  | undescribed => simp at hmem
  | unplanned => simp at hmem
  | @submitted t _ _ m p htarget hdescribe hfits =>
    rw [hanswer _ rfl] at hdescribe
    obtain ⟨sheet, hsheet, hrange⟩ := hfits.range
    obtain rfl : submitted = requests p.changes := by simpa [Plan.call] using hmem
    refine ⟨t, m, sheet, p.range, p.changes, ⟨htarget, hdescribe, hsheet, hrange⟩,
      (A1.stops_of_parseRange hrange).1, ?_, submits_batchUpdate r.spreadsheet p.changes⟩
    rw [hfits.changes, hfits.replaced?]
    exact replaces_batch m r.rangeName p.range

/-- Once all that it takes is settled, the batch is submitted. -/
theorem Course.exists_mem {answer : Reply} {sheet : Sheet} {range : GridRange}
    (h : Course r e facts result)
    (hanswer : ∀ reply, e.head? = some (.metadata r.spreadsheet, reply) → reply = answer)
    (hsettles : Settles r answer t m sheet range) :
    ∃ submitted, .batchUpdate r.spreadsheet submitted ∈ e.map Prod.fst := by
  cases h with
  | unaddressed htarget => exact absurd (htarget.symm.trans hsettles.target_eq) nofun
  | undescribed htarget hdescribe =>
    rw [hanswer _ rfl] at hdescribe
    obtain rfl := Except.ok.inj (htarget.symm.trans hsettles.target_eq)
    exact absurd (hdescribe.symm.trans hsettles.describe_eq) nofun
  | unplanned htarget hdescribe hplan =>
    rw [hanswer _ rfl] at hdescribe
    obtain rfl := Except.ok.inj (htarget.symm.trans hsettles.target_eq)
    obtain rfl := Except.ok.inj (hdescribe.symm.trans hsettles.describe_eq)
    exact absurd hsettles hplan.not_settles
  | submitted => exact ⟨_, List.mem_cons_of_mem _ (List.mem_singleton_self _)⟩

/-- A run that comes to a plan has applied it. -/
theorem Course.applied {p : Plan} (h : Course r e facts (.ok p)) : Applied r e := by
  generalize hresult : (.ok p : Except Error Plan) = result at h
  cases h with
  | @submitted _ _ answer _ p' =>
    cases answer with
    | ok value => exact ⟨_, value, List.mem_cons_of_mem _ (List.mem_singleton_self _)⟩
    | _ => cases hresult
  | _ => cases hresult

/-! ## A synchronisation -/

theorem failsBare_rewriteConstant (path : Path) (name : Json) (range : String) :
    (rewriteConstant path name range).FailsBare := by
  refine (FileWork.FailsBare.lift fun error h => ?_).bind fun name =>
    (FileWork.failsBare_read path).bind fun content =>
      (FileWork.failsBare_write _ _).bind fun _ => .pure _
  cases name with
  | str s => cases h
  | _ => exact Except.error.inj h ▸ rfl

theorem isDiagnosable_of_onFiles {α : Type} {work : FileWork α} (hwork : work.FailsBare)
    {failure : Failure} {w' : World σ}
    (h : (Session.onFiles work).run service w = (.error failure, w')) :
    failure.error.category.isDiagnosable = false := by
  rw [Session.run, Session.onFiles] at h
  rcases hrun : work.run w.files with ⟨error | a, tree⟩
  · rw [hrun] at h
    obtain rfl := Except.error.inj (Prod.mk.inj h).1
    exact hwork w.files error (by rw [hrun])
  · rw [hrun] at h
    cases h

/-- What stands in the way of a constant is told by an error that carries no facts. -/
theorem isDiagnosable_of_updateConstants {constants? : Option Path} {name : Json} {range : String}
    {failure : Failure} {w' : World σ}
    (h : (updateConstants constants? name range).run service w = (.error failure, w')) :
    failure.error.category.isDiagnosable = false := by
  cases constants? with
  | none => cases h
  | some path =>
    rw [updateConstants] at h
    obtain h | ⟨_, _, _, h⟩ := Session.run_bind_eq_error_iff.mp h
    · rw [updateConstant, Session.run_bind_of_ok (Session.run_files service w)] at h
      split at h
      · exact isDiagnosable_of_onFiles (failsBare_rewriteConstant path name range) h
      · cases h
    · cases h

/-- The calls `made` by a synchronisation are in order. -/
structure IsOrderly (r : Request) (constants? : Option Path) (tree : FileTree) (service : Service σ)
    (w : World σ) (made : List Call) : Prop where
  /-- At most one description is asked for, and at most one batch is submitted after it. -/
  calls : ∃ requests, made <+: [.metadata r.spreadsheet, .batchUpdate r.spreadsheet requests]
  /-- The batch is submitted exactly if all that it takes is settled. -/
  settled : (∃ submitted, .batchUpdate r.spreadsheet submitted ∈ made) ↔ ∃ t m sheet range,
    Settles r (service w.service (.metadata r.spreadsheet)).1 t m sheet range
  /-- Its requests ask for the changes that replace the name by a region on the sheet that was
  found, one by one and in order, and for nothing else. -/
  batch : ∀ submitted, .batchUpdate r.spreadsheet submitted ∈ made →
    ∃ t m sheet range changes,
      Settles r (service w.service (.metadata r.spreadsheet)).1 t m sheet range ∧
      range.sheet = sheet.id ∧ Replaces m r.rangeName range changes ∧
      (Call.batchUpdate r.spreadsheet submitted).Submits r.spreadsheet changes
  /-- Unless the batch goes through, the run fails and leaves the files as they are, and they have
  no part in how it fails. -/
  files : ¬ Applied r (exchange service w.service made) → ∃ (failure : Failure) (w' : World σ),
    ∀ others? otherTree, (synchronize r others? otherTree).run service w =
      (.error failure, { w' with files := otherTree })
  /-- A failure that can carry facts carries those of its course. -/
  facts : ∀ failure w', (synchronize r constants? tree).run service w = (.error failure, w') →
    failure.error.category.isDiagnosable = true → failure.facts = w'.ledger.facts ∧
      Course r (exchange service w.service made) failure.facts (.error failure.error)

/-- A synchronisation whose plan comes to nothing fails as its plan does, and leaves the files. -/
theorem run_synchronize_of_error {error : Error} {tree : FileTree} {w' : World σ}
    (h : (apply r).run service { w with ledger := {}, files := tree } =
      (Session.ofExcept (.error error)).run service w') (others? : Option Path)
    (otherTree : FileTree) : (synchronize r others? otherTree).run service w =
      (.error (Failure.attach ⟨error, []⟩ w'.ledger.facts),
        { w' with files := otherTree }) := by
  have hother : (apply r).run service { w with ledger := {}, files := otherTree } =
      (Session.ofExcept (.error error)).run service { w' with files := otherTree } := by
    have hsame := ignoresFiles_apply r service { w with ledger := {}, files := tree } otherTree
    rwa [h] at hsame
  have hfailed := Session.run_recording_of_error (w := { w with files := otherTree }) hother
  exact Session.run_withFiles_eq_error_iff.mpr (Session.run_bind_of_error hfailed)

/-- Every synchronisation is orderly, whatever is asked for, whatever the service replies, and
whatever the files are. -/
theorem synchronize_isOrderly (r : Request) (constants? : Option Path) (tree : FileTree)
    (service : Service σ) (w : World σ) : ∃ made,
      ((synchronize r constants? tree).run service w).2.calls = w.calls ++ made ∧
        IsOrderly r constants? tree service w made := by
  obtain ⟨made, facts, result, w', happly, hremote, hfacts, hcourse⟩ :=
    exists_course (w := { w with ledger := {}, files := tree }) r service rfl
  have hmade := map_fst_exchange service w.service made
  have hanswer (reply : Reply) (h : (exchange service w.service made).head? =
      some (.metadata r.spreadsheet, reply)) := eq_of_head?_exchange h
  refine ⟨made, ?_, ⟨?_, ?_, fun submitted hmem => ?_, fun happlied => ?_,
    fun failure w₁ h hcarries => ?_⟩⟩
  · have hworld : ((Session.ofExcept result).run service w').2 = w' := Session.world_ofExcept rfl
    rw [calls_synchronize, happly, hworld, hremote.1, World.calls_afterAll]
  · rw [← hmade]
    exact hcourse.exists_calls_prefix
  · rw [← hmade]
    constructor
    · rintro ⟨submitted, hmem⟩
      obtain ⟨t, m, sheet, range, -, hsettles, -⟩ := hcourse.of_mem hanswer hmem
      exact ⟨t, m, sheet, range, hsettles⟩
    · rintro ⟨t, m, sheet, range, hsettles⟩
      exact hcourse.exists_mem hanswer hsettles
  · rw [← hmade] at hmem
    exact hcourse.of_mem hanswer hmem
  · cases result with
    | ok p => exact absurd hcourse.applied happlied
    | error error => exact ⟨_, w', run_synchronize_of_error happly⟩
  · cases result with
    | ok p =>
      have hrecorded : (Session.recording (apply r)).run service { w with files := tree } =
          (.ok p, w') := Session.run_recording_eq_ok_iff.mpr happly
      rw [synchronize, Session.run_withFiles_eq_error_iff, bringInStep,
        Session.run_bind_of_ok hrecorded] at h
      obtain h | ⟨_, _, _, h⟩ := Session.run_bind_eq_error_iff.mp h
      · exact absurd hcarries (by simp [isDiagnosable_of_updateConstants h])
      · cases h
    | error error =>
      rw [run_synchronize_of_error happly, Failure.attach_nil] at h
      cases h
      rw [if_pos hcarries, hfacts]
      exact ⟨rfl, hcourse⟩

/-- A request to move the named range `inbox`. -/
def inbox : Request := ⟨.str "book", .str "inbox", .str "Mail!A2:B"⟩

/-- A request to move it to a sheet that is not there. -/
def lostInbox : Request := { inbox with rangeText := .str "Post!A2:B" }

/-- The answers of a service whose spreadsheet has the sheet `Mail` and the named range `inbox`. -/
def inboxReplies : List Reply :=
  [.ok (.obj [
      ("sheets", .arr [.obj [("properties", .obj [("sheetId", .int 5), ("title", .str "Mail")])]]),
      ("namedRanges", .arr [.obj [("namedRangeId", .str "7"), ("name", .str "inbox")]])]),
    .ok (.obj [])]

/-- What moves `inbox`, in the words of the service: its id is deleted, and the name is added for
the region `A2:B` of the sheet. -/
def inboxCalls : List Call :=
  [.metadata (.str "book"), .batchUpdate (.str "book") (.arr [
    .obj [("deleteNamedRange", .obj [("namedRangeId", .str "7")])],
    .obj [("addNamedRange", .obj [("namedRange", .obj [("name", .str "inbox"),
      ("range", .obj [("sheetId", .int 5), ("startRowIndex", .int 1), ("startColumnIndex", .int 0),
        ("endColumnIndex", .int 2)])])])]])]

/-- To move `inbox` describes the spreadsheet, then deletes the name and adds it in one batch. Where
the sheet is not there the spreadsheet is only described, and the failure tells what was found. -/
theorem inbox_isOrderly :
    (((synchronize inbox none {}).run scripted { service := inboxReplies }).1.isOk = true ∧
      ((synchronize inbox none {}).run scripted { service := inboxReplies }).2.calls = inboxCalls ∧
      IsOrderly inbox none {} scripted { service := inboxReplies } inboxCalls) ∧
    ((synchronize lostInbox none {}).run scripted { service := inboxReplies }).1 =
      .error ⟨.sheetNotFound "Post", [("sheetName", .str "Post"), ("cellRange", .str "A2:B"),
        ("availableSheets", .str "Mail")]⟩ ∧
      IsOrderly lostInbox none {} scripted { service := inboxReplies }
        [.metadata (.str "book")] := by
  have hcalls : ((synchronize inbox none {}).run scripted { service := inboxReplies }).2.calls =
      inboxCalls := by decide +kernel
  have hlost : ((synchronize lostInbox none {}).run scripted { service := inboxReplies }).2.calls =
      [.metadata (.str "book")] := by decide +kernel
  obtain ⟨made, hmade, horderly⟩ :=
    synchronize_isOrderly inbox none {} scripted { service := inboxReplies }
  obtain ⟨made', hmade', horderly'⟩ :=
    synchronize_isOrderly lostInbox none {} scripted { service := inboxReplies }
  rw [hcalls, List.nil_append] at hmade
  rw [hlost, List.nil_append] at hmade'
  rw [← hmade] at horderly
  rw [← hmade'] at horderly'
  exact ⟨⟨by decide +kernel, hcalls, horderly⟩, by decide +kernel, horderly'⟩

end SheetSchema.Sync
