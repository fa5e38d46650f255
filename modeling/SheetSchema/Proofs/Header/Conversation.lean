import Mathlib
import SheetSchema.Proofs.Header.Stages
import SheetSchema.Proofs.Header.Tiers

/-!
# The calls of an inference

An inference talks to the remote services in a fixed order: it describes the spreadsheet, reads the
header row once or, if that fails, twice, and has the headers translated. `Conversation` says which
calls with which replies an inference can have made; each goes only as far as the replies allow.

`infer_behaves` is the main result: whatever the services reply, the calls of an inference are such
a conversation, none of them changes a spreadsheet, and what the inference ends in tells how far it
came. It follows stage by stage: what is known after a stage is kept in `Reached` and `Matched`, and
a stage that fails ends the run (`Behaves.of_stage`).
-/

namespace SheetSchema.Header

variable {σ : Type} {service : Service σ} {w w' : World σ} {t : Translator} {r : Request}

/-! ## What can be said to the services -/

/-- The reads of a header row with their replies, and the rows that they come to. -/
inductive Reading {description : Reply} (row : RowRequest r description) :
    List (Call × Reply) → Except Error Json → Prop
  | once {reply : Reply} (hreply : reply.fails = false) :
      Reading row [(.values r.spreadsheet (.str row.quoted), reply)] (rowsIn row.quoted reply)
  /-- The row is read again under the plain sheet name if the first read has failed. -/
  | twice {first second : Reply} (hfirst : first.fails = true) :
      Reading row [(.values r.spreadsheet (.str row.quoted), first),
        (.values r.spreadsheet (.str row.plain), second)] (rowsAgain row.plain second)

/-- The calls that an inference can have made, with their replies. -/
inductive Conversation (t : Translator) (r : Request) : List (Call × Reply) → Prop
  | silent : Conversation t r []
  | described (description : Reply) : Conversation t r [(.metadata r.spreadsheet, description)]
  | read {description : Reply} {row : RowRequest r description} {reads : List (Call × Reply)}
      {rows : Except Error Json} (hreads : Reading row reads rows) :
      Conversation t r ((.metadata r.spreadsheet, description) :: reads)
  /-- The header row matches, the headers have a language, and one of them is in no tier of the
  dictionary. The call asks for all headers. -/
  | translated {description : Reply} {row : RowRequest r description} {reads : List (Call × Reply)}
      {rows : Json} {address : String} (hreads : Reading row reads (.ok rows))
      (hmatch : checkHeaders row.headers rows = .ok ()) (hlang : r.lang.truthy = true)
      (haddress : t.address? = some address)
      (hopen : ∃ h ∈ row.headers, resolve? t.dictionary h = none)
      (hasks : (t.request address row.headers r.lang).AsksFor (.str address)
        (row.headers.map .str) r.lang t.target) (reply : Reply) :
      Conversation t r ((.metadata r.spreadsheet, description) :: (reads ++
        [(t.request address row.headers r.lang, reply)]))

/-- The calls begin with a description of the spreadsheet and with the reads of a header row, which
holds the expected headers. -/
def HasMatched (r : Request) (e : List (Call × Reply)) : Prop :=
  ∃ (description : Reply) (row : RowRequest r description) (reads more : List (Call × Reply))
    (rows : Json), e = (.metadata r.spreadsheet, description) :: (reads ++ more) ∧
      Reading row reads (.ok rows) ∧ checkHeaders row.headers rows = .ok ()

/-- What can be observed of an inference: its calls with their replies, and its outcome. The header
row is read by the calls at the positions one and two. -/
structure Behaves (t : Translator) (r : Request) (e : List (Call × Reply))
    (outcome : Except Failure Inference) : Prop where
  conversation : Conversation t r e
  /-- No call changes a spreadsheet. -/
  reads_only : ∀ c ∈ e, c.1.writes = false
  /-- No failure of a remote service gets through. -/
  not_transient : ∀ failure, outcome = .error failure →
    failure.error.category.isTransient = false
  /-- A failure that carries facts tells its stage. -/
  stage : ∀ failure, outcome = .error failure → failure.error.category.isDiagnosable = true →
    ∃ stage : Stage, failure.facts.get? "failedStage" = some (.str stage.name)
  /-- A header row that cannot be read does not match. -/
  unread : failsAt e 1 = true → failsAt e 2 = true → ∃ facts,
    outcome = .error ⟨.headersDiffer, facts⟩ ∧
      Entries.get? facts "failedStage" = some (.str Stage.validateMatch.name)
  /-- A result comes of a header row that was read and matches. -/
  matched : ∀ i, outcome = .ok i → HasMatched r e
  no_error_fact : ∀ i, outcome = .ok i → i.debug.get? "headerRangeError" = none
  /-- A result tells of a second read if and only if the first one has failed. -/
  fallback_fact : ∀ i, outcome = .ok i →
    ((i.debug.get? "headerRangeFallback").isSome = true ↔ failsAt e 1 = true)

/-- More calls change nothing about that. -/
theorem HasMatched.append {e : List (Call × Reply)} (h : HasMatched r e)
    (others : List (Call × Reply)) : HasMatched r (e ++ others) := by
  obtain ⟨description, row, reads, more, rows, rfl, hreads, hmatch⟩ := h
  refine ⟨description, row, reads, more ++ others, rows, ?_, hreads, hmatch⟩
  rw [List.cons_append, List.append_assoc]

theorem Reading.writes_eq_false {description : Reply} {row : RowRequest r description}
    {reads : List (Call × Reply)} {rows : Except Error Json} (h : Reading row reads rows) :
    ∀ c ∈ reads, c.1.writes = false := by
  cases h <;> simp [Call.writes]

theorem Conversation.writes_eq_false {e : List (Call × Reply)} (h : Conversation t r e) :
    ∀ c ∈ e, c.1.writes = false := by
  cases h with
  | silent => simp
  | described description => simp [Call.writes]
  | read hreads =>
    rw [List.forall_mem_cons]
    exact ⟨rfl, hreads.writes_eq_false⟩
  | translated hreads hmatch hlang haddress hopen hasks reply =>
    rw [List.forall_mem_cons, List.forall_mem_append]
    exact ⟨rfl, hreads.writes_eq_false,
      by simp [Translator.request, Translation.request, Call.writes]⟩

/-! ## How an inference fails -/

theorem isTransient_eq_false_of_isDiagnosable {c : Category} (h : c.isDiagnosable = false) :
    c.isTransient = false := by
  cases c <;> first | rfl | cases h

/-- A stage fails and leaves its name. -/
theorem Behaves.of_stage {e : List (Call × Reply)} {error : Error} {stage : Stage}
    (hconversation : Conversation t r e) (herror : error.category.isTransient = false)
    (hunread : failsAt e 1 = true → failsAt e 2 = true →
      error = .headersDiffer ∧ stage = .validateMatch) (ledger : Ledger) :
    Behaves t r e (.error (Failure.attach ⟨error, []⟩
      (ledger.set "failedStage" (.str stage.name)).facts)) where
  conversation := hconversation
  reads_only := hconversation.writes_eq_false
  not_transient := by
    rintro failure hfailure
    rw [← Except.error.inj hfailure, Failure.attach_nil]
    exact herror
  stage := by
    rintro failure hfailure hdiagnosable
    rw [← Except.error.inj hfailure, Failure.attach_nil] at hdiagnosable ⊢
    rw [if_pos hdiagnosable]
    exact ⟨stage, Ledger.get?_set_self _ _ _⟩
  unread := by
    intro hfirst hsecond
    obtain ⟨rfl, rfl⟩ := hunread hfirst hsecond
    exact ⟨_, rfl, Ledger.get?_set_self _ _ _⟩
  matched := fun _ h => nomatch h
  no_error_fact := fun _ h => nomatch h
  fallback_fact := fun _ h => nomatch h

/-- A misuse of a value, which carries no facts, ends an inference that has read its header row. -/
theorem Behaves.of_misuse {e : List (Call × Reply)} {error : Error}
    (hconversation : Conversation t r e) (herror : error.category.isDiagnosable = false)
    (hread : failsAt e 1 = true → failsAt e 2 = false) (facts : Entries Json) :
    Behaves t r e (.error (Failure.attach ⟨error, []⟩ facts)) where
  conversation := hconversation
  reads_only := hconversation.writes_eq_false
  not_transient := by
    rintro failure hfailure
    rw [← Except.error.inj hfailure, Failure.attach_nil]
    exact isTransient_eq_false_of_isDiagnosable herror
  stage := by
    rintro failure hfailure hdiagnosable
    rw [← Except.error.inj hfailure, Failure.attach_nil, herror] at hdiagnosable
    cases hdiagnosable
  unread := by
    intro hfirst hsecond
    rw [hread hfirst] at hsecond
    cases hsecond
  matched := fun _ h => nomatch h
  no_error_fact := fun _ h => nomatch h
  fallback_fact := fun _ h => nomatch h

/-! ## From stage to stage -/

/-- The run that started in `w` has made these calls and reached this world, which is one that an
inference can reach. -/
structure Reached (t : Translator) (r : Request) (service : Service σ) (w : World σ)
    (made : List Call) (w' : World σ) : Prop where
  remote : World.SameRemote (w.afterAll service made) w'
  conversation : Conversation t r (exchange service w.service made)

/-- The run that started in `w` has ended as an inference can end. -/
def Settled (t : Translator) (r : Request) (service : Service σ) (w : World σ)
    (outcome : Except Failure Inference) (w' : World σ) : Prop :=
  ∃ made, World.SameRemote (w.afterAll service made) w' ∧
    Behaves t r (exchange service w.service made) outcome

/-- What is left to show of a failure: that the inference may end so. -/
def Stopped (t : Translator) (r : Request) (service : Service σ) (w : World σ) (failure : Failure)
    (w' : World σ) : Prop :=
  Settled t r service w (.error (failure.attach w'.ledger.facts)) w'

variable {made : List Call}

/-- A stage that fails ends the run. -/
theorem Reached.stopped (h : Reached t r service w made w') {error : Error} {stage : Stage}
    (herror : error.category.isTransient = false)
    (hunread : failsAt (exchange service w.service made) 1 = true →
      failsAt (exchange service w.service made) 2 = true →
        error = .headersDiffer ∧ stage = .validateMatch) :
    Stopped t r service w ⟨error, []⟩
      { w' with ledger := w'.ledger.set "failedStage" (.str stage.name) } :=
  ⟨made, h.remote, .of_stage h.conversation herror hunread _⟩

/-- A check goes on with what it finds, or ends the run. -/
theorem Reached.ends_check {α : Type} (h : Reached t r service w made w') {stage : Stage}
    {x : Except Error α} {ok : α → World σ → Prop} (hx : NeverRemote x)
    (hunread : ∀ error, x = .error error → failsAt (exchange service w.service made) 1 = true →
      failsAt (exchange service w.service made) 2 = true →
        error = .headersDiffer ∧ stage = .validateMatch)
    (hok : ∀ a, x = .ok a → ok a w') :
    Session.Ends (within stage (Session.ofExcept x)) service w' ok (Stopped t r service w) := by
  rw [ends_within]
  cases x with
  | ok a => exact (Session.ends_ok a).mpr (hok a rfl)
  | error error =>
    exact (Session.ends_error error).mpr (h.stopped (hx error rfl) (hunread error rfl))

/-- The sheet is resolved. -/
theorem ends_resolve {ok : List String × Json → World σ → Prop}
    (hok : ∀ headers title w', expectedHeaders r = .ok headers →
      titleOf r (service w.service (.metadata r.spreadsheet)).1 = .ok title →
      World.SameRemote (w.after service (.metadata r.spreadsheet)) w' → KeepsFacts w w' →
      ok (headers, title) w') :
    Session.Ends (within .resolveSheet do
      let headers ← Session.ofExcept (expectedHeaders r)
      return (headers, ← resolveSheet r)) service w ok (Stopped t r service w) := by
  have hsilent : Reached t r service w [] w := ⟨⟨rfl, rfl⟩, .silent⟩
  rw [ends_within, Session.ends_bind]
  cases hheaders : expectedHeaders r with
  | error error =>
    rw [Session.ends_error]
    exact hsilent.stopped (neverRemote_expectedHeaders r error hheaders) (fun h => nomatch h)
  | ok headers =>
    rw [Session.ends_ok, Session.ends_bind]
    obtain ⟨w₁, hrun, hsame, hkeeps⟩ := run_resolveSheet r service w
    rw [Session.ends_iff_of_run_eq hrun]
    have hdescribed : Reached t r service w [.metadata r.spreadsheet] w₁ := ⟨hsame, .described _⟩
    cases htitle : titleOf r (service w.service (.metadata r.spreadsheet)).1 with
    | error error =>
      rw [Session.ends_error]
      exact hdescribed.stopped (neverRemote_titleOf r _ error htitle) (fun h => nomatch h)
    | ok title =>
      rw [Session.ends_ok, Session.ends_pure]
      exact hok headers title w₁ hheaders htitle hsame hkeeps

/-- What the ledger tells about the reads of the header row. -/
structure ReadFacts (reads : List (Call × Reply)) (ledger : Ledger) : Prop where
  error_fact : (failsAt reads 0 = true → failsAt reads 1 = false) →
    ledger.get? "headerRangeError" = none
  fallback_fact : (ledger.get? "headerRangeFallback").isSome = true ↔ failsAt reads 0 = true

section Reads

variable {description : Reply} {row : RowRequest r description} {reads : List (Call × Reply)}
  {outcome : Except Error Json}

theorem Reading.neverRemote (h : Reading row reads outcome) : NeverRemote outcome := by
  cases h with
  | once hreply =>
    intro error herror
    rw [isTransient_rowsIn herror, hreply]
  | @twice first second hfirst =>
    rw [rowsAgain]
    cases hsecond : second.fails with
    | true => exact .ok _
    | false =>
      intro error herror
      rw [isTransient_rowsIn herror, hsecond]

/-- Where both reads have failed there are no rows. -/
theorem Reading.eq_none (h : Reading row reads outcome) (hfirst : failsAt reads 0 = true)
    (hsecond : failsAt reads 1 = true) : outcome = .ok (.arr []) := by
  cases h with
  | once hreply => cases hsecond
  | twice => exact if_pos hsecond

/-- Fetching the header row comes to a reading of it, and leaves its facts. -/
theorem exists_reading (row : RowRequest r description) (service : Service σ) (w : World σ)
    (herror : w.ledger.get? "headerRangeError" = none)
    (hfallback : w.ledger.get? "headerRangeFallback" = none) :
    ∃ made outcome w', (fetchHeaderRow r.spreadsheet row.cell row.lastColumn).run service w =
        (Session.ofExcept outcome).run service w' ∧
      World.SameRemote (w.afterAll service made) w' ∧
      Reading row (exchange service w.service made) outcome ∧
      ∀ rows, outcome = .ok rows → ReadFacts (exchange service w.service made) w'.ledger := by
  cases hfirst : (service w.service (.values r.spreadsheet (.str row.quoted))).1.fails with
  | false =>
    obtain ⟨w', hrun, hsame, hledger⟩ :=
      run_fetchHeaderRow_of_first row.quoted_eq row.plain_eq hfirst
    refine ⟨[.values r.spreadsheet (.str row.quoted)], _, w', hrun, hsame, .once hfirst,
      fun rows hrows => ⟨fun _ => ?_, ?_⟩⟩
    · rw [hledger, Ledger.get?_set_of_ne _ _ (by decide), herror]
    · rw [hledger, Ledger.get?_set_of_ne _ _ (by decide), hfallback]
      exact iff_of_false (fun h => nomatch h) (by simp [failsAt, exchange, hfirst])
  | true =>
    obtain ⟨w', hrun, hsame, hfallback', herror'⟩ :=
      run_fetchHeaderRow_of_second row.quoted_eq row.plain_eq hfirst
    refine ⟨[.values r.spreadsheet (.str row.quoted), .values r.spreadsheet (.str row.plain)], _,
      w', hrun, hsame, .twice hfirst, fun rows hrows => ⟨fun hread => ?_, ?_⟩⟩
    · have hsecond := hread hfirst
      refine herror' rows ?_
      rw [← hrows]
      exact (if_neg (Bool.eq_false_iff.mp hsecond)).symm
    · rw [hfallback']
      exact iff_of_true rfl hfirst

end Reads

/-- The calls that follow the description of the spreadsheet, with their replies. -/
abbrev readsOf (r : Request) (service : Service σ) (w : World σ) (made : List Call) :
    List (Call × Reply) :=
  exchange service (w.after service (.metadata r.spreadsheet)).service made

/-- The header row is fetched. -/
theorem ends_fetch {headers : List String} {title : Json} {cell : A1.CellReference}
    {lastColumn : String} (hheaders : expectedHeaders r = .ok headers)
    (htitle : titleOf r (service w.service (.metadata r.spreadsheet)).1 = .ok title)
    (hcells : headerCells r.startCell title headers.length = .ok (cell, lastColumn))
    (hsame : World.SameRemote (w.after service (.metadata r.spreadsheet)) w')
    (herror : w'.ledger.get? "headerRangeError" = none)
    (hfallback : w'.ledger.get? "headerRangeFallback" = none) {ok : Json → World σ → Prop}
    (hok : ∀ (row : RowRequest r (service w.service (.metadata r.spreadsheet)).1) made rows w₂,
      row.headers = headers →
      World.SameRemote (w.afterAll service (.metadata r.spreadsheet :: made)) w₂ →
      Reading row (readsOf r service w made) (.ok rows) →
      ReadFacts (readsOf r service w made) w₂.ledger → ok rows w₂) :
    Session.Ends (within .fetchHeaderRow (fetchHeaderRow r.spreadsheet cell lastColumn)) service w'
      ok (Stopped t r service w) := by
  rw [ends_within]
  cases hquoted : rowRange cell.sheet cell lastColumn true with
  | error error =>
    have hdescribed : Reached t r service w [.metadata r.spreadsheet] w' := ⟨hsame, .described _⟩
    rw [Session.ends_iff_of_run_error (run_fetchHeaderRow_of_error hquoted service w')]
    exact hdescribed.stopped (neverRemote_rowRange _ _ _ _ error hquoted) (fun h => nomatch h)
  | ok quoted =>
    obtain ⟨plain, hplain⟩ := exists_plain hquoted
    let row : RowRequest r (service w.service (.metadata r.spreadsheet)).1 :=
      ⟨headers, title, cell, lastColumn, quoted, plain, hheaders, htitle, hcells, hquoted, hplain⟩
    obtain ⟨made, outcome, w₂, hrun, hsame₂, hreading, hfacts⟩ :=
      exists_reading row service w' herror hfallback
    have hremote := trans_of _ (hsame.afterAll made) hsame₂
    rw [show w'.service = (w.after service (.metadata r.spreadsheet)).service from hsame.2]
      at hreading hfacts
    rw [Session.ends_iff_of_run_eq hrun]
    cases outcome with
    | error error =>
      have hreached : Reached t r service w (.metadata r.spreadsheet :: made) w₂ :=
        ⟨hremote, .read hreading⟩
      rw [Session.ends_error]
      refine hreached.stopped (hreading.neverRemote error rfl) fun hfirst hsecond => ?_
      cases hreading.eq_none hfirst hsecond
    | ok rows =>
      rw [Session.ends_ok]
      exact hok row made rows w₂ rfl hremote hreading (hfacts rows rfl)

/-- No header row matches headers unless it is there. -/
theorem checkHeaders_none {headers : List String} (h : headers ≠ []) :
    checkHeaders headers (.arr []) = .error .headersDiffer := by
  obtain ⟨header, rest, rfl⟩ := List.exists_cons_of_ne_nil h
  rfl

/-- The run that started in `w` has read a header row that matches. -/
structure Matched (t : Translator) (r : Request) (service : Service σ) (w : World σ)
    (made : List Call) (w' : World σ) : Prop extends Reached t r service w made w' where
  has_matched : HasMatched r (exchange service w.service made)
  is_read : failsAt (exchange service w.service made) 1 = true →
    failsAt (exchange service w.service made) 2 = false
  error_fact : w'.ledger.get? "headerRangeError" = none
  fallback_fact : (w'.ledger.get? "headerRangeFallback").isSome = true ↔
    failsAt (exchange service w.service made) 1 = true

namespace Matched

variable (h : Matched t r service w made w')

include h

theorem record {key : String} (value : Json) (herror : key ≠ "headerRangeError")
    (hfallback : key ≠ "headerRangeFallback") :
    Matched t r service w made { w' with ledger := w'.ledger.set key value } where
  remote := h.remote
  conversation := h.conversation
  has_matched := h.has_matched
  is_read := h.is_read
  error_fact := by rw [Ledger.get?_set_of_ne _ _ herror, h.error_fact]
  fallback_fact := by rw [Ledger.get?_set_of_ne _ _ hfallback, h.fallback_fact]

/-- A stage after the match that fails ends the run. -/
theorem stopped {stage : Stage} {error : Error} (herror : error.category.isTransient = false) :
    Stopped t r service w ⟨error, []⟩
      { w' with ledger := w'.ledger.set "failedStage" (.str stage.name) } := by
  refine h.toReached.stopped herror fun hfirst hsecond => ?_
  rw [h.is_read hfirst] at hsecond
  cases hsecond

/-- A misuse between the stages ends the run. -/
theorem misused {error : Error} (herror : error.category.isDiagnosable = false) :
    Stopped t r service w ⟨error, []⟩ w' :=
  ⟨made, h.remote, .of_misuse h.conversation herror h.is_read _⟩

/-- The run ends in a result with the facts of its ledger. -/
theorem settled {i : Inference} (hdebug : i.debug = w'.ledger) :
    Settled t r service w (.ok i) w' := by
  refine ⟨made, h.remote, ?_⟩
  exact {
    conversation := h.conversation
    reads_only := h.conversation.writes_eq_false
    not_transient := fun _ hi => nomatch hi
    stage := fun _ hi => nomatch hi
    unread := by
      intro hfirst hsecond
      rw [h.is_read hfirst] at hsecond
      cases hsecond
    matched := fun _ _ => h.has_matched
    no_error_fact := by
      rintro _ ⟨⟩
      rw [hdebug, h.error_fact]
    fallback_fact := by
      rintro _ ⟨⟩
      rw [hdebug, h.fallback_fact] }

/-- The fields are built. -/
theorem ends_buildFields (translated originals : List Json) (start row : Json)
    (title headerRange dataRange : String) :
    Session.Ends (within .buildFields do
        let fields ← Session.ofExcept (fieldsOf translated originals start row r.lang)
        let schema ← Session.ofExcept (Schema.ofValues fields (.str title) r.spreadsheet .null)
        return (⟨schema, headerRange, dataRange, ← Session.ledger⟩ : Inference)) service w'
      (fun i => Settled t r service w (.ok i)) (Stopped t r service w) := by
  rw [ends_within, Session.ends_bind]
  cases hfields : fieldsOf translated originals start row r.lang with
  | error error =>
    rw [Session.ends_error]
    exact h.stopped (neverRemote_fieldsFrom _ _ _ _ _ _ error hfields)
  | ok fields =>
    rw [Session.ends_ok, Session.ends_bind]
    cases hschema : Schema.ofValues fields (.str title) r.spreadsheet .null with
    | error error =>
      rw [Session.ends_error]
      exact h.stopped (neverRemote_schema _ _ _ _ error hschema)
    | ok schema =>
      rw [Session.ends_ok, Session.ends_bind, Session.ends_ledger, Session.ends_pure]
      exact h.settled rfl

end Matched

section Translated

variable {row : RowRequest r (service w.service (.metadata r.spreadsheet)).1} {made : List Call}
  {rows : Json}

theorem Reading.failsAt_append {description : Reply} {row : RowRequest r description}
    {reads : List (Call × Reply)} {outcome : Except Error Json} (h : Reading row reads outcome)
    (more : List (Call × Reply)) :
    failsAt (reads ++ more) 0 = failsAt reads 0 ∧
      ((failsAt reads 0 = true → failsAt reads 1 = false) →
        failsAt (reads ++ more) 0 = true → failsAt (reads ++ more) 1 = false) := by
  cases h with
  | @once reply hreply =>
    refine ⟨rfl, fun _ hfirst => ?_⟩
    have : failsAt [(.values r.spreadsheet (.str row.quoted), reply)] 0 = true := hfirst
    simp [failsAt, hreply] at this
  | twice hfirst => exact ⟨rfl, id⟩

theorem Translator.use_cases (t : Translator) (headers : List String)
    (answer : Except Error (List String)) : (∃ texts, t.use headers answer = .ok texts) ∨
      ∃ error, t.use headers answer = .error ⟨error, []⟩ ∧ error.category.isTransient = false := by
  cases answer with
  | ok served => exact .inl ⟨_, rfl⟩
  | error error =>
    rw [Translator.use]
    split
    · exact .inl ⟨_, rfl⟩
    · next h => exact .inr ⟨error, rfl, Bool.eq_false_iff.mpr h⟩

/-- What a translation records leaves what is known of the header row. -/
theorem Matched.of_translate (h : Matched t r service w (.metadata r.spreadsheet :: made) w')
    (hreads : Reading row (readsOf r service w made) (.ok rows))
    (more : List Call) {w₂ : World σ}
    (hremote : World.SameRemote (w.afterAll service (.metadata r.spreadsheet :: (made ++ more))) w₂)
    (hconversation : Conversation t r
      (exchange service w.service (.metadata r.spreadsheet :: (made ++ more))))
    {outcome : Except Failure (List Json)} (headers : List String)
    (hrun : (translate t headers r.lang).run service w' = (outcome, w₂)) :
    Matched t r service w (.metadata r.spreadsheet :: (made ++ more)) w₂ := by
  have hkept {key : String} (hkey : key ∉ translationFacts) :
      w₂.ledger.get? key = w'.ledger.get? key :=
    ((extends_translate hkey t headers r.lang).of_run hrun).2
  obtain ⟨hfirst, hread⟩ := hreads.failsAt_append (exchange service
    ((w.after service (.metadata r.spreadsheet)).afterAll service made).service more)
  rw [← exchange_append] at hfirst hread
  exact {
    remote := hremote
    conversation := hconversation
    has_matched := by
      rw [← List.cons_append, exchange_append]
      exact h.has_matched.append _
    is_read := hread h.is_read
    error_fact := (hkept (by decide)).trans h.error_fact
    fallback_fact := by
      rw [hkept (by decide), h.fallback_fact]
      exact iff_of_eq (congrArg (· = true) hfirst.symm) }

/-- The headers are translated. -/
theorem ends_translate
    (h : Matched t r service w (.metadata r.spreadsheet :: made) w')
    (hreads : Reading row (readsOf r service w made) (.ok rows))
    (hmatch : checkHeaders row.headers rows = .ok ()) {ok : List Json → World σ → Prop}
    (hok : ∀ translated all w₂, Matched t r service w all w₂ → ok translated w₂) :
    Session.Ends (within .translate (if r.lang.truthy then translate t row.headers r.lang
        else pure (row.headers.map Json.str))) service w' ok (Stopped t r service w) := by
  rw [ends_within]
  split
  · next hlang =>
    cases hasked : asked? t row.headers with
    | none =>
      obtain ⟨w₂, hrun, hsame⟩ := run_translate_of_unasked hasked r.lang service w'
      rw [Session.ends_iff_of_run_ok hrun]
      refine hok _ _ w₂ (h.of_translate hreads [] ?_ ?_ row.headers hrun)
      · rw [List.append_nil]
        exact trans_of _ h.remote hsame
      · rw [List.append_nil]
        exact h.conversation
    | some address =>
      obtain ⟨haddress, hopen⟩ := asked?_eq_some_iff.mp hasked
      obtain ⟨w₂, hrun, hsame⟩ := run_translate_of_asked hasked r.lang service w'
      have hmatched : Matched t r service w (.metadata r.spreadsheet :: (made ++
          [t.request address row.headers r.lang])) w₂ := by
        refine h.of_translate hreads _ ?_ ?_ row.headers hrun
        · rw [← List.cons_append, World.afterAll_append]
          exact trans_of _ (h.remote.afterAll [t.request address row.headers r.lang]) hsame
        · rw [← List.cons_append, exchange_append]
          exact .translated hreads hmatch hlang haddress hopen
            (Translation.asksFor_request _ _ _ _) _
      rcases t.use_cases row.headers
        (service w'.service (t.request address row.headers r.lang)).1.translations with
        ⟨texts, htexts⟩ | ⟨error, herror, htransient⟩
      · rw [htexts] at hrun
        rw [Session.ends_iff_of_run_ok hrun]
        exact hok _ _ w₂ hmatched
      · rw [herror] at hrun
        rw [Session.ends_iff_of_run_error hrun]
        exact hmatched.stopped htransient
  · exact (Session.ends_pure _).mpr (hok _ _ w' h)

/-- The inference from a header row that matches. -/
theorem ends_inferFromRow (title : Json) (cell : A1.CellReference) (lastColumn : String)
    (h : Matched t r service w (.metadata r.spreadsheet :: made) w')
    (hreads : Reading row (readsOf r service w made) (.ok rows))
    (hmatch : checkHeaders row.headers rows = .ok ()) :
    Session.Ends (inferFromRow (translate t) r row.headers title cell lastColumn) service w'
      (fun i => Settled t r service w (.ok i)) (Stopped t r service w) := by
  rw [inferFromRow, Session.ends_bind]
  cases hranges : inferredRanges title cell lastColumn with
  | error error =>
    rw [Session.ends_error]
    exact h.misused (isDiagnosable_inferredRanges hranges)
  | ok ranges =>
    obtain ⟨sheetName, headerRange, dataRange⟩ := ranges
    simp only [Session.ends_ok, Session.ends_bind, Session.ends_record]
    have h₁ := h.record (.str headerRange) (by decide : "headerRange" ≠ _) (by decide)
    have h₂ := h₁.record (.str dataRange) (by decide : "dataRange" ≠ _) (by decide)
    have h₃ := h₂.record (.int ((cell.row : Int) - 1)) (by decide : "headerRowIndex" ≠ _)
      (by decide)
    have h₄ := h₃.record (.int cell.columnIndex) (by decide : "startColIndex" ≠ _) (by decide)
    exact ends_translate h₄ hreads hmatch fun translated all w₂ hw₂ =>
      hw₂.ends_buildFields translated _ _ _ sheetName headerRange dataRange

end Translated

/-! ## The main result -/

/-- An inference that starts with no facts goes through its stages, or ends in one of them. -/
theorem ends_inferStages (t : Translator) (r : Request) (service : Service σ)
    (hledger : w.ledger = {}) :
    Session.Ends (inferStages (translate t) r) service w (fun i => Settled t r service w (.ok i))
      (Stopped t r service w) := by
  rw [inferStages, Session.ends_bind]
  refine ends_resolve fun headers title w₁ hheaders htitle hsame hkeeps => ?_
  have hfact {key : String} (hkey : key ∉ resolveFacts) : w₁.ledger.get? key = none := by
    rw [hkeeps key hkey, hledger]
    rfl
  have hdescribed : Reached t r service w [.metadata r.spreadsheet] w₁ := ⟨hsame, .described _⟩
  rw [Session.ends_bind]
  refine hdescribed.ends_check (neverRemote_headerCells _ _ _)
    (fun _ _ h => absurd h Bool.false_ne_true) ?_
  rintro ⟨cell, lastColumn⟩ hcells
  rw [Session.ends_bind]
  refine ends_fetch hheaders htitle hcells hsame (hfact (by decide)) (hfact (by decide)) ?_
  rintro row made rows w₂ rfl hremote hreading hfacts
  have hread : Reached t r service w (.metadata r.spreadsheet :: made) w₂ :=
    ⟨hremote, .read hreading⟩
  have hnone
      (hfirst : failsAt (exchange service w.service (.metadata r.spreadsheet :: made)) 1 = true)
      (hsecond : failsAt (exchange service w.service (.metadata r.spreadsheet :: made)) 2 = true) :
      checkHeaders row.headers rows = .error .headersDiffer := by
    obtain rfl := Except.ok.inj (hreading.eq_none hfirst hsecond)
    exact checkHeaders_none (expectedHeaders_ne_nil row.headers_eq)
  rw [Session.ends_bind]
  refine hread.ends_check (neverRemote_checkHeaders _ _) (fun error herror hfirst hsecond => ?_) ?_
  · rw [hnone hfirst hsecond] at herror
    exact ⟨(Except.error.inj herror).symm, rfl⟩
  · intro _ hmatch
    have his_read (hfirst : failsAt (exchange service w.service
        (.metadata r.spreadsheet :: made)) 1 = true) :
        failsAt (exchange service w.service (.metadata r.spreadsheet :: made)) 2 = false := by
      by_contra hsecond
      rw [hnone hfirst (Bool.not_eq_false _ ▸ hsecond)] at hmatch
      cases hmatch
    have hmatched : HasMatched r
        (exchange service w.service (.metadata r.spreadsheet :: made)) :=
      ⟨_, row, _, [], rows, by rw [List.append_nil]; rfl, hreading, hmatch⟩
    exact ends_inferFromRow title cell lastColumn
      ⟨hread, hmatched, his_read, hfacts.error_fact his_read, hfacts.fallback_fact⟩ hreading hmatch

/-- Whatever the services reply, the calls of an inference are a conversation that fits the replies,
none of them changes a spreadsheet, and the outcome tells how far it came. -/
theorem infer_behaves (t : Translator) (r : Request) (service : Service σ) (w : World σ) :
    ∃ made, ((infer t r).run service w).2.calls = w.calls ++ made ∧
      Behaves t r (exchange service w.service made) ((infer t r).run service w).1 := by
  have hends : Session.Ends (infer t r) service w
      (fun i => Settled t r service { w with ledger := {} } (.ok i))
      fun failure => Settled t r service { w with ledger := {} } (.error failure) := by
    rw [infer, inferWith, Session.ends_recording]
    exact ends_inferStages t r service rfl
  obtain ⟨made, hremote, hbehaves⟩ := hends.run
  refine ⟨made, ?_, hbehaves⟩
  rw [hremote.1, World.calls_afterAll]

end SheetSchema.Header
