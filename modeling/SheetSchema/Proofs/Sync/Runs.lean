import Mathlib
import SheetSchema.Proofs.Sync.Replace
import SheetSchema.Proofs.Sync.Shelf

/-!
# Synchronising again and again

Any number of calls on one spreadsheet, with any names and range texts, each of which may succeed or
fail. `worldAfter` is the world after some of them. On a service that keeps a book, every call in
such a run does what it says and nothing else (`synchronize_isFaithful`): ids and names stay
distinct, a call that succeeds binds its name exactly once, to the region that it reports and that
is read back, every other name keeps its id and its region, and a call that fails changes nothing.
So to repeat a call changes no region.

The constant of a range is set after the batch went through. A call that is given a file of
constants may fail there, with its name bound already; no other call that fails has changed
anything.
-/

namespace SheetSchema.Sync

variable {σ : Type} {service : Service σ} {spreadsheet : Json} {book : σ → Book} {w w' : World σ}

/-- A call on a spreadsheet: the name and the range text, the file of constants if one is given, and
the files as the call finds them. -/
structure Job where
  name : String
  text : Json
  constants? : Option Path
  tree : FileTree

namespace Job

/-- What is asked for. -/
def request (job : Job) (spreadsheet : Json) : Request := ⟨spreadsheet, .str job.name, job.text⟩

/-- The call. -/
def session (job : Job) (spreadsheet : Json) : Session σ (Outcome × FileTree) :=
  synchronize (job.request spreadsheet) job.constants? job.tree

/-- The world after the call. -/
def after (job : Job) (service : Service σ) (spreadsheet : Json) (w : World σ) : World σ :=
  ((job.session spreadsheet).run service w).2

/-- A call in the world `w` does what it says to the book, and nothing else. -/
structure IsFaithful (job : Job) (service : Service σ) (spreadsheet : Json) (book : σ → Book)
    (w : World σ) : Prop where
  /-- Ids and names are distinct before the call. -/
  sound : (book w.service).Sound
  /-- Ids and names are distinct after it. -/
  sound_after : (book (job.after service spreadsheet w).service).Sound
  /-- After a success the name is bound exactly once, to the region of the outcome. -/
  bound : ∀ o tree w', (job.session spreadsheet).run service w = (.ok (o, tree), w') →
    ((book w'.service).entries.filter (·.name = job.name)).map (·.range) = [o.range]
  /-- After a success every description of the spreadsheet can be read, and has the region. -/
  readBack : ∀ o tree w', (job.session spreadsheet).run service w = (.ok (o, tree), w') →
    ∀ data, (service w'.service (.metadata spreadsheet)).1 = .ok data →
      ∃ m, Metadata.ofJson spreadsheet data = .ok m ∧
        (m.findNamedRange? (.str job.name)).map (·.range?) = some (some o.range)
  /-- Every other name keeps its id and its region. -/
  others : (book (job.after service spreadsheet w).service).entries.filter (·.name ≠ job.name) =
    (book w.service).entries.filter (·.name ≠ job.name)
  /-- Without a file of constants a failure changes nothing. -/
  unchanged : job.constants? = none → ∀ failure w',
    (job.session spreadsheet).run service w = (.error failure, w') →
      book w'.service = book w.service
  /-- With a file of constants a failure changes nothing either, unless the batch went through and
  the file could not be set. -/
  failed : ∀ failure w', (job.session spreadsheet).run service w = (.error failure, w') →
    book w'.service = book w.service ∨ job.constants? ≠ none ∧
      ∃ range, Book.Rebinds job.name range (book w.service) (book w'.service)
  /-- To repeat the call after a success changes no region. -/
  repeated : ∀ o tree w', (job.session spreadsheet).run service w = (.ok (o, tree), w') →
    ∀ again : Job, again.name = job.name → again.text = job.text →
      (book (again.after service spreadsheet w').service).rangeOf? = (book w'.service).rangeOf?

variable {job : Job} {o : Outcome} {tree : FileTree}

/-! ## One call -/

/-- A call that succeeds rebinds its name to the region of the outcome, which is the one that the
request names. -/
theorem rebinds_of_ok (hkeeps : Keeps service spreadsheet book) (hb : (book w.service).Sound)
    (h : (job.session spreadsheet).run service w = (.ok (o, tree), w')) :
    (job.request spreadsheet).Names (book w.service).sheets o.range ∧
      Book.Rebinds job.name o.range (book w.service) (book w'.service) := by
  obtain ⟨p, w₁, happly, hservice, -, hrange, -, -⟩ := of_synchronize h
  rw [hservice, hrange]
  exact apply_rebinds (w := { w with ledger := {}, files := job.tree }) hkeeps hb happly

/-- A call that fails changes nothing, or rebinds its name as if it succeeded. -/
theorem unchanged_or_rebinds {failure : Failure} (hkeeps : Keeps service spreadsheet book)
    (hb : (book w.service).Sound)
    (h : (job.session spreadsheet).run service w = (.error failure, w')) :
    book w'.service = book w.service ∨ job.constants? ≠ none ∧
      ∃ range, (job.request spreadsheet).Names (book w.service).sheets range ∧
        Book.Rebinds job.name range (book w.service) (book w'.service) := by
  rcases of_synchronize_error h with ⟨cause, happly⟩ | ⟨hconstants, p, w₁, happly, hservice⟩
  · exact .inl (apply_unchanged (w := { w with ledger := {}, files := job.tree }) hkeeps hb happly)
  · rw [hservice]
    exact .inr ⟨hconstants, p.range,
      apply_rebinds (w := { w with ledger := {}, files := job.tree }) hkeeps hb happly⟩

/-- A call leaves the book as it is, or rebinds its name to the region that the request names. -/
theorem after_eq_or_rebinds (job : Job) (hkeeps : Keeps service spreadsheet book)
    (hb : (book w.service).Sound) :
    book (job.after service spreadsheet w).service = book w.service ∨
      ∃ range, (job.request spreadsheet).Names (book w.service).sheets range ∧
        Book.Rebinds job.name range (book w.service)
          (book (job.after service spreadsheet w).service) := by
  rw [after]
  rcases hrun : (job.session spreadsheet).run service w with ⟨failure | ⟨o, tree⟩, w'⟩
  · rcases unchanged_or_rebinds hkeeps hb hrun with hsame | ⟨-, hrebinds⟩
    · exact .inl hsame
    · exact .inr hrebinds
  · exact .inr ⟨o.range, rebinds_of_ok hkeeps hb hrun⟩

theorem sound_after (job : Job) (hkeeps : Keeps service spreadsheet book)
    (hb : (book w.service).Sound) : (book (job.after service spreadsheet w).service).Sound := by
  rcases job.after_eq_or_rebinds hkeeps hb with hsame | ⟨range, -, hrebinds⟩
  · rwa [hsame]
  · exact hrebinds.sound hb

/-- A region that is bound is read back, from every description of the spreadsheet. -/
theorem exists_findNamedRange? (hkeeps : Keeps service spreadsheet book) {name : String}
    {range : GridRange} (hbounded : range.Bounded)
    (hbound : (book w.service).rangeOf? name = some range) {data : Json}
    (hdata : (service w.service (.metadata spreadsheet)).1 = .ok data) :
    ∃ m, Metadata.ofJson spreadsheet data = .ok m ∧
      (m.findNamedRange? (.str name)).map (·.range?) = some (some range) := by
  obtain ⟨ranges, hm, hread⟩ :=
    Book.exists_metadata (hkeeps.describes w.service data hdata) spreadsheet
  obtain ⟨e, hfind, rfl⟩ := Option.map_eq_some_iff.mp hbound
  obtain ⟨n, hn, he⟩ := exists_find?_of_readAs hread hfind
  exact ⟨_, hm, by rw [Metadata.findNamedRange?, hn, Option.map_some, he.range? hbounded]⟩

/-- To rebind a name as it is bound already changes no region. -/
theorem rangeOf?_after_again {again : Job} (hkeeps : Keeps service spreadsheet book)
    (hb : (book w.service).Sound)
    (h : (job.session spreadsheet).run service w = (.ok (o, tree), w'))
    (hname : again.name = job.name) (htext : again.text = job.text) :
    (book (again.after service spreadsheet w').service).rangeOf? = (book w'.service).rangeOf? := by
  obtain ⟨hnames, hrebinds⟩ := rebinds_of_ok hkeeps hb h
  rcases again.after_eq_or_rebinds hkeeps (hrebinds.sound hb) with hsame | ⟨range, hagain, hrebound⟩
  · rw [hsame]
  · have hrequest : again.request spreadsheet = job.request spreadsheet := by
      rw [request, request, hname, htext]
    rw [hrequest, hrebinds.1] at hagain
    obtain rfl := hnames.unique hagain
    rw [hrebound.rangeOf?_eq, hrebinds.rangeOf?_eq, hname, Function.update_idem]

/-- Every call is faithful where ids and names are distinct. -/
theorem isFaithful (job : Job) (hkeeps : Keeps service spreadsheet book)
    (hb : (book w.service).Sound) : job.IsFaithful service spreadsheet book w where
  sound := hb
  sound_after := job.sound_after hkeeps hb
  bound _ _ _ h := (rebinds_of_ok hkeeps hb h).2.bound
  readBack o tree w' h data hdata := by
    obtain ⟨hnames, hrebinds⟩ := rebinds_of_ok hkeeps hb h
    refine exists_findNamedRange? hkeeps hnames.bounded ?_ hdata
    rw [hrebinds.rangeOf?_eq, Function.update_self]
  others := by
    rcases job.after_eq_or_rebinds hkeeps hb with hsame | ⟨range, -, hrebinds⟩
    · rw [hsame]
    · exact hrebinds.others
  unchanged hconstants failure w' h :=
    (unchanged_or_rebinds hkeeps hb h).resolve_right fun hrebinds => hrebinds.1 hconstants
  failed failure w' h := by
    rcases unchanged_or_rebinds hkeeps hb h with hsame | ⟨hconstants, range, -, hrebinds⟩
    · exact .inl hsame
    · exact .inr ⟨hconstants, range, hrebinds⟩
  repeated _ _ _ h again := rangeOf?_after_again hkeeps hb h

end Job

/-! ## All calls -/

/-- The world after some calls, one after the other. -/
def worldAfter (service : Service σ) (spreadsheet : Json) (w : World σ) (jobs : List Job) :
    World σ :=
  jobs.foldl (fun w job => job.after service spreadsheet w) w

theorem sound_worldAfter (hkeeps : Keeps service spreadsheet book) (hb : (book w.service).Sound)
    (jobs : List Job) : (book (worldAfter service spreadsheet w jobs).service).Sound := by
  induction jobs generalizing w with
  | nil => exact hb
  | cons job jobs ih => exact ih (job.sound_after hkeeps hb)

/-- In every sequence of calls, whatever the earlier ones came to, the next call is faithful: it
binds its name or leaves the book alone. -/
theorem synchronize_isFaithful (hkeeps : Keeps service spreadsheet book)
    (hb : (book w.service).Sound) (done : List Job) (next : Job) :
    next.IsFaithful service spreadsheet book (worldAfter service spreadsheet w done) :=
  next.isFaithful hkeeps (sound_worldAfter hkeeps hb done)

/-- A book with one sheet and two named ranges on it. -/
def mailBook : Book where
  sheets := [⟨.int 5, .str "Mail"⟩]
  entries := [
    ⟨"7", "inbox", ⟨.int 5, ⟨.whole 1, none, by decide, by simp⟩,
      ⟨.whole 0, some (.whole 2), by decide, by decide⟩⟩⟩,
    ⟨"9", "outbox", ⟨.int 5, ⟨.whole 0, none, by decide, by simp⟩,
      ⟨.whole 4, some (.whole 5), by decide, by decide⟩⟩⟩]

/-- On the shelf, after a call for a sheet that is not there and one that replaces `inbox`, a call
that replaces it again succeeds, and the name is bound once. -/
theorem mail_isFaithful :
    ∃ o tree w',
      (Job.session ⟨"inbox", .str "Mail!A3:C", none, {}⟩ (.str "book")).run Shelf.service
        (worldAfter Shelf.service (.str "book") { service := mailBook }
          [⟨"inbox", .str "Post!A2:B", none, {}⟩, ⟨"inbox", .str "Mail!A2:B", none, {}⟩]) =
        (.ok (o, tree), w') ∧
      (w'.service.entries.filter (·.name = "inbox")).map (·.range) = [o.range] ∧
      w'.service.Sound := by
  have hfaithful := synchronize_isFaithful (Shelf.keeps (.str "book"))
    (w := { service := mailBook }) ⟨by decide, by decide, by decide⟩
    [⟨"inbox", .str "Post!A2:B", none, {}⟩, ⟨"inbox", .str "Mail!A2:B", none, {}⟩]
    ⟨"inbox", .str "Mail!A3:C", none, {}⟩
  obtain ⟨⟨o, tree⟩, w', hrun⟩ := Session.exists_run_of_isOk
    (Job.session ⟨"inbox", .str "Mail!A3:C", none, {}⟩ (.str "book")) Shelf.service
    (worldAfter Shelf.service (.str "book") { service := mailBook }
      [⟨"inbox", .str "Post!A2:B", none, {}⟩, ⟨"inbox", .str "Mail!A2:B", none, {}⟩])
    (by decide +kernel)
  refine ⟨o, tree, w', hrun, hfaithful.bound o tree w' hrun, ?_⟩
  have hsound := hfaithful.sound_after
  rwa [Job.after, hrun] at hsound

end SheetSchema.Sync
