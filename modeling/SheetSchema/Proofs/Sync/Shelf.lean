import Mathlib
import SheetSchema.Proofs.Sync.Book

/-!
# The shelf

`Shelf.service` is a spreadsheet service that does what a service is assumed to do and no more: its
state is the book. It describes the book in full, reads the requests of a batch and applies them in
order, and gives a new entry an id that is longer than any other (`Shelf.nextId`). It keeps its book
(`Shelf.keeps`), so the assumption about services can be met.
-/

namespace SheetSchema.Sync.Shelf

/-- The edit that a request asks for, if it is one. -/
def edit? : Json → Option Edit
  | .obj [("deleteNamedRange", .obj [("namedRangeId", .str id)])] => some (.delete id)
  | .obj [("addNamedRange",
      .obj [("namedRange", .obj [("name", .str name), ("range", region)])])] =>
    (GridRange.ofJson region).toOption.map (.add name)
  | _ => none

/-- A text longer than any id. -/
def nextId (b : Book) : String :=
  String.ofList (List.replicate ((b.entries.map (·.id.length)).sum + 1) '0')

/-- Apply an edit. -/
def edit (b : Book) : Edit → Book
  | .delete id => b.without id
  | .add name range => b.adding ⟨nextId b, name, range⟩

/-- Describe a sheet. -/
def describeSheet (sheet : Sheet) : Json :=
  .obj [("properties", .obj [("sheetId", sheet.id), ("title", sheet.title)])]

/-- Describe a named range. -/
def describeEntry (e : Entry) : Json :=
  .obj [("namedRangeId", .str e.id), ("name", .str e.name), ("range", e.range.toJson)]

/-- Describe a book. -/
def describe (b : Book) : Json :=
  .obj [("sheets", .arr (b.sheets.map describeSheet)),
    ("namedRanges", .arr (b.entries.map describeEntry))]

/-- A service whose state is the book: it describes the book, applies the edits of a batch one after
the other, and refuses everything else. -/
def service : Service Book
  | b, .metadata _ => (.ok (describe b), b)
  | b, .batchUpdate _ (.arr requests) =>
    match requests.mapM edit? with
    | some edits => (.ok (.obj []), edits.foldl edit b)
    | none => (.refused (.int 400) (.str "Invalid requests"), b)
  | b, _ => (.refused (.int 404) (.str "Not found"), b)

theorem edit?_of_askedBy {e : Edit} {request : Json} (h : e.AskedBy request) :
    edit? request = some e := by
  cases h with
  | delete id => rfl
  | add name range region h =>
    rw [edit?, GridRange.ofJson_obj_eq_ok_iff.mpr h]
    rfl

theorem mapM_edit?_of_askedBy {edits : List Edit} {requests : List Json}
    (h : List.Forall₂ Edit.AskedBy edits requests) : requests.mapM edit? = some edits := by
  induction h with
  | nil => rfl
  | cons hhead _ ih =>
    rw [List.mapM_cons, edit?_of_askedBy hhead, ih]
    rfl

theorem isFresh_nextId (b : Book) : b.IsFresh (nextId b) := by
  have hlength : (nextId b).length = (b.entries.map (·.id.length)).sum + 1 := by
    rw [nextId, String.length_ofList, List.length_replicate]
  constructor
  · intro hempty
    rw [hempty] at hlength
    simp at hlength
  · intro e he hid
    have := List.single_le_sum (l := b.entries.map (·.id.length)) (by simp) _
      (List.mem_map_of_mem he)
    rw [hid] at this
    omega

theorem edited_foldl (edits : List Edit) (b : Book) : Book.Edited edits b (edits.foldl edit b) := by
  induction edits generalizing b with
  | nil => exact .nil b
  | cons e edits ih =>
    cases e with
    | delete id => exact .delete id (ih _)
    | add name range => exact .add _ name range (isFresh_nextId b) (ih _)

theorem describedBy_describe (b : Book) : b.DescribedBy (describe b) := by
  refine ⟨_, _, _, rfl, rfl, rfl, ?_, ?_⟩
  · rw [List.forall₂_map_right_iff, List.forall₂_same]
    exact fun sheet _ => ⟨_, _, rfl, rfl, rfl, rfl⟩
  · rw [List.forall₂_map_right_iff, List.forall₂_same]
    intro e _
    obtain ⟨region, hregion, hdescribed⟩ := e.range.exists_toJson
    exact ⟨_, region, rfl, rfl, rfl, hregion, hdescribed⟩

theorem keeps (spreadsheet : Json) : Keeps service spreadsheet id where
  describes b data h := by
    obtain rfl : describe b = data := Reply.ok.inj h
    exact describedBy_describe b
  unchanged _ := rfl
  applies b requests edits h value _ := by
    simp only [service, mapM_edit?_of_askedBy h]
    exact edited_foldl edits b
  fails b requests edits h hne := by
    simp only [service, mapM_edit?_of_askedBy h] at hne
    exact absurd rfl (hne _)

end SheetSchema.Sync.Shelf
