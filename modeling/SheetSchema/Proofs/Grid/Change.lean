import Mathlib
import SheetSchema.Grid.Change
import SheetSchema.Grid.Metadata
import SheetSchema.Proofs.Grid.Range

/-!
# The two forms of a change

A change is written as a tagged object, which this library reads back (`Change.ofJson_toJson`), and
as a request, which is for the service to read. What a request asks for is told by its parts
(`Change.AskedBy`): the named range in it is read by the reader of named ranges and its region by
the reader of regions, so the two forms are tied to each other. A request asks for one change only
(`Change.leftUnique_askedBy`), and a batch asks for its changes one by one and in order
(`Change.exists_requests_askedBy`).
-/

namespace SheetSchema

/-- A named range is read with its name and its region, and without an id where none is given. -/
theorem NamedRange.ofJson_of_toJson (name : Json) (range : GridRange) :
    NamedRange.ofJson (.obj [("name", name), ("range", range.toJson)]) =
      .ok ⟨"", name, some range⟩ := by
  have hread : NamedRange.ofJson (.obj [("name", name), ("range", range.toJson)]) =
      (some <$> GridRange.ofJson range.toJson >>= fun range? => pure ⟨"", name, range?⟩) := rfl
  rw [hread, range.ofJson_toJson]
  rfl

namespace Change

/-! ## Tagged objects -/

/-- A change is read back as it was written. -/
theorem ofJson_toJson (c : Change) : ofJson c.toJson = .ok c := by
  cases c with
  | addNamedRange name range =>
    have hread : ofJson (addNamedRange name range).toJson =
        (GridRange.ofJson range.toJson >>= fun r => pure (addNamedRange name r)) := rfl
    rw [hread, range.ofJson_toJson]
    rfl
  | deleteNamedRange id => rfl
  | repeatCellFormat range format =>
    have hread : ofJson (repeatCellFormat range format).toJson =
        (GridRange.ofJson range.toJson >>= fun r => pure (repeatCellFormat r format)) := rfl
    rw [hread, range.ofJson_toJson]
    rfl

/-! ## Requests -/

/-- A request asks for the change: it says what kind of change it is, and its parts say the rest. -/
inductive AskedBy : Change → Json → Prop
  /-- The named range has the name and the region, and so has its entry for the region. -/
  | addNamedRange {request body entry region : Json} {n : NamedRange} {range : GridRange}
      (hrequest : request = .obj [("addNamedRange", body)])
      (hentry : body.at? ["namedRange"] = some entry) (hnamed : NamedRange.ofJson entry = .ok n)
      (hrange : n.range? = some range) (hregion : entry.at? ["range"] = some region)
      (hread : GridRange.ofJson region = .ok range) :
      AskedBy (.addNamedRange n.name range) request
  | deleteNamedRange {request body id : Json}
      (hrequest : request = .obj [("deleteNamedRange", body)])
      (hid : body.at? ["namedRangeId"] = some id) : AskedBy (.deleteNamedRange id) request
  /-- The format is the only field of the cells that is written. -/
  | repeatCellFormat {request body region format : Json} {range : GridRange}
      (hrequest : request = .obj [("repeatCell", body)])
      (hregion : body.at? ["range"] = some region) (hread : GridRange.ofJson region = .ok range)
      (hformat : body.at? ["cell", "userEnteredFormat"] = some format)
      (hfields : body.at? ["fields"] = some (.str "userEnteredFormat")) :
      AskedBy (.repeatCellFormat range format) request

/-- The request of a change asks for it. -/
theorem askedBy_toRequest (c : Change) : c.AskedBy c.toRequest := by
  cases c with
  | addNamedRange name range =>
    exact .addNamedRange rfl rfl (NamedRange.ofJson_of_toJson name range) rfl rfl
      range.ofJson_toJson
  | deleteNamedRange id => exact .deleteNamedRange rfl rfl
  | repeatCellFormat range format => exact .repeatCellFormat rfl rfl range.ofJson_toJson rfl rfl

/-- A request asks for one change only. -/
theorem leftUnique_askedBy : Relator.LeftUnique AskedBy := by
  intro c c' request h h'
  cases h with
  | addNamedRange hrequest hentry hnamed hrange _ _ =>
    cases h' with
    | addNamedRange hrequest' hentry' hnamed' hrange' _ _ =>
      obtain rfl : _ = _ := by simpa using hrequest.symm.trans hrequest'
      obtain rfl := Option.some.inj (hentry.symm.trans hentry')
      obtain rfl := Except.ok.inj (hnamed.symm.trans hnamed')
      obtain rfl := Option.some.inj (hrange.symm.trans hrange')
      rfl
    | _ hrequest' => exact absurd (hrequest.symm.trans hrequest') (by simp)
  | deleteNamedRange hrequest hid =>
    cases h' with
    | deleteNamedRange hrequest' hid' =>
      obtain rfl : _ = _ := by simpa using hrequest.symm.trans hrequest'
      obtain rfl := Option.some.inj (hid.symm.trans hid')
      rfl
    | _ hrequest' => exact absurd (hrequest.symm.trans hrequest') (by simp)
  | repeatCellFormat hrequest hregion hread hformat _ =>
    cases h' with
    | repeatCellFormat hrequest' hregion' hread' hformat' _ =>
      obtain rfl : _ = _ := by simpa using hrequest.symm.trans hrequest'
      obtain rfl := Option.some.inj (hregion.symm.trans hregion')
      obtain rfl := Except.ok.inj (hread.symm.trans hread')
      obtain rfl := Option.some.inj (hformat.symm.trans hformat')
      rfl
    | _ hrequest' => exact absurd (hrequest.symm.trans hrequest') (by simp)

theorem forall₂_askedBy_toRequest (changes : List Change) :
    List.Forall₂ AskedBy changes (changes.map toRequest) := by
  rw [List.forall₂_map_right_iff, List.forall₂_same]
  exact fun c _ => c.askedBy_toRequest

/-! ## The main result -/

/-- Changes are read back from their tagged objects. Their batch has one request for each of them,
in order, which asks for it: the named range and the regions in the requests are read as those of
the changes. So the requests tell the changes. -/
theorem exists_requests_askedBy (changes : List Change) :
    (changes.map toJson).mapM ofJson = .ok changes ∧
    ∃ asked, requests changes = .arr asked ∧ List.Forall₂ AskedBy changes asked ∧
      ∀ others, requests others = .arr asked → others = changes := by
  have hasked := forall₂_askedBy_toRequest changes
  refine ⟨mapM_map_eq_ok ofJson_toJson changes, _, rfl, hasked, fun others hothers => ?_⟩
  rw [requests, Json.arr.injEq] at hothers
  exact leftUnique_askedBy.forall₂ (hothers ▸ forall₂_askedBy_toRequest others) hasked

end Change

end SheetSchema
