import Mathlib
import SheetSchema.Sync.NamedRange
import SheetSchema.Proofs.Grid.Range
import SheetSchema.Proofs.Refusal

/-!
# The book behind a spreadsheet service

A `Book` is what a spreadsheet service keeps: the sheets and the named ranges, each with an id, a
name and a region. `Book.DescribedBy` says which answers describe a book; zeros and empty texts may
be left out of them. `Book.Edited` says what a batch of edits makes of a book: an edit deletes the
entry with an id, or adds an entry under an id that the service chooses. `Keeps` is the assumption
about a service: it describes its book as it is, and it applies a batch in order or not at all.

A description is read as the sheets of the book and its named ranges, one by one
(`Metadata.ofJson_of_describedBy`). A batch that replaces a name leaves a book in which that name is
bound once (`Book.Rebinds`), as long as ids and names are distinct (`Book.Sound`).
-/

namespace SheetSchema

/-! ## Descriptions -/

/-- An object describes a sheet. -/
def Sheet.DescribedBy (sheet : Sheet) (data : Json) : Prop :=
  ∃ outer properties : Entries Json, data = .obj outer ∧
    (outer.get? "properties").getD (.obj []) = .obj properties ∧
    (properties.get? "sheetId").getD (.int 0) = sheet.id ∧
    (properties.get? "title").getD (.str "") = sheet.title

theorem Sheet.ofJson_of_describedBy {sheet : Sheet} {data : Json} (h : sheet.DescribedBy data) :
    Sheet.ofJson data = .ok sheet := by
  obtain ⟨outer, properties, rfl, hproperties, hid, htitle⟩ := h
  have hread : ((outer.get? "properties").getD .null).orEmptyObject = .obj properties := by
    cases hfound : outer.get? "properties" with
    | none =>
      rw [hfound] at hproperties
      exact hproperties
    | some found =>
      rw [hfound] at hproperties
      obtain rfl : found = .obj properties := hproperties
      cases properties <;> rfl
  simp only [Sheet.ofJson, Json.member_obj, ok_bind, hread, Json.memberD_obj, hid, htitle]
  rfl

/-- The region has an end in one direction at least. -/
def GridRange.Bounded (r : GridRange) : Prop := r.rows.stop? ≠ none ∨ r.columns.stop? ≠ none

theorem GridRange.DescribedBy.ne_nil {r : GridRange} {region : Entries Json}
    (h : r.DescribedBy region) (hbounded : r.Bounded) : region ≠ [] := by
  rintro rfl
  have hnone : ∀ {stop? : Option Number}, Json.null = stopJson stop? → stop? = none :=
    fun hstop => (Except.ok.inj (stopOf_eq_ok_iff.mpr hstop)).symm
  rcases hbounded with hrows | hcolumns
  · exact hrows (hnone h.endRow)
  · exact hcolumns (hnone h.endColumn)

namespace Sync

/-- A named range as a service keeps it. -/
structure Entry where
  id : String
  name : String
  range : GridRange
deriving DecidableEq

/-- What a service keeps for a spreadsheet: the sheets in workbook order and the named ranges. -/
structure Book where
  sheets : List Sheet
  entries : List Entry
deriving DecidableEq

namespace Entry

/-- An object describes a named range. -/
def DescribedBy (e : Entry) (data : Json) : Prop :=
  ∃ outer region : Entries Json, data = .obj outer ∧
    (outer.get? "namedRangeId").getD (.str "") = .str e.id ∧
    (outer.get? "name").getD (.str "") = .str e.name ∧
    (outer.get? "range").getD (.obj []) = .obj region ∧ e.range.DescribedBy region

/-- A named range is read as the entry: with its id and its name, and with its region if that has an
end at all. The region that is all of the first sheet may be described by nothing. -/
structure ReadAs (e : Entry) (n : NamedRange) : Prop where
  id : n.id = e.id
  name : n.name = .str e.name
  range? : e.range.Bounded → n.range? = some e.range

theorem exists_readAs {e : Entry} {data : Json} (h : e.DescribedBy data) :
    ∃ n, NamedRange.ofJson data = .ok n ∧ e.ReadAs n := by
  obtain ⟨outer, region, rfl, hid, hname, hregion, hrange⟩ := h
  simp only [NamedRange.ofJson, Json.memberD_obj, ok_bind, hid, hname]
  set found := (outer.get? "range").getD .null with hfound
  have hcases : found = .obj region ∨ found = .null ∧ region = [] := by
    cases hget : outer.get? "range" with
    | none =>
      rw [hget] at hregion
      exact .inr ⟨by rw [hfound, hget]; rfl, (Json.obj.inj hregion).symm⟩
    | some value =>
      rw [hget] at hregion
      exact .inl (by rw [hfound, hget]; exact hregion)
  by_cases hnil : region = []
  · have hfalse : found.truthy = false := by
      rcases hcases with h | ⟨h, -⟩
      · rw [h, hnil]
        rfl
      · rw [h]
        rfl
    rw [hfalse]
    exact ⟨_, rfl, rfl, rfl, fun hbounded => absurd hnil (hrange.ne_nil hbounded)⟩
  · obtain hobj : found = .obj region := hcases.resolve_right fun h => hnil h.2
    have htrue : found.truthy = true := by
      rw [hobj]
      cases region with
      | nil => exact absurd rfl hnil
      | cons => rfl
    rw [htrue, hobj, GridRange.ofJson_obj_eq_ok_iff.mpr hrange]
    exact ⟨_, rfl, rfl, rfl, fun _ => rfl⟩

end Entry

namespace Book

/-- An answer of the service describes the book. -/
def DescribedBy (b : Book) (data : Json) : Prop :=
  ∃ (outer : Entries Json) (sheets entries : List Json), data = .obj outer ∧
    (outer.get? "sheets").getD (.arr []) = .arr sheets ∧
    (outer.get? "namedRanges").getD (.arr []) = .arr entries ∧
    List.Forall₂ Sheet.DescribedBy b.sheets sheets ∧
    List.Forall₂ Entry.DescribedBy b.entries entries

theorem elements_orEmptyList {found? : Option Json} {items : List Json}
    (h : found?.getD (.arr []) = .arr items) :
    (found?.getD .null).orEmptyList.elements = .ok items := by
  cases found? with
  | none =>
    obtain rfl : [] = items := Json.arr.inj h
    rfl
  | some found =>
    obtain rfl : found = .arr items := h
    cases items <;> rfl

/-- A description of a book is read as its sheets and its named ranges. -/
theorem exists_metadata {b : Book} {data : Json} (h : b.DescribedBy data) (spreadsheet : Json) :
    ∃ ranges, Metadata.ofJson spreadsheet data = .ok ⟨spreadsheet, b.sheets, ranges⟩ ∧
      List.Forall₂ Entry.ReadAs b.entries ranges := by
  obtain ⟨outer, sheets, entries, rfl, hsheets, hentries, hforSheets, hforEntries⟩ := h
  have hsheets' : sheets.mapM Sheet.ofJson = .ok b.sheets := by
    refine mapM_eq_ok_iff.mpr (hforSheets.flip.imp fun _ _ => Sheet.ofJson_of_describedBy)
  obtain ⟨ranges, hranges, hread⟩ :=
    exists_mapM_of_forall₂ (R := Entry.DescribedBy) (fun _ _ => Entry.exists_readAs) hforEntries
  refine ⟨ranges, ?_, hread⟩
  simp only [Metadata.ofJson, Json.memberD_obj, ok_bind, elements_orEmptyList hsheets,
    elements_orEmptyList hentries, hsheets', hranges]
  rfl

end Book

/-! ## Looking a name up -/

section

variable {entries : List Entry} {ranges : List NamedRange} {name : String}

/-- The first named range of a name is what the first entry of that name is read as. -/
theorem find?_rel_of_readAs (h : List.Forall₂ Entry.ReadAs entries ranges) (name : String) :
    Option.Rel Entry.ReadAs (entries.find? (·.name = name))
      (ranges.find? (·.name.same (.str name))) := by
  induction h with
  | nil => exact .none
  | @cons e n _ _ hread _ ih =>
    have hsame : n.name.same (.str name) = decide (e.name = name) := by
      simp [Json.same_str, hread.name]
    rw [List.find?_cons, List.find?_cons, hsame]
    by_cases hname : e.name = name
    · simpa [hname] using Option.Rel.some hread
    · simpa [hname] using ih

theorem find?_eq_none_of_readAs (h : List.Forall₂ Entry.ReadAs entries ranges)
    (hfind : entries.find? (·.name = name) = none) :
    ranges.find? (·.name.same (.str name)) = none := by
  have hrel := find?_rel_of_readAs h name
  rw [hfind] at hrel
  generalize ranges.find? (·.name.same (.str name)) = found at hrel ⊢
  cases hrel
  rfl

theorem exists_find?_of_readAs (h : List.Forall₂ Entry.ReadAs entries ranges) {e : Entry}
    (hfind : entries.find? (·.name = name) = some e) :
    ∃ n, ranges.find? (·.name.same (.str name)) = some n ∧ e.ReadAs n := by
  have hrel := find?_rel_of_readAs h name
  rw [hfind] at hrel
  generalize ranges.find? (·.name.same (.str name)) = found at hrel ⊢
  cases hrel with
  | some hread => exact ⟨_, rfl, hread⟩

end

/-! ## Edits -/

/-- A change to the named ranges of a book. -/
inductive Edit where
  | delete (id : String)
  | add (name : String) (range : GridRange)
deriving DecidableEq

/-- A request of a batch asks for an edit. -/
inductive Edit.AskedBy : Edit → Json → Prop
  | delete (id : String) :
    AskedBy (.delete id) (.obj [("deleteNamedRange", .obj [("namedRangeId", .str id)])])
  | add (name : String) (range : GridRange) (region : Entries Json) (h : range.DescribedBy region) :
    AskedBy (.add name range) (.obj [("addNamedRange",
      .obj [("namedRange", .obj [("name", .str name), ("range", .obj region)])])])

namespace Book

/-- The book without the entry of an id. -/
def without (b : Book) (id : String) : Book := { b with entries := b.entries.filter (·.id ≠ id) }

/-- The book with one more entry at the end. -/
def adding (b : Book) (e : Entry) : Book := { b with entries := b.entries ++ [e] }

/-- No entry has the id, and it is not empty. -/
def IsFresh (b : Book) (id : String) : Prop := id ≠ "" ∧ ∀ e ∈ b.entries, e.id ≠ id

/-- What edits make of a book, one after the other. The id of an entry that is added is any fresh
one. -/
inductive Edited : List Edit → Book → Book → Prop
  | nil (b : Book) : Edited [] b b
  | delete {b after : Book} {edits : List Edit} (id : String)
    (h : Edited edits (b.without id) after) : Edited (.delete id :: edits) b after
  | add {b after : Book} {edits : List Edit} (id : String) (name : String) (range : GridRange)
    (hfresh : b.IsFresh id) (h : Edited edits (b.adding ⟨id, name, range⟩) after) :
    Edited (.add name range :: edits) b after

/-- Ids are given and distinct, and names are distinct. -/
structure Sound (b : Book) : Prop where
  id_ne : ∀ e ∈ b.entries, e.id ≠ ""
  ids_nodup : (b.entries.map (·.id)).Nodup
  names_nodup : (b.entries.map (·.name)).Nodup

/-- The name is bound to the region by one new entry, and all else is as it was. -/
def Rebinds (name : String) (range : GridRange) (b after : Book) : Prop :=
  after.sheets = b.sheets ∧
    ∃ id, { b with entries := b.entries.filter (·.name ≠ name) }.IsFresh id ∧
      after.entries = b.entries.filter (·.name ≠ name) ++ [⟨id, name, range⟩]

/-- The region that a name is bound to. -/
def rangeOf? (b : Book) (name : String) : Option GridRange :=
  (b.entries.find? (·.name = name)).map (·.range)

variable {b after : Book} {name : String} {range : GridRange}

/-- Entries of a sound book with the same id are those with the same name. -/
theorem Sound.id_eq_iff (h : b.Sound) {e f : Entry} (he : e ∈ b.entries) (hf : f ∈ b.entries) :
    e.id = f.id ↔ e.name = f.name := by
  constructor
  · intro hid
    rw [List.inj_on_of_nodup_map h.ids_nodup he hf hid]
  · intro hname
    rw [List.inj_on_of_nodup_map h.names_nodup he hf hname]

namespace Rebinds

theorem sound (h : Rebinds name range b after) (hb : b.Sound) : after.Sound := by
  obtain ⟨-, id, ⟨hne, hfresh⟩, hafter⟩ := h
  have hkept : (b.entries.filter (·.name ≠ name)).Sublist b.entries := List.filter_sublist
  refine ⟨?_, ?_, ?_⟩
  · intro e he
    rw [hafter, List.mem_append, List.mem_singleton] at he
    rcases he with he | rfl
    · exact hb.id_ne e (hkept.subset he)
    · exact hne
  · rw [hafter, List.map_append, List.map_singleton, ← List.concat_eq_append, List.nodup_concat]
    refine ⟨?_, hb.ids_nodup.sublist (hkept.map _)⟩
    rw [List.mem_map]
    rintro ⟨e, he, hid⟩
    exact hfresh e he hid
  · rw [hafter, List.map_append, List.map_singleton, ← List.concat_eq_append, List.nodup_concat]
    refine ⟨?_, hb.names_nodup.sublist (hkept.map _)⟩
    rw [List.mem_map]
    rintro ⟨e, he, hname⟩
    exact of_decide_eq_true (List.mem_filter.mp he).2 hname

/-- The name is bound exactly once. -/
theorem bound (h : Rebinds name range b after) :
    (after.entries.filter (·.name = name)).map (·.range) = [range] := by
  obtain ⟨-, id, -, hafter⟩ := h
  have hkept : (b.entries.filter (·.name ≠ name)).filter (·.name = name) = [] := by
    simp [List.filter_filter]
  rw [hafter, List.filter_append, hkept]
  simp

/-- Every other name keeps its id and its region. -/
theorem others (h : Rebinds name range b after) :
    after.entries.filter (·.name ≠ name) = b.entries.filter (·.name ≠ name) := by
  obtain ⟨-, id, -, hafter⟩ := h
  rw [hafter, List.filter_append, List.filter_filter]
  simp

theorem rangeOf?_eq (h : Rebinds name range b after) :
    after.rangeOf? = Function.update b.rangeOf? name (some range) := by
  obtain ⟨-, id, -, hafter⟩ := h
  funext other
  rw [rangeOf?, hafter, List.find?_append, List.find?_filter, Function.update_apply]
  by_cases hother : other = name
  · subst hother
    rw [if_pos rfl, List.find?_eq_none.mpr (by simp)]
    simp
  · have hpred : (fun e : Entry => decide (decide (e.name ≠ name) = true ∧
        decide (e.name = other) = true)) = fun e => decide (e.name = other) := by
      funext e
      by_cases he : e.name = other
      · simp [he, hother]
      · simp [he]
    rw [if_neg hother, rangeOf?, hpred]
    simp [Ne.symm hother]

end Rebinds

/-! ## The batch that replaces a name -/

/-- The edits that a batch asks for. -/
def batchEdits (replaced? : Option String) (name : String) (range : GridRange) : List Edit :=
  (replaced?.map Edit.delete).toList ++ [.add name range]

theorem batch_askedBy (replaced? : Option String) (name : String) (range : GridRange) :
    List.Forall₂ Edit.AskedBy (batchEdits replaced? name range)
      ((batch replaced? (.str name) range).map Change.toRequest) := by
  obtain ⟨region, hregion, hdescribed⟩ := range.exists_toJson
  have hadd :
      Edit.AskedBy (.add name range) (Change.addNamedRange (.str name) range).toRequest := by
    rw [Change.toRequest, hregion]
    exact .add name range region hdescribed
  cases replaced? with
  | none => exact .cons hadd .nil
  | some id => exact .cons (.delete id) (.cons hadd .nil)

/-- Without the entry of a name, a sound book keeps the entries of the others. -/
theorem Sound.without_eq (h : b.Sound) {e : Entry} (he : e ∈ b.entries) :
    b.without e.id = { b with entries := b.entries.filter (·.name ≠ e.name) } := by
  rw [without, List.filter_congr]
  intro f hf
  rw [decide_eq_decide, ne_eq, ne_eq, h.id_eq_iff hf he]

/-- Replacing a name binds it anew, whether it was bound or not. -/
theorem rebinds_of_edited (hb : b.Sound)
    (h : Edited (batchEdits ((b.entries.find? (·.name = name)).map (·.id)) name range) b after) :
    Rebinds name range b after := by
  cases hfind : b.entries.find? (·.name = name) with
  | none =>
    rw [hfind] at h
    have hall : b.entries.filter (·.name ≠ name) = b.entries := by
      rw [List.filter_eq_self]
      simpa using hfind
    cases h with
    | add id _ _ hfresh h =>
      cases h
      refine ⟨rfl, id, ?_, ?_⟩
      · rwa [hall]
      · rw [hall]
        rfl
  | some e =>
    rw [hfind] at h
    have hmem : e ∈ b.entries := List.mem_of_find?_eq_some hfind
    have hname : e.name = name := by simpa using List.find?_some hfind
    cases h with
    | delete _ h =>
      rw [hb.without_eq hmem, hname] at h
      cases h with
      | add id _ _ hfresh h =>
        cases h
        exact ⟨rfl, id, hfresh, rfl⟩

end Book

/-! ## Services that keep a book -/

variable {σ : Type}

/-- A service keeps a book for the spreadsheet: where it describes the spreadsheet, it describes the
book as it is, and a batch of edits is applied in order or fails and changes nothing. Asking for a
description changes nothing, and may fail. -/
structure Keeps (service : Service σ) (spreadsheet : Json) (book : σ → Book) : Prop where
  describes : ∀ s data, (service s (.metadata spreadsheet)).1 = .ok data →
    (book s).DescribedBy data
  unchanged : ∀ s, book (service s (.metadata spreadsheet)).2 = book s
  applies : ∀ s requests edits, List.Forall₂ Edit.AskedBy edits requests →
    ∀ value, (service s (.batchUpdate spreadsheet (.arr requests))).1 = .ok value →
      Book.Edited edits (book s) (book (service s (.batchUpdate spreadsheet (.arr requests))).2)
  fails : ∀ s requests edits, List.Forall₂ Edit.AskedBy edits requests →
    (∀ value, (service s (.batchUpdate spreadsheet (.arr requests))).1 ≠ .ok value) →
      book (service s (.batchUpdate spreadsheet (.arr requests))).2 = book s

end Sync

end SheetSchema
