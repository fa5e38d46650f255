import Mathlib
import SheetSchema.Proofs.Code.Body
import SheetSchema.Proofs.Schema.Order
import SheetSchema.Proofs.Text.Ascii

/-!
# Repositories whose parts fit together

The parts of a repository are made separately: the row mappers from the schema, the operations from
the selected ids, and the list of what is exported from the ids once more. They name each other, so
they have to fit together (`Code.Body.FitTogether`).

What an operation calls is declared because the selection has all that its ids need
(`Code.Operation.IsClosed`). What is exported is declared because unknown ids are refused where code
is made for them and left out of the list. The row mappers are named after the feature, the callers
after its form with a capital. Both come to the same for a name that starts with a letter
(`FeatureName.ofString_pascal`). So every request gives a repository whose parts fit together
(`Code.exists_isSelection_fitTogether`).
-/

namespace SheetSchema

/-! ## Feature names -/

namespace FeatureName

/-- The name starts with a letter of ASCII. -/
def StartsWithLetter (name : String) : Prop := name.toList.head?.any Char.isAlpha = true

instance (name : String) : Decidable (StartsWithLetter name) :=
  inferInstanceAs (Decidable (name.toList.head?.any Char.isAlpha = true))

/-- A name that starts with a letter has the casings of its form with a capital. -/
theorem ofString_pascal {name : String} (h : StartsWithLetter name) :
    ofString (ofString name).pascal = ofString name := by
  rw [StartsWithLetter] at h
  cases hname : name.toList with
  | nil =>
    rw [hname] at h
    cases h
  | cons c rest =>
    have hc : c.isAlpha = true := by simpa [hname] using h
    have hupper : c.toUpper.isUpper = true := by simpa using hc
    have hlower : Text.lowerChar c.toUpper = Text.lowerChar c := by
      have halphanum : c.isAlphanum = true := by simp [Char.isAlphanum, hc]
      rw [Text.lowerChar_of_isUpper hupper, Text.lowerChar_of_isAlphanum halphanum,
        Char.toLower_toUpper_eq_toLower]
    simp only [ofString, hname, Text.capitalize, Text.uncapitalize, String.toList_ofList,
      Text.upperChar_of_isAlpha hc, List.singleton_append, Text.upperChar_of_isUpper hupper, hlower]

-- A first character with two capitals has another small form afterwards.
example : ofString (ofString "ßeta").pascal = ⟨"SSeta", "sSeta"⟩ ∧
    ofString "ßeta" = ⟨"SSeta", "ßeta"⟩ := by decide +kernel

end FeatureName

namespace Code

/-! ## Parts that fit together -/

/-- What an operation calls is something that it needs and that is exported under its id. -/
theorem requires_of_called {op : Operation} (hop : op ∈ Operation.catalog) {name : String}
    (hname : name ∈ op.template.called) : name ∈ Operation.requiredBy op.id ∧
      ∀ other ∈ Operation.catalog, other.id = name → other.exportName = name := by
  have hcatalog : ∀ op ∈ Operation.catalog, ∀ name ∈ op.template.called, name ∈ op.requires ∧
      ∀ other ∈ Operation.catalog, other.id = name → other.exportName = name := by decide +kernel
  rw [Operation.requiredBy, Operation.find?_of_mem_catalog hop]
  exact hcatalog op hop name hname

namespace Body

/-- The row mapper of this name is declared, as a function. -/
def HasMapper (b : Body) (name : String) : Prop :=
  ∃ c ∈ b.own, c.name = name ∧
    ∃ first ∈ c.lines.head?, ("  const " ++ name ++ " = (").toList <+: first.toList

/-- The parts of a body fit together: they name each other as they are declared. -/
structure FitTogether (b : Body) (ctx : Context) : Prop where
  rendered : ∀ op ∈ b.operations, op.1.template.render ctx = .ok op.2
  /-- The code of an operation declares the function that its template declares. -/
  declared : ∀ op ∈ b.operations, ∃ name, op.1.template.declared = [name] ∧
    ("\n    const " ++ name ++ " = async (").toList <+: op.2.toList
  /-- What is exported is declared. -/
  exported : ∀ name ∈ b.exported, name ∈ ownExports ∨
    ∃ op ∈ b.operations, op.1.template.declared = [name]
  /-- What is called is declared. -/
  called : ∀ op ∈ b.operations, ∀ name ∈ op.1.template.called,
    ∃ other ∈ b.operations, other.1.template.declared = [name]
  /-- The operations call the mapper from rows by the name that it has. -/
  fromRow : ∃ name, Piece.fromRow.render ctx = .ok name ∧ b.HasMapper name
  /-- The operations call the mapper to rows by the name that it has. -/
  toRow : ∃ name, Piece.toRow.render ctx = .ok name ∧ b.HasMapper name

/-- The parts of a repository of a selection that has all that its ids need fit together. -/
theorem IsOf.fitTogether {b : Body} {names : FeatureName} {s : Schema} {rangeName : Json}
    {ids : List String} (h : b.IsOf names s rangeName ids)
    (hnames : FeatureName.ofString names.pascal = names) (hclosed : Operation.IsClosed ids) :
    b.FitTogether ⟨names, some s, rangeName, []⟩ := by
  obtain ⟨fromRow, toRow, hfromRow, htoRow, hown⟩ := h.own
  have hfirst : ⟨"rowTo" ++ names.pascal, [fromRow, ""]⟩ ∈ b.own := by simp [hown, ownConstants]
  have hsecond : ⟨names.camel ++ "ToRow", [toRow, ""]⟩ ∈ b.own := by simp [hown, ownConstants]
  have hrendered := h.rendered
  rw [hnames] at hrendered
  exact {
    rendered := hrendered
    declared := fun op hop => ⟨_, (isFunction_of_mem_catalog (h.catalog op hop)).1,
      isPrefix_code (h.catalog op hop) (hrendered op hop)⟩
    exported := by
      intro name hname
      refine (List.mem_append.mp hname).imp_right fun hname => ?_
      obtain ⟨op, hop, rfl⟩ := List.mem_map.mp hname
      exact ⟨op, hop, (isFunction_of_mem_catalog (h.catalog op hop)).1⟩
    called := by
      intro op hop name hname
      obtain ⟨hneed, hexport⟩ := requires_of_called (h.catalog op hop) hname
      have hid : op.1.id ∈ ids := h.ids ▸ List.mem_map_of_mem hop
      obtain ⟨other, hother, rfl⟩ := List.mem_map.mp (h.ids ▸ hclosed op.1.id hid name hneed)
      refine ⟨other, hother, ?_⟩
      rw [(isFunction_of_mem_catalog (h.catalog other hother)).1,
        hexport other.1 (h.catalog other hother) rfl]
    fromRow := ⟨_, rfl, _, hfirst, rfl, fromRow, rfl, isPrefix_rowToObject hfromRow⟩
    toRow := ⟨_, rfl, _, hsecond, rfl, toRow, rfl, isPrefix_objectToRow htoRow⟩ }

end Body

/-! ## Requests -/

/-- Any request of operations selects a list that has all that its ids need, that ends with what was
asked for unless that was everything, and that selects itself. In every feature that is made with it
the parts of the repository fit together: what is exported is declared, what is called is declared,
and the row mappers are declared under the names that they are called by. -/
theorem exists_isSelection_fitTogether (request : Option (List String)) :
    ∃ ids, Operation.resolveJson (Operation.requestOf request) = .ok (ids.map .str) ∧
      Operation.IsSelection (request.getD []) ids ∧
      ∀ feature, FeatureName.StartsWithLetter feature → ∀ s : Schema, s.fields ≠ [] →
        ∀ rangeName timestamp a,
          Artifacts.scaffold (.str feature) (Operation.requestOf request) (some s) rangeName
            timestamp = .ok a →
          a.names = FeatureName.ofString feature ∧ a.operationIds = ids ∧
          ∃ b : Body, a.files = Artifacts.modules a.names b.text timestamp ∧
            b.IsOf a.names s a.rangeName ids ∧
            b.FitTogether ⟨a.names, some s, a.rangeName, []⟩ := by
  refine ⟨_, Operation.resolveJson_requestOf request, Operation.isSelection_resolve _, ?_⟩
  intro feature hletter s hfields rangeName timestamp a h
  obtain ⟨hnames, -, -, -, b, hfiles, hb⟩ := Artifacts.of_scaffold hfields h
  have hids := Artifacts.operationIds_of_scaffold hfields h
  have hpascal : FeatureName.ofString a.names.pascal = a.names := by
    rw [hnames]
    exact FeatureName.ofString_pascal hletter
  rw [hids] at hb
  exact ⟨hnames, hids, b, hfiles, hb,
    hb.fitTogether hpascal (Operation.isSelection_resolve (request.getD [])).closed⟩

/-- A request of an operation that calls another one. -/
def changeRequest : Option (List String) := some ["update", "count"]

/-- A feature is made with it, and `getAll` is declared in its repository. -/
theorem exists_fitTogether_update :
    ∃ a, Artifacts.scaffold (.str "task") (Operation.requestOf changeRequest)
        (some Schema.plainTasks) .null "" = .ok a ∧
      ∃ b : Body, a.files = Artifacts.modules a.names b.text "" ∧
        b.operations.map (·.1.id) = ["getAll", "update", "count"] ∧
        b.FitTogether ⟨a.names, some .plainTasks, a.rangeName, []⟩ := by
  obtain ⟨a, ha⟩ : ∃ a, Artifacts.scaffold (.str "task") (Operation.requestOf changeRequest)
      (some Schema.plainTasks) .null "" = .ok a := exists_of_isOk (by decide +kernel)
  obtain ⟨ids, hids, -, hall⟩ := exists_isSelection_fitTogether changeRequest
  have hselected : Operation.resolveJson (Operation.requestOf changeRequest) =
      .ok (["getAll", "update", "count"].map .str) := by decide +kernel
  obtain rfl : ids = ["getAll", "update", "count"] :=
    List.map_injective_iff.mpr (fun _ _ => Json.str.inj)
      (Except.ok.inj (hids.symm.trans hselected))
  obtain ⟨-, -, b, hfiles, hb, hfit⟩ := hall "task" (by decide) .plainTasks (by decide) .null "" a
    ha
  exact ⟨a, ha, b, hfiles, hb.ids, hfit⟩

end Code

end SheetSchema
