import Mathlib
import SheetSchema.Proofs.Code.Body
import SheetSchema.Proofs.Schema.Order

/-!
# Names that a repository declares twice

A repository is a function, and what it declares shares one scope: the two row mappers, the guards,
the default values and the operations (`Code.Body`). A name that is declared twice there makes the
whole module invalid.

The ids that a request is completed by come once each, and so do those of the whole catalog, while
the ids of the request itself are taken as they are. So an operation is declared and exported as
often as it is asked for (`Operation.nodup_resolve_iff`). The row mappers are called `rowTo` before
the feature and `ToRow` after it, which is one name for some features (`FeatureName.mappers`), such
as `row`. Nothing else makes a name come twice (`Code.Body.nodup_names_iff`).
-/

namespace SheetSchema

/-- The names of the two row mappers. -/
def FeatureName.mappers (n : FeatureName) : List String := ["rowTo" ++ n.pascal, n.camel ++ "ToRow"]

namespace Code

/-! ## Requests -/

namespace Operation

/-- The request mentions no id twice, unless it selects everything. -/
def AsksOnce (requested : List String) : Prop :=
  requested = [] ∨ everything ∈ requested ∨ requested.Nodup

instance (requested : List String) : Decidable (AsksOnce requested) :=
  inferInstanceAs (Decidable (requested = [] ∨ everything ∈ requested ∨ requested.Nodup))

theorem nodup_complete_iff {selected : List String} :
    (complete selected).Nodup ↔ selected.Nodup := by
  rw [complete, List.nodup_append]
  refine ⟨fun h => h.2.1, fun h => ⟨nodup_missing, h, fun id hid other hother heq => ?_⟩⟩
  exact (mem_missing.mp hid).1 (heq ▸ hother)

/-- The ids that a request selects are distinct if and only if it asks for each of them once. -/
theorem nodup_resolve_iff {requested : List String} :
    (resolve requested).Nodup ↔ AsksOnce requested := by
  have hall : allIds.Nodup := by decide +kernel
  by_cases hevery : requested = [] ∨ everything ∈ requested
  · rw [resolve_eq_allIds hevery]
    exact iff_of_true hall (or_assoc.mp (.inl hevery))
  · obtain ⟨hne, hids⟩ := not_or.mp hevery
    rw [resolve_eq_complete hne hids, nodup_complete_iff, AsksOnce]
    simp [hne, hids]

/-- Operations are exported under distinct names if and only if their ids are distinct. -/
theorem nodup_exports_iff {operations : List Operation} (h : ∀ op ∈ operations, op ∈ catalog) :
    (ownExports ++ operations.map exportName).Nodup ↔ (operations.map (·.id)).Nodup := by
  have hids : (catalog.map (·.id)).Nodup := by decide +kernel
  have hnames : (catalog.map exportName).Nodup := by decide +kernel
  have hown : ∀ op ∈ catalog, op.exportName ∉ ownExports := by decide +kernel
  have hdistinct : (operations.map exportName).Nodup ↔ (operations.map (·.id)).Nodup := by
    constructor <;> refine fun hnodup => (hnodup.of_map _).map_on fun op hop other hother heq => ?_
    · exact List.inj_on_of_nodup_map hids (h op hop) (h other hother) heq
    · exact List.inj_on_of_nodup_map hnames (h op hop) (h other hother) heq
  rw [List.nodup_append, hdistinct]
  refine ⟨fun hall => hall.2.1, fun hnodup => ⟨by decide, hnodup, ?_⟩⟩
  intro name hname other hother
  obtain ⟨op, hop, rfl⟩ := List.mem_map.mp hother
  rintro rfl
  exact hown op (h op hop) hname

end Operation

/-! ## What a repository declares -/

namespace Template

/-- The local names that a template declares constants, each after the word for it. -/
def constants : Template → List String
  | .text s :: .binds name :: rest =>
    if "const ".toList.isSuffixOf s.toList then name :: constants rest else constants rest
  | _ :: rest => constants rest
  | [] => []

/-- No operation declares a name of its own twice. -/
theorem nodup_constants {op : Operation} (h : op ∈ Operation.catalog) :
    op.template.constants.Nodup := by
  have hcatalog : ∀ op ∈ Operation.catalog, op.template.constants.Nodup := by decide +kernel
  exact hcatalog op h

end Template

namespace Body

variable {b : Body} {names : FeatureName} {s : Schema} {rangeName : Json} {ids : List String}

theorem names_eq (h : b.IsOf names s rangeName ids) : b.names = names.mappers ++ b.exported := by
  obtain ⟨fromRow, toRow, -, -, hown⟩ := h.own
  have hnames : b.own.map (·.name) = names.mappers ++ ownExports := by
    rw [hown]
    rfl
  rw [Body.names, constants, List.map_append, hnames, List.map_map, List.append_assoc]
  rfl

/-- No mapper of any feature has a name that is exported. -/
theorem mapper_ne_exported (h : b.IsOf names s rangeName ids) {feature : FeatureName}
    {mapper name : String} (hmapper : mapper ∈ feature.mappers) (hname : name ∈ b.exported) :
    mapper ≠ name := by
  have hfree : ∀ name ∈ ownExports ++ Operation.catalog.map Operation.exportName,
      "rowTo".toList.isPrefixOf name.toList = false ∧
        "ToRow".toList.isSuffixOf name.toList = false := by decide +kernel
  have hmem : name ∈ ownExports ++ Operation.catalog.map Operation.exportName := by
    refine (List.mem_append.mp hname).elim (List.mem_append_left _) fun hname => ?_
    obtain ⟨op, hop, rfl⟩ := List.mem_map.mp hname
    exact List.mem_append_right _ (List.mem_map_of_mem (h.catalog op hop))
  obtain ⟨hbefore, hafter⟩ := hfree name hmem
  rintro rfl
  rcases List.mem_pair.mp hmapper with rfl | rfl
  · rw [String.toList_append, List.isPrefixOf_iff_prefix.mpr (List.prefix_append _ _)] at hbefore
    cases hbefore
  · rw [String.toList_append, List.isSuffixOf_iff_suffix.mpr (List.suffix_append _ _)] at hafter
    cases hafter

theorem nodup_exported_iff (h : b.IsOf names s rangeName ids) : b.exported.Nodup ↔ ids.Nodup := by
  have hexported : b.exported = ownExports ++ (b.operations.map Prod.fst).map
      Operation.exportName := by
    rw [exported, List.map_map]
    rfl
  rw [hexported, Operation.nodup_exports_iff (List.forall_mem_map.mpr h.catalog), List.map_map,
    ← h.ids]
  rfl

/-- A name is declared twice where the mappers share one or an operation is there twice, and nowhere
else. -/
theorem nodup_names_iff (h : b.IsOf names s rangeName ids) :
    b.names.Nodup ↔ names.mappers.Nodup ∧ ids.Nodup := by
  rw [names_eq h, List.nodup_append, nodup_exported_iff h]
  refine ⟨fun hall => ⟨hall.1, hall.2.1⟩, fun hall => ⟨hall.1, hall.2, ?_⟩⟩
  exact fun mapper hmapper name hname => mapper_ne_exported h hmapper hname

end Body

/-! ## Features -/

/-- The ids of a feature are distinct if and only if its request asks for each of them once. Its
repository is a body which exports distinct names in the same case, and which declares distinct
names if the row mappers have two names as well. The constants inside an operation are always
distinct. -/
theorem exists_body_nodup_iff {request : Option (List String)} {feature given : Json} {s : Schema}
    {timestamp : String} {a : Artifacts} (hfields : s.fields ≠ [])
    (h : Artifacts.scaffold feature (Operation.requestOf request) (some s) given timestamp =
      .ok a) :
    a.names = FeatureName.ofString feature.text ∧
      (a.operationIds.Nodup ↔ Operation.AsksOnce (request.getD [])) ∧
      ∃ b : Body, a.files = Artifacts.modules a.names b.text timestamp ∧
        b.IsOf a.names s a.rangeName a.operationIds ∧ (∀ c ∈ b.constants, c.IsDeclared) ∧
        (b.exported.Nodup ↔ Operation.AsksOnce (request.getD [])) ∧
        (b.names.Nodup ↔ a.names.mappers.Nodup ∧ Operation.AsksOnce (request.getD [])) ∧
        ∀ op ∈ b.operations, op.1.template.constants.Nodup := by
  obtain ⟨hnames, -, -, -, b, hfiles, hb⟩ := Artifacts.of_scaffold hfields h
  rw [← Operation.nodup_resolve_iff, ← Artifacts.operationIds_of_scaffold hfields h]
  exact ⟨hnames, Iff.rfl, b, hfiles, hb, Body.isDeclared_of_mem_constants hb,
    Body.nodup_exported_iff hb, Body.nodup_names_iff hb,
    fun op hop => Template.nodup_constants (hb.catalog op hop)⟩

/-- A request of the same operation twice is accepted, and `count` is declared twice. Asking for
everything declares no operation twice, but the row mappers of the feature `row` share one name. -/
theorem exists_names_not_nodup :
    (∃ a, Artifacts.scaffold (.str "task") (Operation.requestOf (some ["count", "count"]))
        (some Schema.plainTasks) .null "" = .ok a ∧ ¬ a.operationIds.Nodup ∧
      ∃ b : Body, a.files = Artifacts.modules a.names b.text "" ∧
        (∀ c ∈ b.constants, c.IsDeclared) ∧ ¬ b.exported.Nodup ∧ ¬ b.names.Nodup) ∧
    ∃ a, Artifacts.scaffold (.str "row") (Operation.requestOf none) (some Schema.plainTasks) .null
        "" = .ok a ∧ a.operationIds.Nodup ∧
      ∃ b : Body, a.files = Artifacts.modules a.names b.text "" ∧
        (∀ c ∈ b.constants, c.IsDeclared) ∧ b.exported.Nodup ∧ ¬ b.names.Nodup := by
  refine ⟨?twice, ?row⟩
  case twice =>
    obtain ⟨a, ha⟩ := exists_of_isOk (x := Artifacts.scaffold (.str "task")
      (Operation.requestOf (some ["count", "count"])) (some Schema.plainTasks) .null "")
      (by decide +kernel)
    have hasks : ¬ Operation.AsksOnce ["count", "count"] := by decide
    obtain ⟨-, hids, b, hfiles, -, hdeclared, hexported, hnames, -⟩ :=
      exists_body_nodup_iff (by decide) ha
    exact ⟨a, ha, fun hn => hasks (hids.mp hn), b, hfiles, hdeclared,
      fun hn => hasks (hexported.mp hn), fun hn => hasks (hnames.mp hn).2⟩
  case row =>
    obtain ⟨a, ha⟩ := exists_of_isOk (x := Artifacts.scaffold (.str "row")
      (Operation.requestOf none) (some Schema.plainTasks) .null "") (by decide +kernel)
    have hasks : Operation.AsksOnce [] := .inl rfl
    have hmappers : ¬ (FeatureName.ofString "row").mappers.Nodup := by decide +kernel
    obtain ⟨hrow, hids, b, hfiles, -, hdeclared, hexported, hnames, -⟩ :=
      exists_body_nodup_iff (by decide) ha
    refine ⟨a, ha, hids.mpr hasks, b, hfiles, hdeclared, hexported.mpr hasks,
      fun hn => hmappers ?_⟩
    rw [hrow] at hnames
    exact (hnames.mp hn).1

end Code

end SheetSchema
