import Mathlib
import SheetSchema.Proofs.Code.Clash
import SheetSchema.Proofs.Text.Case

/-!
# Names that are taken from names

The casings of a feature are taken from its name, and then again from each other: the operations of
a repository take them from the form with a capital, and the row mapper to rows takes the type of
its entities from the small form. This comes to the same (`FeatureName.IsCoherent`) unless the first
character of the name is lost in capitals or in small letters
(`FeatureName.isCoherent_ofString_iff`).

A name that is lost in capitals gives a repository whose operations call a mapper that is not
declared (`Code.Body.declaresMappers_iff`), and one that is lost in small letters gives a mapper for
a type that is not declared. `Code.isCoherent_iff_and_declaresMappers_iff` says both for every
feature.
-/

namespace SheetSchema

/-! ## Feature names -/

namespace FeatureName

variable {name : String}

/-- The type that the mapper to rows takes its entities to be of. -/
def entityType (n : FeatureName) : String := String.ofList (Text.capitalize n.camel.toList)

/-- The casings are those of the form with a capital, and this is the small form after a capital. -/
structure IsCoherent (n : FeatureName) : Prop where
  again : ofString n.pascal = n
  entityType : n.entityType = n.pascal

/-- The form with a capital has itself for its form with a capital. -/
@[simp] theorem pascal_ofString_pascal (name : String) :
    (ofString (ofString name).pascal).pascal = (ofString name).pascal := by
  simp [ofString]

/-- The form with a capital has the small form of the name unless the first character is lost. -/
theorem camel_ofString_pascal_iff :
    (ofString (ofString name).pascal).camel = (ofString name).camel ↔
      ∀ c ∈ name.toList.head?, ¬ Text.LosesSmall c := by
  simp only [ofString, String.toList_ofList, String.ofList_inj]
  exact Text.uncapitalize_capitalize_iff

theorem entityType_ofString_iff : (ofString name).entityType = (ofString name).pascal ↔
    ∀ c ∈ name.toList.head?, ¬ Text.LosesCapital c := by
  simp only [entityType, ofString, String.toList_ofList, String.ofList_inj]
  exact Text.capitalize_uncapitalize_iff

/-- The casings of a name are coherent if and only if its first character is lost neither in
capitals nor in small letters. -/
theorem isCoherent_ofString_iff : (ofString name).IsCoherent ↔
    ∀ c ∈ name.toList.head?, ¬ Text.LosesSmall c ∧ ¬ Text.LosesCapital c := by
  simp only [imp_and, forall_and]
  rw [← camel_ofString_pascal_iff, ← entityType_ofString_iff]
  constructor
  · exact fun h => ⟨congrArg camel h.again, h.entityType⟩
  · rintro ⟨hcamel, htype⟩
    refine ⟨?_, htype⟩
    rw [FeatureName.mk.injEq]
    exact ⟨pascal_ofString_pascal name, hcamel⟩

end FeatureName

namespace Code

/-! ## The mappers that operations call -/

/-- The name of a row mapper of a feature, for the pieces that stand for one. -/
def Piece.mapper? (n : FeatureName) : Piece → Option String
  | fromRow => some ("rowTo" ++ n.pascal)
  | toRow => some (n.camel ++ "ToRow")
  | _ => none

theorem Piece.render_of_mapper? {p : Piece} {ctx : Context} {name : String}
    (h : p.mapper? ctx.feature = some name) : p.render ctx = .ok name := by
  cases p with
  | fromRow =>
    obtain rfl := Option.some.inj h
    rfl
  | toRow =>
    obtain rfl := Option.some.inj h
    rfl
  | _ => cases h

/-- The names by which a template calls the row mappers of a feature. -/
def Template.mappers (t : Template) (n : FeatureName) : List String := t.filterMap (·.mapper? n)

/-- The names stand in the code. -/
theorem Template.isInfix_of_mem_mappers {t : Template} {ctx : Context} {code name : String}
    (hcode : t.render ctx = .ok code) (h : name ∈ t.mappers ctx.feature) :
    name.toList <:+: code.toList := by
  obtain ⟨p, hp, hname⟩ := List.mem_filterMap.mp h
  exact isInfix_render_of_mem hcode hp (Piece.render_of_mapper? hname)

/-- No character that is lost in capitals has a capital that starts with `R`. -/
theorem head?_upperChar_ne {c : Char} (h : Text.LosesSmall c) :
    (Text.upperChar c).head? ≠ some 'R' := by
  have hexpansions : ∀ e ∈ Text.upperExpansions, (e.2.map Char.ofNat).head? ≠ some 'R' := by
    decide +kernel
  have hrare : ∀ n ∈ Text.rareSmalls, (Text.upperChar (Char.ofNat n)).head? ≠ some 'R' := by
    decide +kernel
  rcases h with hexpanded | hmem
  · obtain ⟨e, he, -, himage⟩ := Text.exists_upperExpansion hexpanded
    exact himage ▸ hexpansions e he
  · exact Text.of_toNat_mem hmem hrare

/-- The two mappers of a feature share a name only if the feature starts with `R`. -/
theorem head?_of_toRow_eq_rowTo {feature : List Char}
    (h : Text.uncapitalize feature ++ "ToRow".toList = "rowTo".toList ++ feature) :
    feature.head? = some 'R' := by
  -- Besides the first character both sides have the same ones, but only the left has another `R`.
  cases feature with
  | nil => cases h
  | cons c rest =>
    have hcount := congrArg (List.count 'R') h
    simp only [Text.uncapitalize, List.count_append, List.count_cons] at hcount
    by_contra hne
    have hc : c ≠ 'R' := fun hc => hne (by rw [hc, List.head?_cons])
    have hright : List.count 'R' "rowTo".toList = 0 := by decide
    have hleft : List.count 'R' "ToRow".toList = 1 := by decide
    simp only [hright, hleft, beq_iff_eq, hc, if_false] at hcount
    omega

namespace Body

variable {b : Body} {name : String} {s : Schema} {rangeName : Json} {ids : List String}

/-- Every mapper that an operation calls is declared. The operations call the mappers of a feature
with the casings `n`. -/
def DeclaresMappers (b : Body) (n : FeatureName) : Prop :=
  ∀ op ∈ b.operations, ∀ mapper ∈ op.1.template.mappers n, mapper ∈ b.names

/-- The mapper to rows is declared under the name that it has for the form with a capital if and
only if the first character of the name is not lost. -/
theorem toRow_mem_names_iff (h : b.IsOf (.ofString name) s rangeName ids) :
    (FeatureName.ofString (FeatureName.ofString name).pascal).camel ++ "ToRow" ∈ b.names ↔
      ∀ c ∈ name.toList.head?, ¬ Text.LosesSmall c := by
  rw [← FeatureName.camel_ofString_pascal_iff, names_eq h, FeatureName.mappers, List.mem_append,
    List.mem_pair]
  constructor
  · rintro ((hfromRow | htoRow) | hexported)
    · rw [FeatureName.camel_ofString_pascal_iff]
      intro c hc hlost
      obtain ⟨rest, hname⟩ := List.head?_eq_some_iff.mp hc
      have hlists := congrArg String.toList hfromRow
      simp only [FeatureName.ofString, String.toList_append, String.toList_ofList] at hlists
      have hhead := head?_of_toRow_eq_rowTo hlists
      rw [hname, Text.capitalize, List.head?_append_of_ne_nil _ (Text.upperChar_ne_nil c)] at hhead
      exact head?_upperChar_ne hlost hhead
    · exact String.append_left_inj _ |>.mp htoRow
    · have hmapper : (FeatureName.ofString (FeatureName.ofString name).pascal).camel ++ "ToRow" ∈
          (FeatureName.ofString (FeatureName.ofString name).pascal).mappers :=
        List.mem_pair.mpr (.inr rfl)
      exact absurd rfl (mapper_ne_exported h hmapper hexported)
  · exact fun hcamel => .inl (.inr (by rw [hcamel]))

/-- Every mapper that an operation calls is declared if and only if the first character of the name
is not lost in capitals or no operation calls the mapper to rows. -/
theorem declaresMappers_iff (h : b.IsOf (.ofString name) s rangeName ids) :
    b.DeclaresMappers (.ofString (FeatureName.ofString name).pascal) ↔
      (∀ c ∈ name.toList.head?, ¬ Text.LosesSmall c) ∨
        ∀ op ∈ b.operations, Piece.toRow ∉ op.1.template := by
  rw [← toRow_mem_names_iff h]
  constructor
  · intro hdeclares
    by_contra hnot
    obtain ⟨hundeclared, hcalled⟩ := not_or.mp hnot
    push Not at hcalled
    obtain ⟨op, hop, htoRow⟩ := hcalled
    exact hundeclared (hdeclares op hop _ (List.mem_filterMap.mpr ⟨_, htoRow, rfl⟩))
  · intro hcases op hop mapper hmapper
    obtain ⟨p, hp, hpiece⟩ := List.mem_filterMap.mp hmapper
    cases p with
    | fromRow =>
      obtain rfl := Option.some.inj hpiece
      rw [FeatureName.pascal_ofString_pascal, names_eq h]
      exact List.mem_append_left _ (List.mem_pair.mpr (.inl rfl))
    | toRow =>
      obtain rfl := Option.some.inj hpiece
      exact hcases.resolve_right fun hnone => hnone op hop hp
    | _ => cases hpiece

/-- The mapper to rows is declared to take entities of this type. -/
def TakesType (b : Body) (n : FeatureName) (type : String) : Prop :=
  ∃ c ∈ b.constants, c.name = n.camel ++ "ToRow" ∧ ∃ first ∈ c.lines.head?,
    ("  const " ++ c.name ++ " = (" ++ n.camel ++ ": " ++ type ++ "): ").toList <+: first.toList

theorem takesType_entityType {names : FeatureName} (h : b.IsOf names s rangeName ids) :
    b.TakesType names names.entityType := by
  obtain ⟨fromRow, toRow, -, htoRow, hown⟩ := h.own
  obtain ⟨_, -, hcode⟩ := bind_eq_ok.mp htoRow
  have hmem : ⟨names.camel ++ "ToRow", [toRow, ""]⟩ ∈ b.own := by simp [hown, ownConstants]
  refine ⟨_, List.mem_append_left _ hmem, rfl, toRow, rfl, ?_⟩
  rw [← pure_eq_ok.mp hcode]
  exact isPrefix_typed_rowWriter names.camel _

end Body

/-! ## Features -/

/-- The casings of a name are coherent if and only if its first character is lost neither in
capitals nor in small letters. In every feature that is made with the name and a schema with fields,
the operations call the row mappers by the names of its form with a capital. These are declared if
and only if the first character is not lost in capitals, or no operation calls the mapper to rows.
And the type that this mapper is declared with is the one of the feature if and only if the first
character is not lost in small letters. -/
theorem isCoherent_iff_and_declaresMappers_iff (name : String) :
    ((FeatureName.ofString name).IsCoherent ↔
        ∀ c ∈ name.toList.head?, ¬ Text.LosesSmall c ∧ ¬ Text.LosesCapital c) ∧
      ∀ (operations given : Json) (s : Schema) (timestamp : String) (a : Artifacts),
        s.fields ≠ [] →
        Artifacts.scaffold (.str name) operations (some s) given timestamp = .ok a →
        a.names = .ofString name ∧ a.typeDefinition? = some (s.typeDefinition a.names.pascal) ∧
        ∃ b : Body, a.files = Artifacts.modules a.names b.text timestamp ∧
          b.IsOf a.names s a.rangeName a.operationIds ∧
          (∀ op ∈ b.operations, ∀ mapper ∈ op.1.template.mappers (.ofString a.names.pascal),
            mapper.toList <:+: op.2.toList) ∧
          (b.DeclaresMappers (.ofString a.names.pascal) ↔
            (∀ c ∈ name.toList.head?, ¬ Text.LosesSmall c) ∨
              ∀ op ∈ b.operations, Piece.toRow ∉ op.1.template) ∧
          b.TakesType a.names a.names.entityType ∧
          (a.names.entityType = a.names.pascal ↔
            ∀ c ∈ name.toList.head?, ¬ Text.LosesCapital c) := by
  refine ⟨FeatureName.isCoherent_ofString_iff, ?_⟩
  intro operations given s timestamp a hfields h
  obtain ⟨hnames, -, htype, -, b, hfiles, hb⟩ := Artifacts.of_scaffold hfields h
  have hcased : b.IsOf (.ofString name) s a.rangeName a.operationIds := hnames ▸ hb
  refine ⟨hnames, htype, b, hfiles, hb, ?_, ?_, Body.takesType_entityType hb, ?_⟩
  · exact fun op hop mapper hmapper => Template.isInfix_of_mem_mappers (hb.rendered op hop) hmapper
  · rw [hnames]
    exact Body.declaresMappers_iff hcased
  · rw [hnames]
    exact FeatureName.entityType_ofString_iff

/-- The sharp s has two capitals, so the operation `create` of the feature `ßeta` calls a mapper
that is not declared. The I with a dot is lost in small letters, so the mapper of the feature `İd`
is for another type than the one of the feature. -/
theorem not_declaresMappers_sharpS :
    (¬ (FeatureName.ofString "ßeta").IsCoherent ∧
      ∃ a, Artifacts.scaffold (.str "ßeta") (Operation.requestOf (some ["create"]))
          (some Schema.plainTasks) .null "" = .ok a ∧
        ∃ b : Body, a.files = Artifacts.modules a.names b.text "" ∧
          ¬ b.DeclaresMappers (.ofString a.names.pascal)) ∧
    ¬ (FeatureName.ofString "İd").IsCoherent ∧
      ∃ a, Artifacts.scaffold (.str "İd") (Operation.requestOf (some ["create"]))
          (some Schema.plainTasks) .null "" = .ok a ∧
        ∃ b : Body, a.files = Artifacts.modules a.names b.text "" ∧
          b.TakesType a.names a.names.entityType ∧ a.names.entityType ≠ a.names.pascal := by
  have hcreate : ∀ op ∈ Operation.catalog, op.id = "create" → Piece.toRow ∈ op.template := by
    decide +kernel
  have hsharp : ¬ ∀ c ∈ "ßeta".toList.head?, ¬ Text.LosesSmall c := fun h =>
    h 'ß' (by simp) (by decide)
  have hdotted : ¬ ∀ c ∈ "İd".toList.head?, ¬ Text.LosesCapital c := fun h =>
    h 'İ' (by simp) (by decide)
  obtain ⟨hsharpCoherent, hsharpBody⟩ := isCoherent_iff_and_declaresMappers_iff "ßeta"
  obtain ⟨hdottedCoherent, hdottedBody⟩ := isCoherent_iff_and_declaresMappers_iff "İd"
  refine ⟨⟨fun h => hsharp fun c hc => (hsharpCoherent.mp h c hc).1, ?sharp⟩,
    fun h => hdotted fun c hc => (hdottedCoherent.mp h c hc).2, ?dotted⟩
  case sharp =>
    have hscaffold : (Artifacts.scaffold (.str "ßeta") (Operation.requestOf (some ["create"]))
        (some Schema.plainTasks) .null "").map (·.operationIds) = .ok ["create"] := by
      decide +kernel
    obtain ⟨a, ha, hids⟩ := map_eq_ok.mp hscaffold
    obtain ⟨-, -, b, hfiles, hb, -, hdeclares, -⟩ := hsharpBody _ _ _ _ _ (by decide) ha
    refine ⟨a, ha, b, hfiles, fun hall => ?_⟩
    have hone : b.operations.map (·.1.id) = ["create"] := hb.ids.trans hids
    obtain ⟨op, hop, hid⟩ := List.mem_map.mp (hone ▸ List.mem_singleton_self "create")
    exact (hdeclares.mp hall).elim hsharp fun hnone =>
      hnone op hop (hcreate op.1 (hb.catalog op hop) hid)
  case dotted =>
    obtain ⟨a, ha⟩ := exists_of_isOk (x := Artifacts.scaffold (.str "İd")
      (Operation.requestOf (some ["create"])) (some Schema.plainTasks) .null "") (by decide +kernel)
    obtain ⟨-, -, b, hfiles, -, -, -, htakes, htype⟩ :=
      hdottedBody _ _ _ _ _ (by decide) ha
    exact ⟨a, ha, b, hfiles, htakes, fun heq => hdotted (htype.mp heq)⟩

end Code

end SheetSchema
