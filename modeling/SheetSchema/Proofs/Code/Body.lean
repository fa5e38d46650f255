import Mathlib
import SheetSchema.Code.Artifacts
import SheetSchema.Proofs.Code.Rendering
import SheetSchema.Proofs.Code.Selection

/-!
# The body of a repository

A repository module is a function, and all that it declares shares the scope of that function: the
two row mappers, the guards, the default values and the operations. `Code.Body` lists these
constants with their lines, behind the lines in front of the function and before the names that it
returns; `Code.Body.IsOf` says what they are for one feature. Every repository is such a body
(`Code.exists_body`), and each of its constants is declared where it stands
(`Code.Body.isDeclared_of_mem_constants`).

The mappers come from the schema, the operations from the selected ids. The code of an operation is
that of its template in the catalog (`Code.exists_operations`) and starts with the function that it
is exported as (`Code.isPrefix_code`).
-/

namespace SheetSchema.Code

/-! ## Operations -/

/-- Ids whose code is made are those of operations in the catalog. -/
theorem exists_operations {ctx : Context} {ids codes : List String}
    (h : ids.mapM (Operation.code ctx) = .ok codes) : ∃ operations : List (Operation × String),
      operations.map (·.1.id) = ids ∧ operations.map Prod.snd = codes ∧
      ∀ op ∈ operations, op.1 ∈ Operation.catalog ∧ op.1.template.render ctx = .ok op.2 := by
  rw [mapM_eq_ok_iff] at h
  induction h with
  | nil => exact ⟨[], rfl, rfl, by simp⟩
  | @cons id code ids codes hcode _ ih =>
    obtain ⟨operations, hids, hcodes, hall⟩ := ih
    rw [Operation.code] at hcode
    cases hop : Operation.find? id with
    | none =>
      rw [hop] at hcode
      cases hcode
    | some op =>
      rw [hop] at hcode
      obtain ⟨hmem, rfl⟩ := Operation.of_find? hop
      refine ⟨(op, code) :: operations, by simp [hids], by simp [hcodes], ?_⟩
      exact List.forall_mem_cons.mpr ⟨⟨hmem, hcode⟩, hall⟩

theorem exportNames_map_id {operations : List (Operation × String)}
    (h : ∀ op ∈ operations, op.1 ∈ Operation.catalog) :
    Operation.exportNames (operations.map (·.1.id)) = operations.map (·.1.exportName) := by
  rw [Operation.exportNames, List.filterMap_map]
  have hfound : operations.filterMap (Operation.find? ∘ (·.1.id)) = operations.map Prod.fst := by
    rw [← List.filterMap_eq_map]
    exact List.filterMap_congr fun op hop => Operation.find?_of_mem_catalog (h op hop)
  rw [hfound, List.map_map]
  rfl

/-- The piece is a text that goes on with an asynchronous function. -/
def Piece.opensFunction : Piece → Bool
  | text s => " = async (".toList.isPrefixOf s.toList
  | _ => false

/-- Every operation of the catalog declares the one function under whose name it is exported. -/
theorem isFunction_of_mem_catalog {op : Operation} (hop : op ∈ Operation.catalog) :
    op.template.declared = [op.exportName] ∧ ∃ s rest,
      op.template = Template.functionStart op.exportName ++ .text s :: rest ∧
      " = async (".toList <+: s.toList := by
  have hcatalog : ∀ op ∈ Operation.catalog, op.template.declared = [op.exportName] ∧
      Template.functionStart op.exportName <+: op.template ∧
      op.template[3]?.any Piece.opensFunction = true := by decide +kernel
  obtain ⟨hdeclared, ⟨rest, hrest⟩, hopen⟩ := hcatalog op hop
  refine ⟨hdeclared, ?_⟩
  obtain ⟨p, hp, hopen⟩ := (Option.any_eq_true _ _).mp hopen
  rw [← hrest] at hp ⊢
  obtain ⟨rest, rfl⟩ := List.head?_eq_some_iff.mp (List.head?_eq_getElem?.trans hp)
  cases p with
  | text s => exact ⟨s, rest, rfl, List.isPrefixOf_iff_prefix.mp hopen⟩
  | _ => cases hopen

/-- The code of an operation starts with the declaration of this function. -/
theorem isPrefix_code {op : Operation} (hop : op ∈ Operation.catalog) {ctx : Context}
    {code : String} (hcode : op.template.render ctx = .ok code) :
    ("\n    const " ++ op.exportName ++ " = async (").toList <+: code.toList := by
  obtain ⟨-, s, rest, htemplate, tail, htail⟩ := isFunction_of_mem_catalog hop
  rw [htemplate, Template.render_append_eq_ok_iff] at hcode
  obtain ⟨start, _, hstart, hrest, rfl⟩ := hcode
  obtain rfl := Except.ok.inj ((Template.render_functionStart _ ctx).symm.trans hstart)
  obtain ⟨_, more, htext, -, rfl⟩ := Template.render_cons_eq_ok_iff.mp hrest
  obtain rfl := Except.ok.inj htext
  refine ⟨tail ++ more.toList, ?_⟩
  simp only [String.toList_append, ← htail, List.append_assoc]

/-! ## Row mappers -/

theorem isPrefix_rowReader (feature : String) (lines : List String) :
    ("  const " ++ ("rowTo" ++ feature) ++ " = (").toList <+:
      (Schema.rowReader feature lines).toList := by
  have hname : "  const rowTo" = "  const " ++ "rowTo" := by decide
  have hopen : " = (row: string[]): " = " = (" ++ "row: string[]): " := by decide
  have hshape : Schema.rowReader feature lines = "  const rowTo" ++ feature ++
      " = (row: string[]): " ++ feature ++ " => (\x7b\n" ++ Schema.unlines lines ++
      "\n  \x7d);" := rfl
  rw [hshape, hname, hopen]
  simp only [String.toList_append, List.append_assoc, List.prefix_append_right_inj]
  exact List.prefix_append _ _

/-- The mapper to rows starts with its name, its parameter and the type of that. -/
theorem isPrefix_typed_rowWriter (entity : String) (entries : List String) :
    ("  const " ++ (entity ++ "ToRow") ++ " = (" ++ entity ++ ": " ++
      String.ofList (Text.capitalize entity.toList) ++ "): ").toList <+:
      (Schema.rowWriter entity entries).toList := by
  have hname : "ToRow = (" = "ToRow" ++ " = (" := by decide
  have hclose : "): (string | undefined)[] => [\n" = "): " ++ "(string | undefined)[] => [\n" := by
    decide
  have hshape : Schema.rowWriter entity entries = "  const " ++ entity ++ "ToRow = (" ++ entity ++
      ": " ++ String.ofList (Text.capitalize entity.toList) ++ "): (string | undefined)[] => [\n" ++
      Schema.unlines (entries.map fun entry => s!"    {entry},") ++ "\n  ];" := rfl
  rw [hshape, hname, hclose]
  simp only [String.toList_append, List.append_assoc, List.prefix_append_right_inj]
  exact List.prefix_append _ _

theorem isPrefix_rowWriter (entity : String) (entries : List String) :
    ("  const " ++ (entity ++ "ToRow") ++ " = (").toList <+:
      (Schema.rowWriter entity entries).toList := by
  refine List.IsPrefix.trans ?_ (isPrefix_typed_rowWriter entity entries)
  simp only [String.toList_append, List.append_assoc, List.prefix_append_right_inj]
  exact List.prefix_append _ _

theorem isPrefix_rowToObject {s : Schema} {feature code : String}
    (h : s.rowToObject feature = .ok code) :
    ("  const " ++ ("rowTo" ++ feature) ++ " = (").toList <+: code.toList := by
  obtain ⟨lines, -, hcode⟩ := bind_eq_ok.mp h
  rw [← pure_eq_ok.mp hcode]
  exact isPrefix_rowReader feature lines

theorem isPrefix_objectToRow {s : Schema} {entity code : String}
    (h : s.objectToRow entity = .ok code) :
    ("  const " ++ (entity ++ "ToRow") ++ " = (").toList <+: code.toList := by
  obtain ⟨_, -, hcode⟩ := bind_eq_ok.mp h
  rw [← pure_eq_ok.mp hcode]
  exact isPrefix_rowWriter entity _

/-! ## Lines -/

/-- The lines in front of a repository: a stamp, what is imported, and the maker of identifiers. -/
def headLines (names : FeatureName) (rangeName : Json) (timestamp : String) : List String :=
  [stamp timestamp, "import \x7b SheetsClient \x7d from '../../core/client';",
    s!"import \x7b {names.pascal} \x7d from '../../core/types';",
    s!"import \x7b {rangeName.text} \x7d from '../../core/constants';"] ++ uuidLines

/-- The guards of an entity. -/
def validateLines (feature : String) (s : Schema) : List String :=
  [s!"  const validate = (data: Partial<{feature}>): void => \x7b"] ++ unlessEmpty s.validation ++
    ["  \x7d;"]

/-- The default values of an entity. -/
def defaultsLines (feature : String) (s : Schema) : List String :=
  [s!"  const defaults = (): Partial<{feature}> => (\x7b"] ++
    unlessEmpty (renderDefaults (s.defaults [])) ++ ["  \x7d);"]

theorem intercalate_cons_ne_empty {separator head : String} (h : head ≠ "") (rest : List String) :
    String.intercalate separator (head :: rest) ≠ "" := by
  cases rest with
  | nil => rwa [String.intercalate_singleton]
  | cons next rest =>
    rw [String.intercalate_cons_cons]
    simp [h]

/-- The names of the operations are not empty, so they are listed as they are. -/
theorem exportLines_map_id {operations : List (Operation × String)}
    (h : ∀ op ∈ operations, op.1 ∈ Operation.catalog) :
    exportLines (operations.map (·.1.id)) = ["", "    return \x7b",
      "      " ++ String.intercalate ",\n      "
        (ownExports ++ operations.map (·.1.exportName)), "    \x7d;"] := by
  have hnames : ∀ op ∈ Operation.catalog, op.exportName ≠ "" := by decide +kernel
  rw [exportLines, Operation.exportsList, exportNames_map_id h]
  cases operations with
  | nil => rfl
  | cons op operations =>
    have hlist : String.intercalate ",\n      " ((op :: operations).map (·.1.exportName)) ≠ "" :=
      intercalate_cons_ne_empty (hnames op.1 (h op List.mem_cons_self)) _
    rw [unlessEmpty, if_neg hlist, String.intercalate_append_of_ne_nil (by decide) (by simp),
      String.intercalate_append_of_ne_nil (by decide) (by simp), String.intercalate_singleton]

/-- A repository has its two row mappers, then its guards and default values, then its operations,
then what it exports. -/
theorem exists_lines {names : FeatureName} {s : Schema} {rangeName : Json} {timestamp text : String}
    {ids : List String} (h : repository names s rangeName timestamp ids = .ok text) :
    ∃ fromRow toRow codes,
      s.rowToObject names.pascal = .ok fromRow ∧ s.objectToRow names.camel = .ok toRow ∧
      ids.mapM (Operation.code ⟨FeatureName.ofString names.pascal, some s, rangeName, []⟩) =
        .ok codes ∧
      text = moduleText (headLines names rangeName timestamp ++ [repositoryStart names] ++
        ([fromRow, "", toRow, ""] ++ validateLines names.pascal s ++ [""] ++
          defaultsLines names.pascal s) ++ codes ++ exportLines ids ++ ["\x7d;"]) := by
  unfold repository mapperLines at h
  simp only [bind_eq_ok, pure_eq_ok] at h
  obtain ⟨_, ⟨fromRow, hfromRow, toRow, htoRow, rfl⟩, codes, hcodes, rfl⟩ := h
  refine ⟨fromRow, toRow, codes, hfromRow, htoRow, hcodes, congrArg moduleText ?_⟩
  simp only [headLines, validateLines, defaultsLines, List.append_assoc, List.cons_append,
    List.nil_append]

/-! ## Constants -/

/-- The text starts, after blanks, with the words that declare the name a constant. -/
def DeclaresConstant (name text : String) : Prop :=
  ∃ indent rest, isBlankText indent = true ∧ text = indent ++ "const " ++ name ++ " = " ++ rest

theorem declaresConstant_of_isPrefix {indent word opening name text : String}
    (hindent : isBlankText indent = true) (hword : word = indent ++ "const ")
    (hopening : " = ".toList <+: opening.toList)
    (h : (word ++ name ++ opening).toList <+: text.toList) : DeclaresConstant name text := by
  obtain ⟨more, hmore⟩ := hopening
  obtain ⟨rest, hrest⟩ := h
  refine ⟨indent, String.ofList (more ++ rest), hindent, String.toList_injective ?_⟩
  rw [← hrest, hword]
  simp only [String.toList_append, ← hmore, String.toList_ofList, List.append_assoc]

/-- A constant that is declared in emitted code, with the lines of its declaration. -/
structure LocalConstant where
  name : String
  lines : List String

/-- The first of the lines declares the name. -/
def LocalConstant.IsDeclared (c : LocalConstant) : Prop :=
  ∃ first ∈ c.lines.head?, DeclaresConstant c.name first

/-- The mappers, the guards and the default values of a repository. -/
def ownConstants (names : FeatureName) (s : Schema) (fromRow toRow : String) : List LocalConstant :=
  [⟨"rowTo" ++ names.pascal, [fromRow, ""]⟩, ⟨names.camel ++ "ToRow", [toRow, ""]⟩,
    ⟨"validate", validateLines names.pascal s ++ [""]⟩, ⟨"defaults", defaultsLines names.pascal s⟩]

/-! ## Bodies -/

/-- A repository as the constants that share the scope of its function. -/
structure Body where
  /-- The lines in front of the function. -/
  head : List String
  /-- The line that opens the function. -/
  start : String
  /-- What every repository declares. -/
  own : List LocalConstant
  /-- The operations with their code. -/
  operations : List (Operation × String)

namespace Body

/-- What is declared in the scope of the function. -/
def constants (b : Body) : List LocalConstant :=
  b.own ++ b.operations.map fun op => ⟨op.1.exportName, [op.2]⟩

/-- The names that are declared in the scope of the function. -/
def names (b : Body) : List String := b.constants.map (·.name)

/-- The names that the function returns. -/
def exported (b : Body) : List String := ownExports ++ b.operations.map (·.1.exportName)

/-- The text of the repository. -/
def text (b : Body) : String :=
  moduleText (b.head ++ [b.start] ++ b.constants.flatMap (·.lines) ++ ["", "    return \x7b",
    "      " ++ String.intercalate ",\n      " b.exported, "    \x7d;", "\x7d;"])

/-- The body declares what every repository of the feature declares, and the operations with these
ids. -/
structure IsOf (b : Body) (names : FeatureName) (s : Schema) (rangeName : Json)
    (ids : List String) : Prop where
  head : ∃ timestamp, b.head = headLines names rangeName timestamp
  start : b.start = repositoryStart names
  own : ∃ fromRow toRow, s.rowToObject names.pascal = .ok fromRow ∧
    s.objectToRow names.camel = .ok toRow ∧ b.own = ownConstants names s fromRow toRow
  ids : b.operations.map (·.1.id) = ids
  catalog : ∀ op ∈ b.operations, op.1 ∈ Operation.catalog
  rendered : ∀ op ∈ b.operations,
    op.1.template.render ⟨FeatureName.ofString names.pascal, some s, rangeName, []⟩ = .ok op.2

variable {b : Body} {names : FeatureName} {s : Schema} {rangeName : Json} {ids : List String}

theorem isDeclared_of_mem_own (h : b.IsOf names s rangeName ids) :
    ∀ c ∈ b.own, c.IsDeclared := by
  have hindent : isBlankText "  " = true := by decide
  have hword : "  const " = "  " ++ "const " := by decide
  have hopening : " = ".toList <+: " = (".toList := by decide
  have hvalidate : "  const validate = (data: Partial<" =
      "  " ++ "const " ++ "validate" ++ " = " ++ "(data: Partial<" := by decide
  have hdefaults : "  const defaults = (): Partial<" =
      "  " ++ "const " ++ "defaults" ++ " = " ++ "(): Partial<" := by decide
  obtain ⟨fromRow, toRow, hfromRow, htoRow, hown⟩ := h.own
  simp only [hown, ownConstants, List.forall_mem_cons]
  refine ⟨⟨fromRow, rfl, ?fromRow⟩, ⟨toRow, rfl, ?toRow⟩,
    ⟨_, rfl, "  ", "(data: Partial<" ++ names.pascal ++ ">): void => \x7b", hindent, ?validate⟩,
    ⟨_, rfl, "  ", "(): Partial<" ++ names.pascal ++ "> => (\x7b", hindent, ?defaults⟩, by simp⟩
  case fromRow =>
    exact declaresConstant_of_isPrefix hindent hword hopening (isPrefix_rowToObject hfromRow)
  case toRow =>
    exact declaresConstant_of_isPrefix hindent hword hopening (isPrefix_objectToRow htoRow)
  case validate =>
    rw [← String.append_assoc, ← String.append_assoc, ← hvalidate]
    rfl
  case defaults =>
    rw [← String.append_assoc, ← String.append_assoc, ← hdefaults]
    rfl

/-- Each of the constants is declared where it stands. -/
theorem isDeclared_of_mem_constants (h : b.IsOf names s rangeName ids) :
    ∀ c ∈ b.constants, c.IsDeclared := by
  have hindent : isBlankText "\n    " = true := by decide
  have hword : "\n    const " = "\n    " ++ "const " := by decide
  have hopening : " = ".toList <+: " = async (".toList := by decide
  refine List.forall_mem_append.mpr ⟨isDeclared_of_mem_own h, List.forall_mem_map.mpr ?_⟩
  exact fun op hop => ⟨op.2, rfl, declaresConstant_of_isPrefix hindent hword hopening
    (isPrefix_code (h.catalog op hop) (h.rendered op hop))⟩

end Body

/-- A repository is the body of its mappers, its guards, its default values and its operations. -/
theorem exists_body {names : FeatureName} {s : Schema} {rangeName : Json} {timestamp text : String}
    {ids : List String} (h : repository names s rangeName timestamp ids = .ok text) :
    ∃ b : Body, b.text = text ∧ b.IsOf names s rangeName ids := by
  obtain ⟨fromRow, toRow, codes, hfromRow, htoRow, hcodes, rfl⟩ := exists_lines h
  obtain ⟨operations, rfl, rfl, hall⟩ := exists_operations hcodes
  have hcatalog : ∀ op ∈ operations, op.1 ∈ Operation.catalog := fun op hop => (hall op hop).1
  have hlines : operations.flatMap (fun op => [op.2]) = operations.map Prod.snd :=
    List.map_eq_flatMap.symm
  refine ⟨⟨headLines names rangeName timestamp, repositoryStart names,
      ownConstants names s fromRow toRow, operations⟩, ?_,
    { head := ⟨timestamp, rfl⟩
      start := rfl
      own := ⟨fromRow, toRow, hfromRow, htoRow, rfl⟩
      ids := rfl
      catalog := hcatalog
      rendered := fun op hop => (hall op hop).2 }⟩
  rw [Body.text, exportLines_map_id hcatalog]
  simp only [Body.constants, Body.exported, ownConstants, List.flatMap_map, List.flatMap_cons,
    hlines, List.append_assoc, List.cons_append, List.nil_append]

/-! ## Features -/

namespace Artifacts

/-- For a schema with fields the first module is the body of its repository, the constant is for its
data range, and the interface is the one of its entity. -/
theorem of_generate {feature : String} {ids : List String} {s : Schema} {given : Json}
    {timestamp : String} {a : Artifacts} (hfields : s.fields ≠ [])
    (h : generate feature ids (some s) given timestamp = .ok a) :
    a.names = FeatureName.ofString feature ∧ a.operationIds = ids ∧
      a.typeDefinition? = some (s.typeDefinition a.names.pascal) ∧
      (∃ range, s.dataRange true = .ok range ∧ a.dataRange? = some range) ∧
      ∃ b : Body,
        a.files = modules a.names b.text timestamp ∧ b.IsOf a.names s a.rangeName ids := by
  have hgiven : (some s).filter (fun s : Schema => !s.fields.isEmpty) = some s := by
    simpa [Option.filter] using hfields
  unfold generate at h
  rw [hgiven] at h
  simp only [bind_eq_ok, pure_eq_ok] at h
  obtain ⟨_, -, text, htext, range, hrange, _, rfl, rfl⟩ := h
  obtain ⟨b, rfl, hb⟩ := exists_body htext
  exact ⟨rfl, rfl, rfl, ⟨range, hrange, rfl⟩, b, rfl, hb⟩

/-- A feature is generated with the operations that are selected. -/
theorem of_scaffold {feature operations given : Json} {s : Schema} {timestamp : String}
    {a : Artifacts} (hfields : s.fields ≠ [])
    (h : scaffold feature operations (some s) given timestamp = .ok a) :
    a.names = FeatureName.ofString feature.text ∧
      (∃ items, Operation.resolveJson operations = .ok items ∧
        items.mapM idOf = .ok a.operationIds) ∧
      a.typeDefinition? = some (s.typeDefinition a.names.pascal) ∧
      (∃ range, s.dataRange true = .ok range ∧ a.dataRange? = some range) ∧
      ∃ b : Body, a.files = modules a.names b.text timestamp ∧
        b.IsOf a.names s a.rangeName a.operationIds := by
  unfold scaffold at h
  split at h
  · cases h
  · obtain ⟨items, hitems, h⟩ := bind_eq_ok.mp h
    obtain ⟨ids, hids, h⟩ := bind_eq_ok.mp h
    obtain ⟨hnames, rfl, hmade⟩ := of_generate hfields h
    exact ⟨hnames, ⟨items, hitems, hids⟩, hmade⟩

/-- The operations of a feature are those that its request selects. -/
theorem operationIds_of_scaffold {request : Option (List String)} {feature given : Json}
    {s : Schema} {timestamp : String} {a : Artifacts} (hfields : s.fields ≠ [])
    (h : scaffold feature (Operation.requestOf request) (some s) given timestamp = .ok a) :
    a.operationIds = Operation.resolve (request.getD []) := by
  obtain ⟨-, ⟨items, hitems, hids⟩, -⟩ := of_scaffold hfields h
  have hread : ∀ id, idOf (.str id) = .ok id := fun _ => rfl
  obtain rfl := Except.ok.inj ((Operation.resolveJson_requestOf request).symm.trans hitems)
  exact Except.ok.inj (hids.symm.trans (mapM_map_eq_ok hread _))

end Artifacts

end SheetSchema.Code
