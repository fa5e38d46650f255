import Mathlib
import SheetSchema.Code.Expression
import SheetSchema.Proofs.Code.Rendering
import SheetSchema.Proofs.Code.Selection
import SheetSchema.Proofs.Schema.Order

/-!
# What the name of the key stands for

The operations that look an entity up have a parameter of the name of the key, and an inner function
that compares the key of an entity with what this name stands for. Inner names hide outer ones, and
a function that declares a name twice is refused (`Template.resolve`, `Template.IsAccepted`).

The other names of these operations are fixed, while the key has whatever name a field can have. The
key of an entity is compared with what the caller looks for if and only if the key has none of the
fixed names (`Template.finds_iff`). The type of the parameter is fixed too: it is a string, whatever
the type of the key is. So an operation serves the schemas whose key has neither a name that it
binds nor another type (`exists_findsByKey_iff`).
-/

namespace SheetSchema.Code

/-! ## Scopes -/

/-- What a name stands for. -/
inductive Referent where
  /-- What the caller looks for. -/
  | argument
  /-- The entity that is looked at. -/
  | entity
  /-- Anything else. -/
  | other
deriving DecidableEq, Repr

namespace Template

/-- The template goes on with the arrow of a function. -/
def startsWithArrow : Template → Bool
  | .text s :: _ => " =>".toList.isPrefixOf s.toList
  | _ => false

/-- The names that a template binds, with whether it is the parameter of an inner function. -/
def bindings : Template → List (String × Bool)
  | [] => []
  | .binds name :: rest => (name, startsWithArrow rest) :: bindings rest
  | _ :: rest => bindings rest

/-- The parameters of inner functions. -/
def innerNames (t : Template) : List String := (t.bindings.filter (·.2)).map Prod.fst

/-- The parameters and the constants of the function itself, without the key. -/
def ownNames (t : Template) : List String := (t.bindings.filter (!·.2)).map Prod.fst

/-- The types of the parameters for the key. -/
def keyTypes (t : Template) : List String :=
  t.filterMap fun | .keyParameter type => some type | _ => none

variable {t : Template} {key name : String}

theorem bound_eq_map_bindings (t : Template) : t.bound = t.bindings.map Prod.fst := by
  induction t with
  | nil => rfl
  | cons p t ih => cases p <;> simpa [bound, bindings] using ih

theorem mem_bound_iff : name ∈ t.bound ↔ name ∈ t.innerNames ∨ name ∈ t.ownNames := by
  have hinner : name ∈ t.innerNames ↔ (name, true) ∈ t.bindings := by simp [innerNames]
  have hown : name ∈ t.ownNames ↔ (name, false) ∈ t.bindings := by simp [ownNames]
  rw [bound_eq_map_bindings, hinner, hown]
  simp [or_comm]

/-- The names that are known where the key of an entity is compared, the innermost level first. -/
def scope (t : Template) (key : String) : List (List (String × Referent)) :=
  [t.innerNames.map (·, .entity), (key, .argument) :: t.ownNames.map (·, .other)]

/-- What a name stands for: the innermost level that has it counts. -/
def resolve (t : Template) (key name : String) : Option Referent :=
  (t.scope key).findSome? (·.lookup name)

/-- No level declares a name twice. -/
def IsAccepted (t : Template) (key : String) : Prop :=
  ∀ level ∈ t.scope key, (level.map Prod.fst).Nodup

instance (t : Template) (key : String) : Decidable (t.IsAccepted key) :=
  inferInstanceAs (Decidable (∀ level ∈ t.scope key, (level.map Prod.fst).Nodup))

/-- A name in a level of one kind stands for that. -/
theorem lookup_map (names : List String) (r : Referent) (name : String) :
    (names.map (·, r)).lookup name = if name ∈ names then some r else none := by
  induction names with
  | nil => rfl
  | cons head names ih =>
    rw [List.map_cons, List.lookup_cons, ih]
    by_cases h : name = head
    · simp [h]
    · simp [h, beq_eq_false_iff_ne.mpr h]

/-- The name of the key stands for what the caller looks for, unless an inner function has a
parameter of this name. -/
theorem resolve_key (t : Template) (key : String) :
    t.resolve key key = some (if key ∈ t.innerNames then .entity else .argument) := by
  rw [resolve, scope, List.findSome?_cons, lookup_map]
  by_cases h : key ∈ t.innerNames <;> simp [h]

theorem isAccepted_iff (hinner : t.innerNames.Nodup) (hown : t.ownNames.Nodup) :
    t.IsAccepted key ↔ key ∉ t.ownNames := by
  have hmap : ∀ (names : List String) (r : Referent), (names.map (·, r)).map Prod.fst = names :=
    fun names r => by simp [Function.comp_def]
  simp only [IsAccepted, scope, List.forall_mem_cons, List.map_cons, hmap, List.nodup_cons]
  simp [hinner, hown]

/-! ## Looking up -/

/-- The entity that is found among those that were read: the first one whose key equals what the
name of the key stands for. A function that is refused finds nothing, and no key is an entity. -/
def find? {ε α : Type} [BEq α] (t : Template) (key : String) (keyOf : ε → α) (argument : α)
    (entities : List ε) : Option ε :=
  if t.IsAccepted key then
    entities.find? fun e =>
      match t.resolve key key with
      | some .argument => keyOf e == argument
      | _ => false
  else none

/-- The first entity is found whose key is the one that the caller looks for. -/
def Finds (t : Template) (key : String) : Prop :=
  ∀ {ε α : Type} [DecidableEq α] (keyOf : ε → α) (argument : α) (entities : List ε),
    t.find? key keyOf argument entities = entities.find? fun e => keyOf e == argument

/-- Entities are found by their keys if and only if the key has none of the names that are bound. -/
theorem finds_iff (hinner : t.innerNames.Nodup) (hown : t.ownNames.Nodup) :
    t.Finds key ↔ key ∉ t.bound := by
  rw [mem_bound_iff, not_or]
  constructor
  · intro h
    have hfound := h (fun _ : Unit => ()) () [()]
    by_cases haccepted : t.IsAccepted key
    · refine ⟨fun hmem => ?_, (isAccepted_iff hinner hown).mp haccepted⟩
      rw [find?, if_pos haccepted, resolve_key, if_pos hmem] at hfound
      cases hfound
    · rw [find?, if_neg haccepted] at hfound
      cases hfound
  · rintro ⟨hfree, hother⟩ ε α _ keyOf argument entities
    rw [find?, if_pos ((isAccepted_iff hinner hown).mpr hother), resolve_key, if_neg hfree]

end Template

/-! ## The operations that look entities up -/

/-- The ids of the operations that look an entity up. -/
def keyedIds : List String := ["getById", "update", "delete"]

/-- The pieces that an operation with a key starts with. -/
def keyedStart (name : String) : Template :=
  Template.functionStart name ++ [.text " = async (", .keyParameter "string"]

/-- The pieces that compare the key of an entity with what the name of the key stands for. -/
def comparison : Template := [.binds "item", " => item.", .key, " === ", .key]

/-- The template has a parameter for the key and compares with it. -/
structure IsKeyed (t : Template) (name : String) : Prop where
  start : keyedStart name <+: t
  comparison : comparison <:+: t
  keyTypes : t.keyTypes = ["string"]
  innerNames : t.innerNames.Nodup
  ownNames : t.ownNames.Nodup

theorem exists_isKeyed {id : String} (hid : id ∈ keyedIds) :
    ∃ op, Operation.find? id = some op ∧ IsKeyed op.template op.exportName := by
  have hkeyed : ∀ op ∈ Operation.catalog, op.id ∈ keyedIds →
      keyedStart op.exportName <+: op.template ∧ comparison <:+: op.template ∧
      op.template.keyTypes = ["string"] ∧ op.template.innerNames.Nodup ∧
      op.template.ownNames.Nodup := by decide +kernel
  have hknown : ∀ id ∈ keyedIds, (Operation.find? id).isSome = true := by decide +kernel
  obtain ⟨op, hop⟩ := Option.isSome_iff_exists.mp (hknown id hid)
  obtain ⟨hmem, rfl⟩ := Operation.of_find? hop
  obtain ⟨hstart, hcomparison, htypes, hinner, hown⟩ := hkeyed op hmem hid
  exact ⟨op, hop, hstart, hcomparison, htypes, hinner, hown⟩

/-- The code declares `name` with the key as parameter, and compares the key of an entity with what
its name stands for. -/
structure LooksUp (code : List Char) (name key : String) : Prop where
  start : ("\n    const " ++ name ++ " = async (" ++ key ++ ": string").toList <+: code
  comparison : ("item => item." ++ key ++ " === " ++ key).toList <:+: code

theorem keyField_eq {ctx : Context} {s : Schema} (h : ctx.schema? = some s) :
    ctx.keyField = s.naturalKey := by
  rw [Context.keyField, h]

theorem IsKeyed.looksUp {t : Template} {name code : String} {ctx : Context} (h : IsKeyed t name)
    (hcode : t.render ctx = .ok code) : LooksUp code.toList name ctx.keyField where
  start := by
    refine Template.isPrefix_render hcode h.start ?_
    rw [keyedStart, Template.render_append_eq_ok_iff]
    refine ⟨_, _, Template.render_functionStart name ctx, Template.render_cons_eq_ok_iff.mpr
      ⟨_, _, rfl, Template.render_singleton _ ctx, rfl⟩, ?_⟩
    simp [toString, String.append_assoc]
  comparison := by
    have hparameter : "item" ++ " => item." = "item => item." := by decide
    refine Template.isInfix_render hcode h.comparison ?_
    simp only [SheetSchema.Code.comparison, Template.render_cons_eq_ok_iff,
      Template.render_nil_eq_ok_iff]
    simp [Piece.render, String.append_assoc, append_append_of_eq hparameter]

/-- Entities are found by the key, and what the caller looks for is of its type. -/
structure FindsByKey (t : Template) (f : Field) : Prop where
  type : t.keyTypes = [f.codeType]
  found : t.Finds f.name

theorem codeType_eq_string_iff {f : Field} :
    f.codeType = "string" ↔ f.type = .string ∨ f.type = .date := by
  rw [Field.codeType]
  cases f.type <;> decide

theorem IsKeyed.findsByKey_iff {t : Template} {name : String} (h : IsKeyed t name) {f : Field} :
    FindsByKey t f ↔ f.name ∉ t.bound ∧ (f.type = .string ∨ f.type = .date) := by
  rw [← Template.finds_iff h.innerNames h.ownNames, ← codeType_eq_string_iff]
  constructor
  · rintro ⟨htype, hfound⟩
    rw [h.keyTypes] at htype
    exact ⟨hfound, (List.cons.inj htype).1.symm⟩
  · rintro ⟨hfound, htype⟩
    exact ⟨by rw [h.keyTypes, htype], hfound⟩

theorem exists_naturalKey {s : Schema} (hfields : s.fields ≠ []) :
    ∃ f, s.ordered.head? = some f ∧ s.naturalKey = f.name := by
  obtain ⟨f, rest, hordered⟩ := List.exists_cons_of_ne_nil (Schema.ordered_ne_nil hfields)
  exact ⟨f, by rw [hordered, List.head?_cons], by rw [Schema.naturalKey, hordered]⟩

/-- Each operation that looks an entity up has a string of the name of the key as parameter and
compares the key of an entity with what this name stands for. The right entity is found, and the
parameter has the type of the key, if and only if the operation binds no such name and the key is a
string or a date. -/
theorem exists_findsByKey_iff {s : Schema} (hfields : s.fields ≠ []) :
    ∃ f, s.ordered.head? = some f ∧ s.naturalKey = f.name ∧
      ∀ id ∈ keyedIds, ∃ op, Operation.find? id = some op ∧
        (∀ ctx code, ctx.schema? = some s → Operation.code ctx id = .ok code →
          LooksUp code.toList op.exportName f.name) ∧
        (FindsByKey op.template f ↔
          f.name ∉ op.template.bound ∧ (f.type = .string ∨ f.type = .date)) := by
  obtain ⟨f, hfirst, hkey⟩ := exists_naturalKey hfields
  refine ⟨f, hfirst, hkey, fun id hid => ?_⟩
  obtain ⟨op, hop, hkeyed⟩ := exists_isKeyed hid
  refine ⟨op, hop, fun ctx code hschema hcode => ?_, hkeyed.findsByKey_iff⟩
  rw [Operation.code, hop] at hcode
  rw [← hkey, ← keyField_eq hschema]
  exact hkeyed.looksUp hcode

-- The names that the three operations bind.
example : (keyedIds.filterMap Operation.find?).map (·.template.bound) =
    [["items", "item"],
     ["updates", "items", "index", "item", "rowNumber", "current", "updated", "values", "sheetName",
      "range"],
     ["items", "index", "item", "rowNumber", "sheetName", "range", "emptyValues"]] := by
  decide +kernel

/-- The schema has fields in one row, and no operation finds entities by its key. -/
def MissesKeys (s : Schema) : Prop :=
  s.fields ≠ [] ∧ s.validate = .ok () ∧ ∀ id ∈ keyedIds, ∃ op f,
    Operation.find? id = some op ∧ s.ordered.head? = some f ∧ ¬ FindsByKey op.template f

/-- Tasks are not found by a key that is called like the parameter of an inner function, nor by one
that is a number. -/
theorem missesKeys_tasks : MissesKeys .itemTasks ∧ MissesKeys .countedTasks := by
  have hcaptured : ∀ id ∈ keyedIds, ∀ op ∈ Operation.find? id,
      "item" ∈ op.template.bound := by decide +kernel
  constructor
  · have hfields : Schema.itemTasks.fields ≠ [] := by decide
    obtain ⟨f, hfirst, -, hall⟩ := exists_findsByKey_iff hfields
    obtain rfl : Schema.itemTasks.fields[0] = f := Option.some.inj hfirst
    refine ⟨hfields, by decide, fun id hid => ?_⟩
    obtain ⟨op, hop, -, hiff⟩ := hall id hid
    exact ⟨op, _, hop, hfirst, fun h => (hiff.mp h).1 (hcaptured id hid op hop)⟩
  · have hfields : Schema.countedTasks.fields ≠ [] := by decide
    obtain ⟨f, hfirst, -, hall⟩ := exists_findsByKey_iff hfields
    obtain rfl : Schema.countedTasks.fields[0] = f := Option.some.inj hfirst
    refine ⟨hfields, by decide, fun id hid => ?_⟩
    obtain ⟨op, hop, -, hiff⟩ := hall id hid
    exact ⟨op, _, hop, hfirst, fun h => absurd (hiff.mp h).2 (by decide)⟩

end SheetSchema.Code
