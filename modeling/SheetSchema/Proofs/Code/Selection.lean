import Mathlib
import SheetSchema.Code.Catalog
import SheetSchema.Proofs.Refusal

/-!
# Selections of operations

A selection is completed by the ids that its operations need (`Operation.mem_missing`), each once
(`Operation.nodup_missing`) and in front. What an operation needs does not need anything itself, so
one pass over the selection is enough: the result has all that its ids need
(`Operation.isClosed_complete`) and selects itself (`Operation.isSelection_resolve`). Unknown ids
need nothing and stay where they are.
-/

namespace SheetSchema.Code.Operation

variable {selected found needs ids : List String} {id need : String} {op : Operation}

/-! ## The catalog -/

theorem of_find? (h : find? id = some op) : op ∈ catalog ∧ op.id = id :=
  ⟨List.mem_of_find?_eq_some h, by simpa using List.find?_some h⟩

/-- No two operations of the catalog share an id. -/
theorem find?_of_mem_catalog (hop : op ∈ catalog) : find? op.id = some op := by
  have hdistinct : (catalog.map (·.id)).Nodup := by decide +kernel
  obtain ⟨found, hfound⟩ : ∃ found, find? op.id = some found :=
    Option.isSome_iff_exists.mp (List.find?_isSome.mpr ⟨op, hop, by simp⟩)
  obtain ⟨hmem, hid⟩ := of_find? hfound
  rw [hfound, List.inj_on_of_nodup_map hdistinct hmem hop hid]

/-! ## Missing ids -/

/-- The ids found so far, and those among `needs` that are neither selected nor found. -/
def addMissing (selected found needs : List String) : List String :=
  needs.foldl (fun m r => if r ∈ selected ∨ r ∈ m then m else m ++ [r]) found

theorem mem_addMissing :
    id ∈ addMissing selected found needs ↔ id ∈ found ∨ id ∉ selected ∧ id ∈ needs := by
  induction needs generalizing found with
  | nil => simp [addMissing]
  | cons r needs ih =>
    rw [addMissing, List.foldl_cons, ← addMissing, ih]
    by_cases hid : id = r
    · subst hid
      by_cases hselected : id ∈ selected <;> by_cases hfound : id ∈ found <;>
        simp [hselected, hfound]
    · by_cases hknown : r ∈ selected ∨ r ∈ found <;> simp [hknown, hid]

theorem nodup_addMissing (h : found.Nodup) : (addMissing selected found needs).Nodup := by
  induction needs generalizing found with
  | nil => exact h
  | cons r needs ih =>
    rw [addMissing, List.foldl_cons, ← addMissing]
    apply ih
    split
    · exact h
    · next hnew =>
      rw [← List.concat_eq_append]
      exact h.concat fun hmem => hnew (.inr hmem)

theorem mem_missingFrom : id ∈ missingFrom selected found ids ↔
    id ∈ found ∨ id ∉ selected ∧ ∃ other ∈ ids, id ∈ requiredBy other := by
  induction ids generalizing found with
  | nil => simp [missingFrom]
  | cons head ids ih =>
    rw [missingFrom, ← addMissing, ih, mem_addMissing, List.exists_mem_cons_iff, or_assoc,
      and_or_left]

theorem nodup_missingFrom (h : found.Nodup) : (missingFrom selected found ids).Nodup := by
  induction ids generalizing found with
  | nil => exact h
  | cons head ids ih =>
    rw [missingFrom, ← addMissing]
    exact ih (nodup_addMissing h)

/-- The missing ids are those that are needed and not selected. -/
theorem mem_missing :
    id ∈ missing selected ↔ id ∉ selected ∧ ∃ other ∈ selected, id ∈ requiredBy other := by
  simp [missing, mem_missingFrom]

/-- No missing id is added twice. -/
theorem nodup_missing : (missing selected).Nodup := nodup_missingFrom List.nodup_nil

/-! ## Closed selections -/

/-- The list has all that one of its ids needs. -/
def IsClosed (ids : List String) : Prop := ∀ id ∈ ids, ∀ need ∈ requiredBy id, need ∈ ids

instance (ids : List String) : Decidable (IsClosed ids) :=
  inferInstanceAs (Decidable (∀ id ∈ ids, ∀ need ∈ requiredBy id, need ∈ ids))

theorem missing_eq_nil_iff : missing ids = [] ↔ IsClosed ids := by
  rw [List.eq_nil_iff_forall_not_mem]
  constructor
  · intro h id hid need hneed
    by_contra hmem
    exact h need (mem_missing.mpr ⟨hmem, id, hid, hneed⟩)
  · intro h need hmissing
    obtain ⟨hmem, id, hid, hneed⟩ := mem_missing.mp hmissing
    exact hmem (h id hid need hneed)

theorem exists_requires (h : need ∈ requiredBy id) : ∃ op ∈ catalog, need ∈ op.requires := by
  rw [requiredBy] at h
  cases hop : find? id with
  | none =>
    rw [hop] at h
    cases h
  | some op =>
    rw [hop] at h
    exact ⟨op, (of_find? hop).1, h⟩

/-- What an operation needs does not need anything itself. -/
theorem requiredBy_of_mem_requiredBy (h : need ∈ requiredBy id) : requiredBy need = [] := by
  have hcatalog : ∀ op ∈ catalog, ∀ need ∈ op.requires, requiredBy need = [] := by decide +kernel
  obtain ⟨op, hop, hneed⟩ := exists_requires h
  exact hcatalog op hop need hneed

theorem ne_everything_of_mem_requiredBy (h : need ∈ requiredBy id) : need ≠ everything := by
  have hcatalog : ∀ op ∈ catalog, ∀ need ∈ op.requires, need ≠ everything := by decide +kernel
  obtain ⟨op, hop, hneed⟩ := exists_requires h
  exact hcatalog op hop need hneed

/-- A selection with what is missing in front has all that its ids need. -/
theorem isClosed_complete (selected : List String) : IsClosed (complete selected) := by
  intro id hid need hneed
  rcases List.mem_append.mp hid with hid | hid
  · obtain ⟨-, other, -, hother⟩ := mem_missing.mp hid
    rw [requiredBy_of_mem_requiredBy hother] at hneed
    cases hneed
  · by_cases hmem : need ∈ selected
    · exact List.mem_append_right _ hmem
    · exact List.mem_append_left _ (mem_missing.mpr ⟨hmem, id, hid, hneed⟩)

theorem isClosed_allIds : IsClosed allIds := by decide +kernel

/-- A closed selection selects itself. -/
theorem resolve_eq_self (hne : ids ≠ []) (hids : everything ∉ ids) (h : IsClosed ids) :
    resolve ids = ids := by
  rw [resolve, if_neg (by simp [hne, hids]), complete, missing_eq_nil_iff.mpr h, List.nil_append]

theorem resolve_eq_allIds (h : ids = [] ∨ everything ∈ ids) : resolve ids = allIds := by
  rw [resolve, if_pos (by simpa using h)]

theorem resolve_eq_complete (hne : ids ≠ []) (hids : everything ∉ ids) :
    resolve ids = complete ids := by
  rw [resolve, if_neg (by simp [hne, hids])]

/-- What is selected selects itself. -/
theorem resolve_resolve (ids : List String) : resolve (resolve ids) = resolve ids := by
  by_cases hall : ids = [] ∨ everything ∈ ids
  · rw [resolve_eq_allIds hall]
    exact resolve_eq_self (by decide) (by decide) isClosed_allIds
  · obtain ⟨hne, hids⟩ := not_or.mp hall
    rw [resolve_eq_complete hne hids]
    refine resolve_eq_self (by simp [complete, hne]) (fun hmem => ?_) (isClosed_complete ids)
    rcases List.mem_append.mp hmem with hmem | hmem
    · obtain ⟨-, other, -, hneed⟩ := mem_missing.mp hmem
      exact ne_everything_of_mem_requiredBy hneed rfl
    · exact hids hmem

/-! ## Selections as given -/

/-- A list of ids as it is given. -/
def listOf (ids : List String) : Json := .arr (ids.map .str)

/-- A request as it is given: a list of ids, or nothing. -/
def requestOf : Option (List String) → Json
  | some ids => listOf ids
  | none => .null

theorem idsAmong_map_str (ids : List String) : idsAmong (ids.map .str) = ids := by
  simp [idsAmong, List.filterMap_map]

theorem mentionsEverything_listOf (ids : List String) :
    mentionsEverything (listOf ids) = .ok (decide (everything ∈ ids)) := by
  have hmem : Json.str everything ∈ ids.map Json.str ↔ everything ∈ ids :=
    List.mem_map_of_injective fun _ _ h => Json.str.inj h
  have hcontains : (ids.map Json.str).contains (.str everything) = decide (everything ∈ ids) := by
    rw [List.contains_eq_mem, decide_eq_decide, hmem]
  exact congrArg Except.ok hcontains

theorem lookupKeys_listOf (ids : List String) : lookupKeys (listOf ids) = .ok (ids.map .str) := by
  have hkeys : (ids.map Json.str).all Json.isKey = true := by
    simp [Json.isKey]
  exact (if_pos hkeys : ite _ _ _ = _)

/-- A list selects what its ids select. -/
theorem resolveJson_listOf (ids : List String) :
    resolveJson (listOf ids) = .ok ((resolve ids).map .str) := by
  by_cases hall : ids = [] ∨ everything ∈ ids
  · rw [resolve_eq_allIds hall]
    rcases hall with rfl | hids
    · rfl
    · rw [resolveJson, mentionsEverything_listOf, decide_eq_true hids]
      split <;> rfl
  · obtain ⟨hne, hids⟩ := not_or.mp hall
    have htruthy : (!(listOf ids).truthy) = false := by simp [listOf, Json.truthy, hne]
    rw [resolveJson, htruthy, mentionsEverything_listOf, decide_eq_false hids,
      resolve_eq_complete hne hids, complete, List.map_append]
    simp only [lookupKeys_listOf, ok_bind, idsAmong_map_str]
    rfl

theorem resolveJson_requestOf (request : Option (List String)) :
    resolveJson (requestOf request) = .ok ((resolve (request.getD [])).map .str) := by
  cases request with
  | none => rfl
  | some ids => exact resolveJson_listOf ids

/-- The ids that a request selects. -/
structure IsSelection (requested resolved : List String) : Prop where
  /-- They have all that one of them needs. -/
  closed : IsClosed resolved
  /-- Nothing and everything select all ids. -/
  all : requested = [] ∨ everything ∈ requested → resolved = allIds
  /-- Anything else selects itself, with each id that it lacks and needs once in front. -/
  added : requested ≠ [] → everything ∉ requested → ∃ needed, resolved = needed ++ requested ∧
    needed.Nodup ∧
    ∀ id, id ∈ needed ↔ id ∉ requested ∧ ∃ other ∈ requested, id ∈ requiredBy other
  /-- They select themselves. -/
  fixed : resolveJson (listOf resolved) = .ok (resolved.map .str)

theorem isSelection_resolve (requested : List String) :
    IsSelection requested (resolve requested) where
  closed := by
    by_cases hall : requested = [] ∨ everything ∈ requested
    · rw [resolve_eq_allIds hall]
      exact isClosed_allIds
    · obtain ⟨hne, hids⟩ := not_or.mp hall
      rw [resolve_eq_complete hne hids]
      exact isClosed_complete requested
  all := resolve_eq_allIds
  added hne hids := ⟨missing requested, resolve_eq_complete hne hids, nodup_missing,
    fun _ => mem_missing⟩
  fixed := by rw [resolveJson_listOf, resolve_resolve]

end SheetSchema.Code.Operation
