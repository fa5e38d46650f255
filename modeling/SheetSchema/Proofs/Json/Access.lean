import Mathlib
import SheetSchema.Json.Access
import SheetSchema.Json.Number
import SheetSchema.Proofs.Refusal

/-!
# Asking objects

What asking an object for an entry comes down to: looking its key up. The entries of two lists in a
row are those of the first, and of the second where the first has none (`Entries.get?_append`), and
an entry that is removed leaves the others (`Entries.get?_erase_of_ne`). Of several entries that are
put under one key the last counts (`Entries.get?_putAll_of_last`); entries of distinct keys stay as
they are (`Entries.putAll_of_nodup`). `Json.at?` follows keys through several objects.
-/

namespace SheetSchema

theorem Entries.get?_append {α : Type} (first second : Entries α) (key : String) :
    Entries.get? (first ++ second) key = (first.get? key).or (second.get? key) := by
  induction first with
  | nil => simp
  | cons e first ih =>
    obtain ⟨k, v⟩ := e
    rw [List.cons_append, get?_cons, get?_cons, ih]
    split <;> rfl

/-- A key that is removed has no value. -/
theorem Entries.get?_erase_self {α : Type} (entries : Entries α) (key : String) :
    (entries.erase key).get? key = none := by
  simp [erase, get?]

/-- Removing a key leaves the other ones. -/
theorem Entries.get?_erase_of_ne {α : Type} (entries : Entries α) {key other : String}
    (h : key ≠ other) : (entries.erase key).get? other = entries.get? other := by
  induction entries with
  | nil => rfl
  | cons e entries ih =>
    obtain ⟨k, v⟩ := e
    by_cases hk : k = key
    · have hother : k ≠ other := hk ▸ h
      rw [get?_cons, if_neg hother, ← ih]
      simp [erase, hk]
    · rw [get?_cons, ← ih, ← get?_cons]
      simp [erase, hk]

namespace Entries

variable {α : Type}

/-- A key that is not put keeps its value. -/
theorem get?_putAll_of_ne {more : Entries α} {key : String} (h : ∀ e ∈ more, e.1 ≠ key)
    (entries : Entries α) : (putAll entries more).get? key = entries.get? key := by
  induction more generalizing entries with
  | nil => rfl
  | cons e more ih =>
    rw [putAll, List.foldl_cons, ← putAll, ih (fun e' he' => h e' (List.mem_cons_of_mem e he')),
      get?_put_of_ne _ _ (h e List.mem_cons_self)]

/-- A key that has the same value in two lists still has after the same entries are put. -/
theorem get?_putAll_congr {entries others : Entries α} {key : String}
    (h : entries.get? key = others.get? key) (more : Entries α) :
    (putAll entries more).get? key = (putAll others more).get? key := by
  induction more generalizing entries others with
  | nil => exact h
  | cons e more ih =>
    obtain ⟨k, v⟩ := e
    rw [putAll, putAll, List.foldl_cons, List.foldl_cons, ← putAll, ← putAll]
    refine ih ?_
    by_cases hkey : k = key
    · rw [hkey, get?_put_self, get?_put_self]
    · rw [get?_put_of_ne _ _ hkey, get?_put_of_ne _ _ hkey, h]

theorem put_of_not_mem {entries : Entries α} {key : String} (h : key ∉ entries.keys) (value : α) :
    entries.put key value = entries ++ [(key, value)] := by
  induction entries with
  | nil => rfl
  | cons e entries ih =>
    obtain ⟨k, v⟩ := e
    simp only [keys, List.map_cons, List.mem_cons, not_or] at h
    rw [put, if_neg (Ne.symm h.1), ih h.2, List.cons_append]

theorem mem_put {entries : Entries α} {key : String} {value : α} {e : String × α}
    (h : e ∈ entries.put key value) : e ∈ entries ∨ e = (key, value) := by
  induction entries with
  | nil => exact .inr (List.mem_singleton.mp h)
  | cons e' entries ih =>
    obtain ⟨k, v⟩ := e'
    rw [put] at h
    split at h
    · next hk =>
      rcases List.mem_cons.mp h with rfl | h
      · exact .inr (by rw [hk])
      · exact .inl (List.mem_cons_of_mem _ h)
    · rcases List.mem_cons.mp h with rfl | h
      · exact .inl List.mem_cons_self
      · exact (ih h).imp (List.mem_cons_of_mem _) id

theorem putAll_concat (entries more : Entries α) (e : String × α) :
    putAll entries (more ++ [e]) = (putAll entries more).put e.1 e.2 := by
  rw [putAll, List.foldl_append]
  rfl

/-- Each key is there once, in the order of first mention. -/
theorem keys_putAll (more : Entries α) : (putAll [] more).keys = more.keys.eraseDups := by
  induction more using List.reverseRecOn with
  | nil => rfl
  | append_singleton more e ih =>
    rw [putAll_concat, keys_put, ih, keys, keys, List.map_append, List.eraseDups_append]
    by_cases h : e.1 ∈ more.map Prod.fst
    · simp [List.removeAll, h]
    · simp [List.removeAll, h, List.eraseDups_cons]

/-- Entries of new and distinct keys are put behind the others, in order. -/
theorem putAll_of_nodup {entries more : Entries α} (h : (keys (entries ++ more)).Nodup) :
    putAll entries more = entries ++ more := by
  induction more generalizing entries with
  | nil => exact (List.append_nil entries).symm
  | cons e more ih =>
    obtain ⟨k, v⟩ := e
    have hnew : k ∉ entries.keys := by
      rw [keys, List.map_append, List.nodup_append] at h
      exact fun hmem => h.2.2 k hmem k (by simp) rfl
    rw [List.append_cons] at h
    calc putAll entries ((k, v) :: more)
        = putAll (entries ++ [(k, v)]) more := congrArg (putAll · more) (put_of_not_mem hnew v)
      _ = entries ++ (k, v) :: more := by rw [ih h, ← List.append_cons]

/-- A key has the value that is put last. -/
theorem get?_putAll_of_last (entries before : Entries α) (key : String) (value : α)
    {after : Entries α} (h : ∀ e ∈ after, e.1 ≠ key) :
    (putAll entries (before ++ (key, value) :: after)).get? key = some value := by
  rw [putAll, List.foldl_append, List.foldl_cons, ← putAll, get?_putAll_of_ne h, get?_put_self]

end Entries

namespace Json

/-- The value that a path of keys leads to. -/
def at? : (path : List String) → Json → Option Json
  | [], value => some value
  | key :: path, .obj entries => (Entries.get? entries key).bind (at? path)
  | _ :: _, _ => none

theorem truthy_str_iff (text : String) : (str text).truthy = true ↔ text ≠ "" := by
  simp [truthy]

@[simp] theorem member_obj (entries : Entries Json) (key : String) :
    (Json.obj entries).member key = .ok (entries.get? key) := rfl

@[simp] theorem memberD_obj (entries : Entries Json) (key : String) (default : Json) :
    (Json.obj entries).memberD key default = .ok ((entries.get? key).getD default) := rfl

theorem entry_obj_of_get? {entries : Entries Json} {key : String} {value : Json}
    (h : entries.get? key = some value) : (Json.obj entries).entry key = .ok value := by
  rw [entry, h]

/-- A value is the same as a text exactly if it is that text. -/
theorem same_str (value : Json) (s : String) : value.same (.str s) = decide (value = .str s) := by
  cases value <;> simp [same, Number.ofJson?, beq_eq_decide]

end Json

end SheetSchema
