/-!
# Entries in order

A finite map whose keys keep the order of their first insertion: `Entries.put` gives a known key a
new value in its old place and appends an unknown one. JSON objects, debug facts, default values
and records are such maps.
-/

namespace SheetSchema

/-- Keys with their values, in order. -/
abbrev Entries (α : Type) := List (String × α)

namespace Entries

variable {α : Type}

/-- The value of `key`. -/
def get? (entries : Entries α) (key : String) : Option α :=
  (entries.find? (·.1 == key)).map (·.2)

/-- `key` has a value. -/
def has (entries : Entries α) (key : String) : Bool := (entries.get? key).isSome

/-- The keys in order. -/
def keys (entries : Entries α) : List String := entries.map (·.1)

/-- Give `key` a value, in its place if it has one and at the end otherwise. -/
def put : Entries α → String → α → Entries α
  | [], key, value => [(key, value)]
  | (k, v) :: rest, key, value =>
    if k = key then (k, value) :: rest else (k, v) :: put rest key value

/-- Remove `key`. -/
def erase (entries : Entries α) (key : String) : Entries α := entries.filter (·.1 != key)

/-- Put all of `more`, in order. -/
def putAll (entries more : Entries α) : Entries α :=
  more.foldl (fun acc (k, v) => acc.put k v) entries

@[simp] theorem get?_nil (key : String) : get? ([] : Entries α) key = none := rfl

theorem get?_cons (k : String) (v : α) (rest : Entries α) (key : String) :
    get? ((k, v) :: rest) key = if k = key then some v else get? rest key := by
  by_cases h : k = key <;> simp [get?, h]

/-- A key reads back the value put last. -/
theorem get?_put_self (entries : Entries α) (key : String) (value : α) :
    (entries.put key value).get? key = some value := by
  induction entries with
  | nil => simp [put, get?_cons]
  | cons e rest ih =>
    obtain ⟨k, v⟩ := e
    by_cases h : k = key <;> simp [put, get?_cons, h, ih]

/-- The other keys keep their values. -/
theorem get?_put_of_ne (entries : Entries α) {key other : String} (value : α) (hne : key ≠ other) :
    (entries.put key value).get? other = entries.get? other := by
  induction entries with
  | nil => simp [put, get?_cons, hne]
  | cons e rest ih =>
    obtain ⟨k, v⟩ := e
    by_cases h : k = key
    · subst h
      simp [put, get?_cons, hne]
    · simp [put, get?_cons, h, ih]

/-- Only an unknown key adds to the keys, at the end. -/
theorem keys_put (entries : Entries α) (key : String) (value : α) :
    (entries.put key value).keys =
      if key ∈ entries.keys then entries.keys else entries.keys ++ [key] := by
  induction entries with
  | nil => simp [put, keys]
  | cons e rest ih =>
    obtain ⟨k, v⟩ := e
    by_cases h : k = key
    · simp [put, keys, h]
    · have h' : key ≠ k := fun hk => h hk.symm
      simp only [keys] at ih
      simp only [put, h, ↓reduceIte, keys, List.map_cons, ih, List.mem_cons, h', false_or]
      split <;> simp [*]

end Entries

end SheetSchema
