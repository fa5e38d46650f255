import Mathlib
import SheetSchema.Code.Mapper
import SheetSchema.Proofs.Schema.Order

/-!
# The slots of a row

A row of a schema has one slot for each column from the first to the last. `Schema.Places` says
which entry stands in which slot, and it is what all who read and write rows have to agree on. The
slots of generated code are counted on from one field to the next (`Schema.slotsFrom`), which takes
the offsets of the fields to ascend (`Schema.Ascends`). They do if no two fields share a column, and
then every field has its place (`Schema.places_slots`).
-/

namespace SheetSchema.Schema

variable {s : Schema} {lo hi : Int} {α β : Type}

/-- A row with one entry for each column from `lo` to `hi`: a field has its entry as far from the
start as its column is from `lo`, and a column without a field has the entry `gap`. -/
structure Places (s : Schema) (lo hi : Int) (entry : Field → α) (gap : α) (row : List α) :
    Prop where
  length : (row.length : Int) = hi - lo + 1
  field : ∀ f ∈ s.fields, row[(f.columnIndex - lo).toNat]? = some (entry f)
  gap : ∀ k < row.length, (∀ f ∈ s.fields, f.columnIndex ≠ lo + k) → row[k]? = some gap

theorem Places.map {entry : Field → α} {gap : α} {row : List α} (h : s.Places lo hi entry gap row)
    (g : α → β) : s.Places lo hi (fun f => g (entry f)) (g gap) (row.map g) where
  length := by rw [List.length_map, h.length]
  field f hf := by rw [List.getElem?_map, h.field f hf, Option.map_some]
  gap k hk hfree := by
    rw [List.length_map] at hk
    rw [List.getElem?_map, h.gap k hk hfree, Option.map_some]

/-! ## Offsets -/

theorem positioned_eq (h : s.columnSpan? = some (lo, hi)) :
    s.positioned = s.ordered.map fun f => (f.columnIndex - lo, f) := by
  obtain ⟨f, hfirst, rfl⟩ := exists_first h
  obtain ⟨rest, hordered⟩ := List.head?_eq_some_iff.mp hfirst
  rw [positioned, hordered]

theorem mem_positioned (h : s.columnSpan? = some (lo, hi)) {item : Int × Field} :
    item ∈ s.positioned ↔ item.2 ∈ s.fields ∧ item.1 = item.2.columnIndex - lo := by
  rw [positioned_eq h, List.mem_map]
  constructor
  · rintro ⟨f, hf, rfl⟩
    exact ⟨mem_ordered.mp hf, rfl⟩
  · rintro ⟨hf, hoffset⟩
    exact ⟨item.2, mem_ordered.mpr hf, Prod.ext hoffset.symm rfl⟩

theorem getLast?_positioned (h : s.columnSpan? = some (lo, hi)) :
    ∃ f, s.positioned.getLast? = some (hi - lo, f) := by
  obtain ⟨f, hlast, rfl⟩ := exists_last h
  exact ⟨f, by rw [positioned_eq h, List.getLast?_map, hlast, Option.map_some]⟩

/-- The column of a field lies in the span. -/
theorem columnIndex_bounds (h : s.columnSpan? = some (lo, hi)) {f : Field} (hf : f ∈ s.fields) :
    lo ≤ f.columnIndex ∧ f.columnIndex ≤ hi := by
  obtain ⟨hleast, hgreatest⟩ := columnSpan?_eq_some_iff.mp h
  have hmem := List.mem_map_of_mem (f := Field.columnIndex) hf
  exact ⟨hleast.2 hmem, hgreatest.2 hmem⟩

theorem offset_nonneg (h : s.columnSpan? = some (lo, hi)) {item : Int × Field}
    (hitem : item ∈ s.positioned) : 0 ≤ item.1 := by
  obtain ⟨hf, hoffset⟩ := (mem_positioned h).mp hitem
  rw [hoffset]
  exact Int.sub_nonneg_of_le (columnIndex_bounds h hf).1

/-- Without a column shared the offsets ascend strictly. -/
theorem pairwise_lt_positioned (hdistinct : s.HasDistinctColumns)
    (h : s.columnSpan? = some (lo, hi)) : s.positioned.Pairwise fun i j => i.1 < j.1 := by
  rw [positioned_eq h, List.pairwise_map]
  exact (pairwise_lt_ordered hdistinct).imp fun hlt => Int.sub_lt_sub_right hlt lo

/-! ## Counting on -/

/-- The offsets ascend from `next` on. -/
def Ascends : (next : Int) → List (Int × Field) → Prop
  | _, [] => True
  | next, (offset, _) :: rest => next ≤ offset ∧ Ascends (offset + 1) rest

theorem ascends_of_pairwise {next : Int} {items : List (Int × Field)}
    (hnext : ∀ item ∈ items, next ≤ item.1) (hlt : items.Pairwise fun i j => i.1 < j.1) :
    Ascends next items := by
  induction items generalizing next with
  | nil => trivial
  | cons item rest ih =>
    rw [List.pairwise_cons] at hlt
    exact ⟨hnext item List.mem_cons_self, ih hlt.1 hlt.2⟩

variable {next : Int} {items : List (Int × Field)}

theorem Ascends.le_of_mem (h : Ascends next items) {item : Int × Field} (hitem : item ∈ items) :
    next ≤ item.1 := by
  induction items generalizing next with
  | nil => cases hitem
  | cons head rest ih =>
    rcases List.mem_cons.mp hitem with rfl | hitem
    · exact h.1
    · have hle := ih h.2 hitem
      have hhead := h.1
      omega

/-- The slots up to the first field are empty, the next one is its own, and the others are counted
on from there. -/
theorem getElem?_slotsFrom_cons (next offset : Int) (f : Field) (rest : List (Int × Field)) :
    (∀ k < (offset - next).toNat, (slotsFrom next ((offset, f) :: rest))[k]? = some none) ∧
    (slotsFrom next ((offset, f) :: rest))[(offset - next).toNat]? = some (some f) ∧
    ∀ k, (slotsFrom next ((offset, f) :: rest))[(offset - next).toNat + 1 + k]? =
      (slotsFrom (offset + 1) rest)[k]? := by
  rw [slotsFrom]
  refine ⟨fun k hk => ?_, ?_, fun k => ?_⟩
  · rw [List.getElem?_append_left (by simpa using hk), List.getElem?_replicate_of_lt hk]
  · rw [List.getElem?_append_right (by simp), List.length_replicate, Nat.sub_self,
      List.getElem?_cons_zero]
  · rw [List.getElem?_append_right (by simp; omega), List.length_replicate,
      show (offset - next).toNat + 1 + k - (offset - next).toNat = k + 1 by omega,
      List.getElem?_cons_succ]

theorem length_slotsFrom_cons (next offset : Int) (f : Field) (rest : List (Int × Field)) :
    (slotsFrom next ((offset, f) :: rest)).length =
      (offset - next).toNat + 1 + (slotsFrom (offset + 1) rest).length := by
  rw [slotsFrom, List.length_append, List.length_replicate, List.length_cons]
  omega

/-- The slots stop with the last field. -/
theorem length_slotsFrom (h : Ascends next items) {last : Int × Field}
    (hlast : items.getLast? = some last) :
    ((slotsFrom next items).length : Int) = last.1 + 1 - next := by
  induction items generalizing next with
  | nil => cases hlast
  | cons head rest ih =>
    obtain ⟨offset, f⟩ := head
    obtain ⟨hle, hrest⟩ := h
    rw [length_slotsFrom_cons]
    cases rest with
    | nil =>
      obtain rfl : (offset, f) = last := by simpa using hlast
      simp [slotsFrom]
      omega
    | cons head rest =>
      rw [List.getLast?_cons_cons] at hlast
      have hlength := ih hrest hlast
      omega

theorem getElem?_slotsFrom_of_mem (h : Ascends next items) {item : Int × Field}
    (hitem : item ∈ items) :
    (slotsFrom next items)[(item.1 - next).toNat]? = some (some item.2) := by
  induction items generalizing next with
  | nil => cases hitem
  | cons head rest ih =>
    obtain ⟨offset, f⟩ := head
    obtain ⟨hle, hrest⟩ := h
    obtain ⟨-, hhere, hbeyond⟩ := getElem?_slotsFrom_cons next offset f rest
    rcases List.mem_cons.mp hitem with rfl | hitem
    · exact hhere
    · have hoffset := hrest.le_of_mem hitem
      have hindex : (item.1 - next).toNat =
          (offset - next).toNat + 1 + (item.1 - (offset + 1)).toNat := by omega
      rw [hindex, hbeyond, ih hrest hitem]

theorem getElem?_slotsFrom_of_free (h : Ascends next items) {k : Nat}
    (hk : k < (slotsFrom next items).length) (hfree : ∀ item ∈ items, item.1 ≠ next + k) :
    (slotsFrom next items)[k]? = some none := by
  induction items generalizing next k with
  | nil => simp [slotsFrom] at hk
  | cons head rest ih =>
    obtain ⟨offset, f⟩ := head
    obtain ⟨hle, hrest⟩ := h
    obtain ⟨hbefore, -, hbeyond⟩ := getElem?_slotsFrom_cons next offset f rest
    have hhead : offset ≠ next + k := hfree _ List.mem_cons_self
    rcases Nat.lt_or_ge k (offset - next).toNat with hlt | hge
    · exact hbefore k hlt
    · obtain ⟨j, rfl⟩ : ∃ j, k = (offset - next).toNat + 1 + j :=
        ⟨k - ((offset - next).toNat + 1), by omega⟩
      rw [length_slotsFrom_cons] at hk
      rw [hbeyond]
      refine ih hrest (by omega) fun item hitem => ?_
      have hne := hfree item (List.mem_cons_of_mem _ hitem)
      push_cast at hne
      omega

/-- Every field has its place among the slots. -/
theorem places_slots (hdistinct : s.HasDistinctColumns) (h : s.columnSpan? = some (lo, hi)) :
    s.Places lo hi some none s.slots := by
  have hasc : Ascends 0 s.positioned :=
    ascends_of_pairwise (fun _ => offset_nonneg h) (pairwise_lt_positioned hdistinct h)
  obtain ⟨last, hlast⟩ := getLast?_positioned h
  constructor
  · rw [slots, length_slotsFrom hasc hlast]
    omega
  · intro f hf
    have hitem : (f.columnIndex - lo, f) ∈ s.positioned := (mem_positioned h).mpr ⟨hf, rfl⟩
    simpa [slots] using getElem?_slotsFrom_of_mem hasc hitem
  · intro k hk hfree
    refine getElem?_slotsFrom_of_free hasc hk fun item hitem => ?_
    obtain ⟨hf, hoffset⟩ := (mem_positioned h).mp hitem
    have hne := hfree item.2 hf
    omega

end SheetSchema.Schema
