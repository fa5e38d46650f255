import Mathlib
import SheetSchema.Header.Inference
import SheetSchema.Proofs.Schema.Field
import SheetSchema.Proofs.Text.Numeral

/-!
# The fields of some headers

Fields are made one header after the other (`fieldsFrom_cons_eq_ok_iff`). One induction over this
step gives each fact about all of them: there is a field for each header, they stand in consecutive
columns and in one row, and no two of them share a name, since a number that makes a name unique is
always found (`uniqueName_not_mem`).
-/

namespace SheetSchema.Header

/-! ## Unique names -/

theorem toList_numbered (base : String) (n : Nat) :
    (s!"{base}{n}").toList = base.toList ++ Text.digitsOf n := by
  have htext : s!"{base}{n}" = base ++ String.ofList (Text.digitsOf n) := rfl
  rw [htext, String.toList_append, String.toList_ofList]

theorem numbered_injective (base : String) : Function.Injective fun n : Nat => s!"{base}{n}" := by
  intro m n h
  have hdigits := congrArg String.toList h
  simp only [toList_numbered, List.append_cancel_left_eq] at hdigits
  have := congrArg (Text.numeralFrom? 0) hdigits
  simpa [Text.numeralFrom?_digitsOf] using this

/-- The search ends at the first number from `n` on that is free, or where it runs out of fuel. -/
theorem exists_firstFree_eq (taken : List String) (base : String) (fuel n : Nat) :
    ∃ m, firstFree taken base fuel n = s!"{base}{m}" ∧ n ≤ m ∧
      (∀ i, n ≤ i → i < m → s!"{base}{i}" ∈ taken) ∧ (m < n + fuel → s!"{base}{m}" ∉ taken) := by
  induction fuel generalizing n with
  | zero => exact ⟨n, rfl, le_rfl, fun i hn hi => by omega, fun hlt => by omega⟩
  | succ fuel ih =>
    unfold firstFree
    simp only
    split
    · next hmem =>
      obtain ⟨m, hm, hle, htaken, hfree⟩ := ih (n + 1)
      refine ⟨m, hm, by omega, fun i hn hi => ?_, fun hlt => hfree (by omega)⟩
      rcases hn.eq_or_lt with rfl | hlt
      · exact hmem
      · exact htaken i hlt hi
    · next hfree => exact ⟨n, rfl, le_rfl, fun i hn hi => by omega, fun _ => hfree⟩

/-- A search that ends at a name that is taken has met none that is free. -/
theorem mem_of_firstFree_mem {taken : List String} {base : String} {fuel n : Nat}
    (h : firstFree taken base fuel n ∈ taken) : ∀ i ≤ fuel, s!"{base}{n + i}" ∈ taken := by
  obtain ⟨m, hm, -, htaken, hfree⟩ := exists_firstFree_eq taken base fuel n
  rw [hm] at h
  have hend : n + fuel ≤ m := by
    by_contra hlt
    exact hfree (by omega) h
  intro i hi
  rcases (show n + i ≤ m by omega).eq_or_lt with rfl | hlt
  · exact h
  · exact htaken _ (by omega) hlt

/-- Some number is free, since there are more numbers to try than names that are taken. -/
theorem firstFree_not_mem (taken : List String) (base : String) (n : Nat) :
    firstFree taken base taken.length n ∉ taken := by
  intro h
  have htaken := mem_of_firstFree_mem h
  let tried := (List.range (taken.length + 1)).map fun i => s!"{base}{n + i}"
  have hnodup : tried.Nodup :=
    List.nodup_range.map ((numbered_injective base).comp (add_right_injective n))
  have hsubset : tried ⊆ taken := by
    intro name hname
    obtain ⟨i, hi, rfl⟩ := List.mem_map.mp hname
    exact htaken i (by have := List.mem_range.mp hi; omega)
  have hlength := (List.subperm_of_subset hnodup hsubset).length_le
  simp only [tried, List.length_map, List.length_range] at hlength
  omega

/-- A unique name is not taken. -/
theorem uniqueName_not_mem (taken : List String) (base : String) :
    uniqueName taken base ∉ taken := by
  unfold uniqueName
  split
  · exact firstFree_not_mem taken base 2
  · next h => exact h

/-! ## One field after the other -/

theorem columnAt_int {c : Int} (hc : 0 ≤ c) (position : Nat) :
    columnAt (.int c) position = .ok (Column.letters (c + position).toNat) := by
  have hlt : ((Number.whole c).plus position).lt (.whole 0) = false := by
    simp only [Number.plus, Number.lt_whole, decide_eq_false_iff_not]
    omega
  rw [columnAt, Number.ofJson?]
  simp only [Column.lettersOfNumber, hlt, Bool.false_eq_true, if_false]
  rfl

variable {start : Int} {row lang : Json} {position : Nat} {taken : List String}
  {items : List (Json × Json)} {fields : List Field}

/-- The field of a header and those of the headers after it. -/
theorem fieldsFrom_cons_eq_ok_iff (hstart : 0 ≤ start) {text header : Json} :
    fieldsFrom (.int start) row lang position taken ((text, header) :: items) = .ok fields ↔
      ∃ base f more, baseName position text header = .ok base ∧ f.name = uniqueName taken base ∧
        f.type = .string ∧ f.column = Column.letters (start + position).toNat ∧
        HeaderRow.ofJson? row = some f.row ∧ f.required = false ∧ f.format = .null ∧
        f.description = sourceOf lang header ∧
        fieldsFrom (.int start) row lang (position + 1) (f.name :: taken) items = .ok more ∧
        fields = f :: more := by
  have hcolumn :=
    Field.upper_trim_of_isCapitals (Column.isCapitals_letters (start + position).toNat)
  simp only [fieldsFrom, bind_eq_ok, pure_eq_ok, columnAt_int hstart, Except.ok.injEq,
    Field.ofValues_eq_ok_iff, Json.str.injEq, Field.ofJson?_name, Option.some.injEq]
  constructor
  · rintro ⟨base, hbase, _, rfl, f, ⟨hname, htype, ⟨_, rfl, hletters⟩, hrow, hrequired, hformat,
      hdescription⟩, more, hmore, rfl⟩
    rw [hcolumn] at hletters
    exact ⟨base, f, more, hbase, hname.symm, htype.symm, (String.toList_injective hletters).symm,
      hrow, hrequired, hformat, hdescription, hname ▸ hmore, rfl⟩
  · rintro ⟨base, f, more, hbase, hname, htype, hletters, hrow, hrequired, hformat, hdescription,
      hmore, rfl⟩
    exact ⟨base, hbase, _, rfl, f, ⟨hname.symm, htype.symm, ⟨_, rfl, by rw [hcolumn, hletters]⟩,
      hrow, hrequired, hformat, hdescription⟩, more, hname ▸ hmore, rfl⟩

/-! ## All fields -/

/-- The fields of headers stand in consecutive columns, one for each header. -/
theorem columns_fieldsFrom (hstart : 0 ≤ start)
    (h : fieldsFrom (.int start) row lang position taken items = .ok fields) :
    fields.map Field.columnIndex =
      (List.range items.length).map fun k : Nat => start + position + k := by
  induction items generalizing position taken fields with
  | nil =>
    obtain rfl : [] = fields := Except.ok.inj h
    rfl
  | cons item items ih =>
    obtain ⟨base, f, more, -, -, -, hcolumn, -, -, -, -, hmore, rfl⟩ :=
      (fieldsFrom_cons_eq_ok_iff hstart).mp h
    have hindex : f.columnIndex = start + position := by
      rw [Field.columnIndex, hcolumn, Column.indexOf_letters]
      omega
    rw [List.map_cons, ih hmore, hindex, List.length_cons, List.range_succ_eq_map, List.map_cons,
      List.map_map]
    refine congrArg₂ List.cons (by simp) (List.map_congr_left fun k _ => ?_)
    simp only [Function.comp_apply]
    push_cast
    omega

/-- The fields of headers have pairwise different names, none of which was taken. -/
theorem names_fieldsFrom (hstart : 0 ≤ start)
    (h : fieldsFrom (.int start) row lang position taken items = .ok fields) :
    (fields.map Field.name).Nodup ∧ ∀ name ∈ fields.map Field.name, name ∉ taken := by
  induction items generalizing position taken fields with
  | nil =>
    obtain rfl : [] = fields := Except.ok.inj h
    simp
  | cons item items ih =>
    obtain ⟨base, f, more, -, hname, -, -, -, -, -, -, hmore, rfl⟩ :=
      (fieldsFrom_cons_eq_ok_iff hstart).mp h
    obtain ⟨hnodup, hfree⟩ := ih hmore
    have hf : f.name ∉ taken := hname ▸ uniqueName_not_mem taken base
    rw [List.map_cons, List.nodup_cons]
    refine ⟨⟨fun hmem => hfree _ hmem List.mem_cons_self, hnodup⟩, fun name hmem => ?_⟩
    rcases List.mem_cons.mp hmem with rfl | hmem
    · exact hf
    · exact fun htaken => hfree _ hmem (List.mem_cons_of_mem _ htaken)

/-- The fields of headers stand in the given row. -/
theorem rows_fieldsFrom (hstart : 0 ≤ start)
    (h : fieldsFrom (.int start) row lang position taken items = .ok fields) :
    ∀ f ∈ fields, HeaderRow.ofJson? row = some f.row := by
  induction items generalizing position taken fields with
  | nil =>
    obtain rfl : [] = fields := Except.ok.inj h
    simp
  | cons item items ih =>
    obtain ⟨base, f, more, -, -, -, -, hrow, -, -, -, hmore, rfl⟩ :=
      (fieldsFrom_cons_eq_ok_iff hstart).mp h
    intro g hg
    rcases List.mem_cons.mp hg with rfl | hg
    · exact hrow
    · exact ih hmore g hg

/-- The fields of headers are described by their headers. -/
theorem descriptions_fieldsFrom (hstart : 0 ≤ start)
    (h : fieldsFrom (.int start) row lang position taken items = .ok fields) :
    fields.map Field.description = items.map fun item => sourceOf lang item.2 := by
  induction items generalizing position taken fields with
  | nil =>
    obtain rfl : [] = fields := Except.ok.inj h
    rfl
  | cons item items ih =>
    obtain ⟨base, f, more, -, -, -, -, -, -, -, hdescription, hmore, rfl⟩ :=
      (fieldsFrom_cons_eq_ok_iff hstart).mp h
    rw [List.map_cons, List.map_cons, hdescription, ih hmore]

end SheetSchema.Header
