import Mathlib
import SheetSchema.A1.Range
import SheetSchema.Proofs.A1.Column
import SheetSchema.Proofs.A1.Qualified
import SheetSchema.Proofs.Grid.Range

/-!
# Ranges from a cell

A range from a cell down, over columns that are written in capitals, is read as the region that
starts at the cell, stops behind the last column and has no last row (`parseRange_open`). A range
between two cells stops behind the second (`parseRange_closed`). Every region that a range text
names stops on some axis (`stops_of_parseRange`).
-/

namespace SheetSchema.A1

variable {first last : List Char}

/-! ## Pieces -/

theorem withoutFinalNewline_of_isAlphanum {s : List Char} (h : ∀ c ∈ s, c.isAlphanum = true) :
    Text.withoutFinalNewline s = s :=
  Text.withoutFinalNewline_eq_self fun hlast => by
    cases h _ (List.mem_of_getLast? hlast)

theorem isAlphanum_of_isCapitals (h : Column.isCapitals first = true) :
    ∀ c ∈ first, c.isAlphanum = true := by
  rw [Column.isCapitals, Bool.and_eq_true, List.all_eq_true] at h
  exact fun c hc => Text.isAlphanum_of_isUpper (h.2 c hc)

theorem ne_nil_of_isCapitals (h : Column.isCapitals first = true) : first ≠ [] := by
  rintro rfl
  simp [Column.isCapitals] at h

theorem all_isAlpha_of_isCapitals (h : Column.isCapitals first = true) :
    first.all Char.isAlpha = true := by
  rw [Column.isCapitals, Bool.and_eq_true, List.all_eq_true] at h
  exact List.all_eq_true.mpr fun c hc => Text.isAlpha_of_isUpper (h.2 c hc)

/-- Capitals are letters of a column. -/
theorem isLetters_of_isCapitals (h : Column.isCapitals last = true) :
    Column.isLetters last = true := by
  rw [Column.isLetters, withoutFinalNewline_of_isAlphanum (isAlphanum_of_isCapitals h)]
  simp [ne_nil_of_isCapitals h, all_isAlpha_of_isCapitals h]

/-- Capitals are a column. -/
theorem read?_of_isCapitals (h : Column.isCapitals last = true) :
    Piece.read? last = some (.column (Column.indexOf last)) := by
  rw [Piece.read?, if_pos (isLetters_of_isCapitals h)]

/-- The letters of an index are read as the index. -/
theorem index_letters (n : Nat) : Column.index (Column.letters n) = .ok (n : Int) := by
  rw [Column.index, if_pos (isLetters_of_isCapitals (Column.isCapitals_letters n)),
    Column.indexOf_letters]

theorem isAlphanum_of_mem_cell (h : Column.isCapitals first = true) (n : Nat) :
    ∀ c ∈ first ++ Text.digitsOf n, c.isAlphanum = true := by
  intro c hc
  rcases List.mem_append.mp hc with hc | hc
  · exact isAlphanum_of_isCapitals h c hc
  · exact Text.isAlphanum_of_isDigit (Text.isDigit_of_mem_digitsOf hc)

/-- Capitals and the digits of a row are a coordinate. -/
theorem read?_cell (h : Column.isCapitals first = true) (n : Nat) :
    Piece.read? (first ++ Text.digitsOf n) = some (.cell first (Text.runOf n)) := by
  have hletters : Column.isLetters (first ++ Text.digitsOf n) = false := by
    obtain ⟨d, rest, hd⟩ := List.exists_cons_of_ne_nil (Text.digitsOf_ne_nil n)
    have hdigit : d.isAlpha = false :=
      Text.isAlpha_of_isDigit (Text.isDigit_of_mem_digitsOf (hd ▸ List.mem_cons_self))
    rw [Column.isLetters, withoutFinalNewline_of_isAlphanum (isAlphanum_of_mem_cell h n), hd]
    simp [hdigit]
  have hnumeral : Text.numeral? (first ++ Text.digitsOf n) = none := by
    obtain ⟨c, rest, rfl⟩ := List.exists_cons_of_ne_nil (ne_nil_of_isCapitals h)
    have := List.all_eq_true.mp (all_isAlpha_of_isCapitals h) c List.mem_cons_self
    exact Text.numeral?_of_isAlpha this _
  rw [Piece.read?, hletters, hnumeral, coordinateParts?_append_digitsOf (ne_nil_of_isCapitals h)
    (all_isAlpha_of_isCapitals h) (fun c hc => Text.isAlpha_of_isDigit hc)]
  rfl

/-! ## Ranges -/

theorem not_mem_of_isAlphanum {s : List Char} (h : ∀ c ∈ s, c.isAlphanum = true) {d : Char}
    (hd : d.isAlphanum = false) : d ∉ s :=
  fun hmem => Text.ne_of_isAlphanum (h d hmem) hd rfl

section Sides

variable {start stop : List Char}

/-- Two sides of letters and digits are written in characters of cells. -/
theorem isCellChar_of_mem_sides (hstart : ∀ c ∈ start, c.isAlphanum = true)
    (hstop : ∀ c ∈ stop, c.isAlphanum = true) :
    ∀ c ∈ start ++ ':' :: stop, isCellChar c = true := by
  intro c hc
  rcases List.mem_append.mp hc with hc | hc
  · simp [isCellChar, hstart c hc]
  rcases List.mem_cons.mp hc with rfl | hc
  · decide
  · simp [isCellChar, hstop c hc]

/-- Two sides of letters and digits are told apart by the colon. -/
theorem sides_of_isAlphanum (hstart : ∀ c ∈ start, c.isAlphanum = true)
    (hstop : ∀ c ∈ stop, c.isAlphanum = true) :
    sides (start ++ ':' :: stop) = .ok (start, stop) := by
  have hsplit : Text.splitOn ':' (start ++ ':' :: stop) = [start, stop] := by
    rw [Text.splitOn_append (not_mem_of_isAlphanum hstart (by decide)),
      Text.splitOn_eq_singleton (not_mem_of_isAlphanum hstop (by decide))]
  rw [sides, if_neg (by simp), hsplit, List.map_cons, List.map_singleton,
    Text.trim_of_isAlphanum hstart, Text.trim_of_isAlphanum hstop]

/-- Two sides of letters and digits are read as what lies between them. -/
theorem parseRange_sides (hstart : ∀ c ∈ start, c.isAlphanum = true)
    (hstop : ∀ c ∈ stop, c.isAlphanum = true) (sheet : Json) :
    parseRange (String.ofList (start ++ ':' :: stop)) sheet = between sheet start stop := by
  rw [parseRange, String.toList_ofList,
    Text.trim_eq_self (noBlankEnds_of_isCellChar (isCellChar_of_mem_sides hstart hstop)),
    sides_of_isAlphanum hstart hstop, ok_bind]

end Sides

/-- What is written for a range from a cell down consists of letters, digits and a colon. -/
theorem isCellChar_of_mem_open (hfirst : Column.isCapitals first = true)
    (hlast : Column.isCapitals last = true) (n : Nat) :
    ∀ c ∈ (first ++ Text.digitsOf n) ++ ':' :: last, isCellChar c = true :=
  isCellChar_of_mem_sides (isAlphanum_of_mem_cell hfirst n) (isAlphanum_of_isCapitals hlast)

/-- A range from a cell down is read as the region that starts at the cell, stops behind the last
column and has no last row. -/
theorem parseRange_open (hfirst : Column.isCapitals first = true)
    (hlast : Column.isCapitals last = true) {n : Nat} (hn : Decimal.isWritable n = true)
    (sheet : Json) :
    parseRange (String.ofList ((first ++ Text.digitsOf n) ++ ':' :: last)) sheet =
      GridRange.ofIndices sheet ((n : Int) - 1) none (Column.indexOf first)
        (some (Column.indexOf last + 1)) := by
  rw [parseRange_sides (isAlphanum_of_mem_cell hfirst n) (isAlphanum_of_isCapitals hlast)]
  simp only [between, read?_cell hfirst n, read?_of_isCapitals hlast, readCoordinate,
    readRow_runOf hn, Except.map, ok_bind, fromCell, Coordinate.rowIndex, Coordinate.columnIndex]

/-- A range between two cells is read as the region that starts at the first and stops behind the
second on both axes. -/
theorem parseRange_closed (hfirst : Column.isCapitals first = true)
    (hlast : Column.isCapitals last = true) {m n : Nat} (hm : Decimal.isWritable m = true)
    (hn : Decimal.isWritable n = true) (sheet : Json) :
    parseRange (String.ofList ((first ++ Text.digitsOf m) ++ ':' :: (last ++ Text.digitsOf n)))
        sheet =
      GridRange.ofIndices sheet ((m : Int) - 1) (some (n : Int)) (Column.indexOf first)
        (some (Column.indexOf last + 1)) := by
  rw [parseRange_sides (isAlphanum_of_mem_cell hfirst m) (isAlphanum_of_mem_cell hlast n)]
  simp only [between, read?_cell hfirst m, read?_cell hlast n, readCoordinate, readRow_runOf hm,
    readRow_runOf hn, Except.map, ok_bind, fromCell, Coordinate.rowIndex, Coordinate.columnIndex,
    Int.sub_add_cancel]

/-- A region that a range text names stops below or to the right. -/
theorem stops_of_parseRange {text : String} {sheet : Json} {r : GridRange}
    (h : parseRange text sheet = .ok r) :
    r.sheet = sheet ∧ (r.rows.stop? ≠ none ∨ r.columns.stop? ≠ none) := by
  unfold parseRange at h
  obtain ⟨⟨start, stop⟩, -, h⟩ := bind_eq_ok.mp h
  simp only [between] at h
  split at h
  · obtain ⟨hsheet, -, -, -, hstop⟩ := GridRange.ofIndices_eq_ok_iff.mp h
    exact ⟨hsheet, Or.inr (by simp [hstop])⟩
  · obtain ⟨a, -, h⟩ := bind_eq_ok.mp h
    obtain ⟨b, -, h⟩ := bind_eq_ok.mp h
    obtain ⟨hsheet, -, hstop, -⟩ := GridRange.ofIndices_eq_ok_iff.mp h
    exact ⟨hsheet, Or.inl (by simp [hstop])⟩
  · obtain ⟨a, -, h⟩ := bind_eq_ok.mp h
    unfold fromCell at h
    split at h
    · obtain ⟨hsheet, -, -, -, hstop⟩ := GridRange.ofIndices_eq_ok_iff.mp h
      exact ⟨hsheet, Or.inr (by simp [hstop])⟩
    · obtain ⟨b, -, h⟩ := bind_eq_ok.mp h
      obtain ⟨hsheet, -, hstop, -⟩ := GridRange.ofIndices_eq_ok_iff.mp h
      exact ⟨hsheet, Or.inl (by simp [hstop])⟩
    · cases h
  · cases h

end SheetSchema.A1
