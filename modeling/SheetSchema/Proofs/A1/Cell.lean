import Mathlib
import SheetSchema.A1.Cell
import SheetSchema.Proofs.Refusal
import SheetSchema.Proofs.Text.Cut
import SheetSchema.Proofs.Text.Numeral

/-!
# Coordinates and the sheets they stand on

Letters and the digits of a row are read as the coordinate that they write
(`coordinateParts?_append_digitsOf`). A sheet name loses its quotes without gaining a character
(`mem_of_mem_unquoteSheet`), so no name that is read before the separator holds it, and a name in
quotes gets shorter (`length_unquoteSheet_lt`).

`CellReference.of_parse` says what a start cell is made of that was read: the sheet in front of
the separator, or else the sheet given beside it, and a coordinate in capitals whose row can be
written.
-/

namespace SheetSchema.A1

/-! ## Coordinates -/

theorem readRow_runOf {n : Nat} (h : Decimal.isWritable n = true) :
    readRow (Text.runOf n) = .ok n := by
  rw [readRow, Text.runOf, if_pos (by rw [isReadable_digitsOf, h])]

/-- A row that was read can be written. -/
theorem isWritable_of_readRow {digits : List Char} {run : Text.DigitRun} {row : ℕ}
    (hdigits : Text.numeral? digits = some run) (h : readRow run = .ok row) :
    Decimal.isWritable row = true := by
  obtain ⟨hnumeral, hcount⟩ := Text.numeral?_eq_some_iff.mp hdigits
  unfold readRow at h
  split at h
  · next hread =>
    obtain rfl := Except.ok.inj h
    exact hnumeral.isWritable (hcount ▸ hread)
  · cases h

theorem of_coordinateParts? {isLetter : Char → Bool} {s column : List Char} {run : Text.DigitRun}
    (h : coordinateParts? isLetter s = some (column, run)) :
    column ≠ [] ∧ column.all isLetter = true ∧
      ∃ digits, s = column ++ digits ∧ Text.numeral? digits = some run := by
  unfold coordinateParts? at h
  simp only [List.isEmpty_iff] at h
  split at h
  · cases h
  · next hne =>
    obtain ⟨r, hr, heq⟩ := Option.map_eq_some_iff.mp h
    obtain ⟨rfl, rfl⟩ := Prod.mk.inj heq
    exact ⟨hne, List.all_takeWhile, _, (List.takeWhile_append_dropWhile).symm, hr⟩

/-- Letters and a numeral behind them are a coordinate. -/
theorem coordinateParts?_append {isLetter : Char → Bool} {column digits : List Char}
    {run : Text.DigitRun} (hne : column ≠ []) (hall : column.all isLetter = true)
    (hstop : ∀ c ∈ digits.head?, isLetter c = false) (hdigits : Text.numeral? digits = some run) :
    coordinateParts? isLetter (column ++ digits) = some (column, run) := by
  have hcolumn : ∀ c ∈ column, isLetter c = true := List.all_eq_true.mp hall
  have htake : digits.takeWhile isLetter = [] := by
    cases digits with
    | nil => rfl
    | cons c rest => rw [List.takeWhile_cons_of_neg (by simp [hstop c rfl])]
  have hdrop : digits.dropWhile isLetter = digits := by
    have := List.takeWhile_append_dropWhile (p := isLetter) (l := digits)
    rwa [htake, List.nil_append] at this
  rw [coordinateParts?, List.takeWhile_append_of_pos hcolumn, List.dropWhile_append_of_pos hcolumn,
    htake, hdrop, List.append_nil, hdigits]
  simp [hne]

/-- Letters and the digits of a row are the coordinate that they write. -/
theorem coordinateParts?_append_digitsOf {isLetter : Char → Bool} {column : List Char}
    (hne : column ≠ []) (hall : column.all isLetter = true)
    (hdigit : ∀ c : Char, c.isDigit = true → isLetter c = false) (n : Nat) :
    coordinateParts? isLetter (column ++ Text.digitsOf n) = some (column, Text.runOf n) :=
  coordinateParts?_append hne hall
    (fun c hc => hdigit c (Text.isDigit_of_mem_digitsOf (List.mem_of_head? hc)))
    (Text.numeral?_digitsOf n)

theorem ne_separator_of_digitValue? {c : Char} {d : Nat} (h : Text.digitValue? c = some d) :
    c ≠ '!' := by
  rintro rfl
  revert h
  simp [show Text.digitValue? '!' = none by decide]

theorem not_mem_of_numeralFrom? {acc n : Nat} {s : List Char}
    (h : Text.numeralFrom? acc s = some n) : '!' ∉ s := by
  induction s generalizing acc with
  | nil => simp
  | cons c s ih =>
    rw [Text.numeralFrom?] at h
    split at h
    · next d hd =>
      rw [List.mem_cons, not_or]
      exact ⟨(ne_separator_of_digitValue? hd).symm, ih h⟩
    · cases h

/-- A coordinate does not hold the separator. -/
theorem not_mem_of_coordinateParts? {s column : List Char} {run : Text.DigitRun}
    (h : coordinateParts? Char.isUpper s = some (column, run)) : '!' ∉ s := by
  obtain ⟨-, hall, digits, rfl, hdigits⟩ := of_coordinateParts? h
  rw [List.mem_append, not_or]
  constructor
  · intro hmem
    have := List.all_eq_true.mp hall _ hmem
    simp at this
  · cases digits with
    | nil => simp
    | cons c digits =>
      obtain ⟨n, hn, -⟩ := Option.map_eq_some_iff.mp hdigits
      exact not_mem_of_numeralFrom? hn

/-! ## Quotes around a sheet name -/

theorem mem_of_mem_undouble {s : List Char} {c : Char} (h : c ∈ undouble s) : c ∈ s := by
  fun_induction undouble s with
  | case1 rest ih =>
    rcases List.mem_cons.mp h with rfl | h
    · simp
    · simp [ih h]
  | case2 d rest _ ih =>
    rcases List.mem_cons.mp h with rfl | h
    · simp
    · simp [ih h]
  | case3 => simp at h

theorem length_undouble_le (s : List Char) : (undouble s).length ≤ s.length := by
  fun_induction undouble s with
  | case1 rest ih =>
    simp only [List.length_cons]
    omega
  | case2 c rest _ ih =>
    simp only [List.length_cons]
    omega
  | case3 => simp

theorem isQuotedBy_iff {quote : Char} {s : List Char} :
    Text.isQuotedBy quote s = true ↔ ∃ t, s = quote :: t ++ [quote] := by
  simp only [Text.isQuotedBy, Bool.and_eq_true, decide_eq_true_eq, beq_iff_eq]
  constructor
  · rintro ⟨⟨hlen, hhead⟩, hlast⟩
    obtain ⟨c, t, rfl⟩ := List.exists_cons_of_ne_nil (l := s) (by rintro rfl; simp at hlen)
    obtain rfl : c = quote := by simpa using hhead
    obtain rfl | ⟨t, d, rfl⟩ := t.eq_nil_or_concat'
    · simp at hlen
    · rw [← List.cons_append, List.getLast?_concat, Option.some.injEq] at hlast
      exact ⟨t, by rw [hlast, List.cons_append]⟩
  · rintro ⟨t, rfl⟩
    rw [List.getLast?_concat]
    simp

@[simp] theorem inner_quoted (quote : Char) (t : List Char) :
    Text.inner (quote :: t ++ [quote]) = t := by
  simp [Text.inner]

theorem unquoteSheet_quoted (t : List Char) :
    unquoteSheet (sheetQuote :: t ++ [sheetQuote]) = undouble t := by
  rw [unquoteSheet, if_pos (isQuotedBy_iff.mpr ⟨t, rfl⟩), inner_quoted]

/-- What has no quotes around it stays. -/
theorem unquoteSheet_eq_self {s : List Char} (h : Text.isQuotedBy sheetQuote s = false) :
    unquoteSheet s = s := by
  simp [unquoteSheet, h]

/-- A sheet name gains no character where it loses its quotes. -/
theorem mem_of_mem_unquoteSheet {s : List Char} {c : Char} (h : c ∈ unquoteSheet s) : c ∈ s := by
  cases hq : Text.isQuotedBy sheetQuote s with
  | false => rwa [unquoteSheet_eq_self hq] at h
  | true =>
    obtain ⟨t, rfl⟩ := isQuotedBy_iff.mp hq
    rw [unquoteSheet_quoted] at h
    simp [mem_of_mem_undouble h]

/-- A sheet name in quotes gets shorter where it loses them. -/
theorem length_unquoteSheet_lt {s : List Char} (h : Text.isQuotedBy sheetQuote s = true) :
    (unquoteSheet s).length < s.length := by
  obtain ⟨t, rfl⟩ := isQuotedBy_iff.mp h
  have := length_undouble_le t
  rw [unquoteSheet_quoted, List.length_append, List.length_cons]
  omega

/-! ## Start cells -/

namespace CellReference

theorem of_qualifiedParts? {s sheet column : List Char} {run : Text.DigitRun}
    (h : qualifiedParts? s = some (sheet, column, run)) :
    ∃ cell, Text.breakOn? ['!'] s = some (sheet, cell) ∧ sheet ≠ [] ∧
      coordinateParts? Char.isUpper cell = some (column, run) := by
  unfold qualifiedParts? at h
  obtain ⟨⟨before, cell⟩, hcut, h⟩ := Option.bind_eq_some_iff.mp h
  obtain ⟨⟨letters, digits⟩, hparts, h⟩ := Option.bind_eq_some_iff.mp h
  simp only [List.isEmpty_iff] at h
  split at h
  · cases h
  · next hne =>
    obtain ⟨rfl, rfl, rfl⟩ := by simpa using h
    exact ⟨cell, hcut, hne, hparts⟩

/-- The sheet that a start cell stands on: the one that it names, or else the sheet `fallback`. -/
def sheetOf (reference fallback : List Char) : List Char :=
  match Text.breakOn? ['!'] (Text.trim reference) with
  | some (sheet, _) => unquoteSheet sheet
  | none => unquoteSheet fallback

/-- A start cell that was read is made of its sheet and of a coordinate in capitals. -/
theorem of_parse {reference fallback : String} {cell : CellReference}
    (h : parse reference fallback = .ok cell) :
    cell.sheet = String.ofList (sheetOf reference.toList fallback.toList) ∧
      Column.isCapitals cell.column.toList = true ∧ Decimal.isWritable cell.row = true := by
  unfold parse at h
  simp only at h
  split at h
  · next sheet column run hparts =>
    obtain ⟨row, hrow, h⟩ := bind_eq_ok.mp h
    obtain rfl := pure_eq_ok.mp h
    obtain ⟨rest, hcut, -, hcell⟩ := of_qualifiedParts? hparts
    obtain ⟨hne, hall, digits, -, hdigits⟩ := of_coordinateParts? hcell
    refine ⟨?_, by simp [Column.isCapitals, hne, hall], isWritable_of_readRow hdigits hrow⟩
    split at hcut
    · rw [sheetOf, hcut]
    · next hmem =>
      -- The coordinate holds no separator, so the cut is right behind the given sheet.
      obtain ⟨hfull, hsheet⟩ := Text.of_breakOn? hcut
      have hrest := not_mem_of_coordinateParts? hcell
      have hfallback : '!' ∉ fallback.toList := by
        have hcount := congrArg (List.count '!') hfull
        simp only [List.count_append, List.count_cons_self, List.count_eq_zero.mpr hmem,
          List.count_eq_zero.mpr hsheet, List.count_eq_zero.mpr hrest] at hcount
        exact List.count_eq_zero.mp (by omega)
      rw [Text.breakOn?_append hfallback] at hcut
      obtain ⟨rfl, -⟩ := Prod.mk.inj (Option.some.inj hcut)
      rw [sheetOf, Text.breakOn?_eq_none hmem]
  · cases h

end CellReference

end SheetSchema.A1
