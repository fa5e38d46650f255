import Mathlib
import SheetSchema.Proofs.A1.Numbering

/-!
# What a range text denotes

A range text has two sides (`HasSides`), each of which may name a place: a column, a row or a cell
(`Names`). Some pairs of places bound a region (`Bounds`), and `IsBetween` says which cells lie in
it. These four say what a text denotes (`Denotes`), without a word about how it is read.

A text is read as what it denotes (`FollowsText`): it is refused, as not valid, exactly if it
denotes nothing, the region holds the cells between the two places, and between two cells it is the
bounding box of both. `followsText_or_tooLong` says that every text is, unless one of its runs of
digits is too long to be read.

In between, `Piece.IsOf` says what the reader takes a side for and `between_cases` what it makes of
two of them.
-/

namespace SheetSchema.A1

/-! ## Denotation -/

/-- What one side of a range names. A column is told by its index and a row by its number. -/
inductive Place where
  | column (index : ℕ)
  | row (number : ℕ)
  | cell (column row : ℕ)
deriving DecidableEq

/-- The side names the place: letters a column, digits a row, letters with digits behind them a
cell. -/
inductive Names : List Char → Place → Prop
  | column {s : List Char} (h : Column.IsWord s) : Names s (.column (Column.indexOf s).toNat)
  | row {s : List Char} {n : ℕ} (h : Text.IsNumeral s n) : Names s (.row n)
  | cell {letters digits : List Char} {n : ℕ} (hletters : Column.IsWord letters)
      (hdigits : Text.IsNumeral digits n) :
      Names (letters ++ digits) (.cell (Column.indexOf letters).toNat n)

/-- The sides of a text are the pieces around its only colon, or twice the whole text if it has
none. Blanks around a side do not belong to it. -/
inductive HasSides (s : List Char) : List Char → List Char → Prop
  | whole (h : ':' ∉ s) : HasSides s (Text.trim s) (Text.trim s)
  | halves {before after : List Char} (h : s = before ++ ':' :: after) (hbefore : ':' ∉ before)
      (hafter : ':' ∉ after) : HasSides s (Text.trim before) (Text.trim after)

/-- The places bound a region: two columns, two rows or two cells, of which the second is not to the
left of the first and not above it, or a cell and a column. Rows are counted from one. -/
def Bounds : Place → Place → Prop
  | .column a, .column b => a ≤ b
  | .row m, .row n => 1 ≤ m ∧ m ≤ n
  | .cell a m, .cell b n => 1 ≤ m ∧ m ≤ n ∧ a ≤ b
  | .cell a m, .column b => 1 ≤ m ∧ a ≤ b
  | _, _ => False

/-- The cell with these indices lies between the two places, on the axes that they name. Below a
cell with a column there is no end. -/
def IsBetween (row column : ℕ) : Place → Place → Prop
  | .column a, .column b => a ≤ column ∧ column ≤ b
  | .row m, .row n => m ≤ row + 1 ∧ row + 1 ≤ n
  | .cell a m, .cell b n => m ≤ row + 1 ∧ row + 1 ≤ n ∧ a ≤ column ∧ column ≤ b
  | .cell a m, .column b => m ≤ row + 1 ∧ a ≤ column ∧ column ≤ b
  | _, _ => False

/-- The text denotes the region between the places that its two sides name. -/
structure Denotes (text start stop : String) (x y : Place) : Prop where
  sides : HasSides (Text.trim text.toList) start.toList stop.toList
  start : Names start.toList x
  stop : Names stop.toList y
  bounds : Bounds x y

/-- The text is read as what it denotes. -/
structure FollowsText (text : String) (sheet : Json) : Prop where
  not_escapes : ¬ Escapes (parseRange text sheet)
  exists_iff : (∃ r, parseRange text sheet = .ok r) ↔ ∃ start stop x y, Denotes text start stop x y
  contains_iff : ∀ {r start stop x y}, parseRange text sheet = .ok r →
    Denotes text start stop x y →
    r.sheet = sheet ∧ ∀ row column : ℕ, r.Contains row column ↔ IsBetween row column x y
  boundingBox : ∀ {r start stop a m b n}, parseRange text sheet = .ok r →
    Denotes text start stop (.cell a m) (.cell b n) →
    ∃ u v, parseRange start sheet = .ok u ∧ parseRange stop sheet = .ok v ∧ r.IsBoundingBox u v

/-! ## Sides -/

section Sides

variable {s x y : List Char}

theorem HasSides.noBlankEnds (h : HasSides s x y) : Text.NoBlankEnds x ∧ Text.NoBlankEnds y := by
  cases h with
  | whole => exact ⟨Text.noBlankEnds_trim _, Text.noBlankEnds_trim _⟩
  | halves => exact ⟨Text.noBlankEnds_trim _, Text.noBlankEnds_trim _⟩

theorem HasSides.isInfix (h : HasSides s x y) : x <:+: s ∧ y <:+: s := by
  cases h with
  | whole => exact ⟨Text.isInfix_trim s, Text.isInfix_trim s⟩
  | @halves before after h _ _ =>
    subst h
    exact ⟨(Text.isInfix_trim before).trans ⟨[], ':' :: after, by simp⟩,
      (Text.isInfix_trim after).trans ⟨before ++ [':'], [], by simp⟩⟩

/-- A side is its own side, as a text that consists of it alone. -/
theorem HasSides.self (h : HasSides s x y) : HasSides x x x ∧ HasSides y y y := by
  have hself : ∀ t, ':' ∉ t → HasSides (Text.trim t) (Text.trim t) (Text.trim t) := fun t ht => by
    have := HasSides.whole (s := Text.trim t) fun hmem => ht (Text.mem_of_mem_trim hmem)
    rwa [Text.trim_trim] at this
  cases h with
  | whole h => exact ⟨hself _ h, hself _ h⟩
  | halves _ hbefore hafter => exact ⟨hself _ hbefore, hself _ hafter⟩

theorem not_names_nil {x : Place} : ¬ Names [] x := by
  intro h
  generalize hs : ([] : List Char) = s at h
  cases h with
  | column h => exact h.1 hs.symm
  | row h => exact h.1 hs.symm
  | cell h _ => exact h.1 (List.append_eq_nil_iff.mp hs.symm).1

/-- The sides that are read are those of the text. -/
theorem sides_eq_ok_iff : sides s = .ok (x, y) ↔ s ≠ [] ∧ HasSides s x y := by
  by_cases hs : s = []
  · simp [hs, sides]
  rw [sides, if_neg (by simpa using hs)]
  constructor
  · intro h
    refine ⟨hs, ?_⟩
    rcases Text.splitOn_cases ':' s with ⟨hnone, hsplit⟩ | ⟨a, b, rfl, ha, hb, hsplit⟩ |
      ⟨-, a, b, c, more, hsplit⟩
    · rw [hsplit] at h
      obtain ⟨rfl, rfl⟩ := Prod.mk.inj (Except.ok.inj h)
      exact .whole hnone
    · rw [hsplit] at h
      obtain ⟨rfl, rfl⟩ := Prod.mk.inj (Except.ok.inj h)
      exact .halves rfl ha hb
    · rw [hsplit] at h
      cases h
  · rintro ⟨-, h⟩
    cases h with
    | whole h => rw [Text.splitOn_eq_singleton h]; rfl
    | halves h hbefore hafter =>
      rw [h, Text.splitOn_append hbefore, Text.splitOn_eq_singleton hafter]
      rfl

theorem not_escapes_sides : ¬ Escapes (sides s) := by
  unfold sides
  split
  · simp [Error.category]
  · split <;> simp [Error.category]

end Sides

/-! ## Pieces -/

namespace Piece

variable {s t : List Char} {x y : Piece}

/-- What the reader takes a side for. -/
def IsOf (s : List Char) : Piece → Prop
  | .column index => Column.IsWord s ∧ index = Column.indexOf s
  | .row run => Text.IsNumeral s run.value ∧ run.count = s.length
  | .cell letters run => ∃ digits, s = letters ++ digits ∧ Column.IsWord letters ∧
      Text.IsNumeral digits run.value ∧ run.count = digits.length

/-- A side without blanks around it is letters for the reader only if it is letters. -/
theorem isLetters_iff (hs : Text.NoBlankEnds s) : Column.isLetters s = true ↔ Column.IsWord s := by
  have hline : Text.withoutFinalNewline s = s :=
    Text.withoutFinalNewline_eq_self fun hlast => by cases hs.2 _ hlast
  simp [Column.isLetters, Column.IsWord, hline]

theorem not_isWord_of_isNumeral (letters : List Char) {digits : List Char} {n : ℕ}
    (h : Text.IsNumeral digits n) :
    ¬ Column.IsWord (letters ++ digits) := by
  intro hword
  obtain ⟨c, rest, rfl⟩ := List.exists_cons_of_ne_nil h.1
  obtain ⟨d, hd⟩ := h.exists_digitValue? c List.mem_cons_self
  rw [Text.digitValue?_of_isAlpha (hword.2 c (by simp))] at hd
  cases hd

theorem numeral?_append_eq_none {letters digits : List Char} (h : Column.IsWord letters) :
    Text.numeral? (letters ++ digits) = none := by
  obtain ⟨c, rest, rfl⟩ := List.exists_cons_of_ne_nil h.1
  exact Text.numeral?_of_isAlpha (h.2 c List.mem_cons_self) _

theorem read?_eq_some_iff (hs : Text.NoBlankEnds s) : read? s = some x ↔ x.IsOf s := by
  unfold read?
  constructor
  · intro h
    split at h
    · next hletters =>
      obtain rfl := Option.some.inj h
      exact ⟨(isLetters_iff hs).mp hletters, rfl⟩
    · split at h
      · next run hrun =>
        obtain rfl := Option.some.inj h
        exact Text.numeral?_eq_some_iff.mp hrun
      · obtain ⟨⟨letters, run⟩, hparts, rfl⟩ := Option.map_eq_some_iff.mp h
        obtain ⟨hne, hall, digits, hdigits, hrun⟩ := of_coordinateParts? hparts
        exact ⟨digits, hdigits, ⟨hne, List.all_eq_true.mp hall⟩, Text.numeral?_eq_some_iff.mp hrun⟩
  · intro h
    cases x with
    | column index =>
      obtain ⟨hword, rfl⟩ := h
      rw [if_pos hword.isLetters]
    | row run =>
      have hletters : ¬ Column.isLetters s = true := fun hletters =>
        not_isWord_of_isNumeral [] h.1 ((isLetters_iff hs).mp hletters)
      rw [if_neg hletters, Text.numeral?_eq_some_iff.mpr h]
    | cell letters run =>
      obtain ⟨digits, rfl, hword, hnumeral, hcount⟩ := h
      have hletters : ¬ Column.isLetters (letters ++ digits) = true := fun hletters =>
        not_isWord_of_isNumeral letters hnumeral ((isLetters_iff hs).mp hletters)
      have hstop : ∀ c ∈ digits.head?, c.isAlpha = false := by
        intro c hc
        obtain ⟨d, hd⟩ := hnumeral.exists_digitValue? c (List.mem_of_head? hc)
        by_contra halpha
        rw [Text.digitValue?_of_isAlpha (by simpa using halpha)] at hd
        cases hd
      rw [if_neg hletters, numeral?_append_eq_none hword, coordinateParts?_append hword.1
        (List.all_eq_true.mpr hword.2) hstop (Text.numeral?_eq_some_iff.mpr ⟨hnumeral, hcount⟩)]
      rfl

/-- The place that a piece stands for. -/
def place : Piece → Place
  | .column index => .column index.toNat
  | .row run => .row run.value
  | .cell letters run => .cell (Column.indexOf letters).toNat run.value

/-- A side names exactly the place of what the reader takes it for. -/
theorem names_iff (hs : Text.NoBlankEnds s) {p : Place} :
    Names s p ↔ ∃ x, read? s = some x ∧ x.place = p := by
  simp only [read?_eq_some_iff hs]
  constructor
  · intro h
    cases h with
    | column h => exact ⟨.column _, ⟨h, rfl⟩, rfl⟩
    | @row _ n h => exact ⟨.row ⟨s.length, n⟩, ⟨h, rfl⟩, rfl⟩
    | @cell letters digits n hletters hdigits =>
      exact ⟨.cell letters ⟨digits.length, n⟩, ⟨digits, rfl, hletters, hdigits, rfl⟩, rfl⟩
  · rintro ⟨x, hx, rfl⟩
    cases x with
    | column index =>
      obtain ⟨h, rfl⟩ := hx
      exact .column h
    | row run => exact .row hx.1
    | cell letters run =>
      obtain ⟨digits, rfl, hletters, hdigits, -⟩ := hx
      exact .cell hletters hdigits

/-- The digits of the piece, which are its row number. -/
def run? : Piece → Option Text.DigitRun
  | .column _ => none
  | .row run | .cell _ run => some run

/-- The row number of the piece has few enough digits to be read. -/
def IsReadable (x : Piece) : Prop := ∀ run ∈ x.run?, Decimal.isReadable run.count = true

/-- The digits of a piece stand in its side. -/
theorem IsOf.exists_digits (h : x.IsOf s) {run : Text.DigitRun} (hrun : run ∈ x.run?) :
    ∃ digits, digits <:+: s ∧ Text.IsNumeral digits run.value ∧ run.count = digits.length := by
  cases x with
  | column index => cases hrun
  | row run =>
    obtain rfl := Option.some.inj hrun
    exact ⟨s, List.infix_rfl, h⟩
  | cell letters run =>
    obtain rfl := Option.some.inj hrun
    obtain ⟨digits, rfl, -, hdigits⟩ := h
    exact ⟨digits, (List.suffix_append letters digits).isInfix, hdigits⟩

/-- Two pieces with the bounds of the region between them: the first row and the row behind the
last, the first column and the column behind the last. -/
inductive HaveBounds : Piece → Piece → ℤ → Option ℤ → ℤ → Option ℤ → Prop
  | columns (a b : ℤ) : HaveBounds (.column a) (.column b) 0 none a (some (b + 1))
  | rows (m n : Text.DigitRun) : HaveBounds (.row m) (.row n) (m.value - 1) (some n.value) 0 none
  | cells (a : List Char) (m : Text.DigitRun) (b : List Char) (n : Text.DigitRun) :
      HaveBounds (.cell a m) (.cell b n) (m.value - 1) (some n.value) (Column.indexOf a)
        (some (Column.indexOf b + 1))
  | below (a : List Char) (m : Text.DigitRun) (b : ℤ) :
      HaveBounds (.cell a m) (.column b) (m.value - 1) none (Column.indexOf a) (some (b + 1))

/-- Places that bound a region are the places of pieces with bounds. -/
theorem exists_haveBounds (h : Bounds x.place y.place) : ∃ p q? c d?, HaveBounds x y p q? c d? := by
  cases x with
  | column a =>
    cases y with
    | column b => exact ⟨_, _, _, _, .columns a b⟩
    | row n | cell b n => exact h.elim
  | row m =>
    cases y with
    | row n => exact ⟨_, _, _, _, .rows m n⟩
    | column b | cell b n => exact h.elim
  | cell a m =>
    cases y with
    | column b => exact ⟨_, _, _, _, .below a m b⟩
    | row n => exact h.elim
    | cell b n => exact ⟨_, _, _, _, .cells a m b n⟩

theorem IsOf.index_nonneg {index : ℤ} (h : (column index).IsOf s) : 0 ≤ index :=
  h.2 ▸ h.1.indexOf_nonneg

theorem IsOf.indexOf_nonneg {letters : List Char} {run : Text.DigitRun}
    (h : (cell letters run).IsOf s) : 0 ≤ Column.indexOf letters := by
  obtain ⟨-, -, hletters, -⟩ := h
  exact hletters.indexOf_nonneg

section HaveBounds

variable {p c : ℤ} {q? d? : Option ℤ}

/-- Two places bound a region if and only if the bounds between their pieces make one. -/
theorem bounds_iff (hx : x.IsOf s) (hy : y.IsOf t) (h : HaveBounds x y p q? c d?) :
    Bounds x.place y.place ↔
      0 ≤ p ∧ 0 ≤ c ∧ (∀ stop ∈ q?, p < stop) ∧ ∀ stop ∈ d?, c < stop := by
  cases h with
  | columns a b =>
    have := hx.index_nonneg
    have := hy.index_nonneg
    simp [Bounds, place]
    omega
  | rows m n =>
    simp [Bounds, place]
  | cells a m b n =>
    have := hx.indexOf_nonneg
    have := hy.indexOf_nonneg
    simp [Bounds, place]
    omega
  | below a m b =>
    have := hx.indexOf_nonneg
    have := hy.index_nonneg
    simp [Bounds, place]
    omega

/-- The cells between two places are those inside the bounds between their pieces. -/
theorem isBetween_iff (hx : x.IsOf s) (hy : y.IsOf t) (h : HaveBounds x y p q? c d?)
    (row column : ℕ) : IsBetween row column x.place y.place ↔
      (p ≤ row ∧ ∀ stop ∈ q?, (row : ℤ) < stop) ∧
        c ≤ column ∧ ∀ stop ∈ d?, (column : ℤ) < stop := by
  cases h with
  | columns a b =>
    have := hx.index_nonneg
    have := hy.index_nonneg
    simp [IsBetween, place]
    omega
  | rows m n =>
    simp [IsBetween, place]
    omega
  | cells a m b n =>
    have := hx.indexOf_nonneg
    have := hy.indexOf_nonneg
    simp [IsBetween, place]
    omega
  | below a m b =>
    have := hx.indexOf_nonneg
    have := hy.index_nonneg
    simp [IsBetween, place]
    omega

end HaveBounds

end Piece

/-! ## Between two pieces -/

section Between

open Piece

variable {sheet : Json} {start stop : List Char} {x y : Piece} {p c : ℤ} {q? d? : Option ℤ}

theorem readRow_of_isReadable {run : Text.DigitRun} (h : Decimal.isReadable run.count = true) :
    readRow run = .ok run.value := by
  rw [readRow, if_pos h]

theorem readRow_of_not_isReadable {run : Text.DigitRun} (h : Decimal.isReadable run.count = false) :
    readRow run = .error (.numeralTooLong run.count) := by
  rw [readRow, if_neg (by simp [h])]

theorem readCoordinate_of_isReadable {run : Text.DigitRun} (h : Decimal.isReadable run.count = true)
    (letters : List Char) : readCoordinate letters run = .ok ⟨letters, run.value⟩ := by
  rw [readCoordinate, readRow_of_isReadable h]
  rfl

theorem readCoordinate_of_not_isReadable {run : Text.DigitRun}
    (h : Decimal.isReadable run.count = false) (letters : List Char) :
    readCoordinate letters run = .error (.numeralTooLong run.count) := by
  rw [readCoordinate, readRow_of_not_isReadable h]
  rfl

/-- Two pieces whose row numbers can be read are read as the region between their bounds. -/
theorem between_of_haveBounds (hx : read? start = some x) (hy : read? stop = some y)
    (hreadx : x.IsReadable) (hready : y.IsReadable) (h : HaveBounds x y p q? c d?) :
    between sheet start stop = GridRange.ofIndices sheet p q? c d? := by
  unfold between
  cases h with
  | columns a b => simp only [hx, hy]
  | rows m n =>
    simp only [hx, hy, readRow_of_isReadable (hreadx m rfl), readRow_of_isReadable (hready n rfl),
      ok_bind]
    rfl
  | cells a m b n =>
    simp only [hx, hy, readCoordinate_of_isReadable (hreadx m rfl),
      readCoordinate_of_isReadable (hready n rfl), ok_bind, fromCell, Coordinate.rowIndex,
      Coordinate.columnIndex, Int.sub_add_cancel]
  | below a m b =>
    simp only [hx, hy, readCoordinate_of_isReadable (hreadx m rfl), ok_bind, fromCell]
    rfl

/-- Two sides that bound no region are refused, if the row number of a cell at the start can be
read. -/
theorem between_of_not_haveBounds (hread : ∀ a m, read? start = some (.cell a m) →
      Decimal.isReadable m.count = true)
    (h : ∀ x y p q? c d?, read? start = some x → read? stop = some y →
      ¬ HaveBounds x y p q? c d?) :
    ∃ side, between sheet start stop = .error (.malformedCoordinate side) := by
  unfold between
  split
  · next a b ha hb => exact absurd (.columns a b) (h _ _ _ _ _ _ ha hb)
  · next m n hm hn => exact absurd (.rows m n) (h _ _ _ _ _ _ hm hn)
  · next a m ha =>
    rw [readCoordinate_of_isReadable (hread a m ha), ok_bind, fromCell]
    split
    · next b hb => exact absurd (.below a m b) (h _ _ _ _ _ _ ha hb)
    · next b n hb => exact absurd (.cells a m b n) (h _ _ _ _ _ _ ha hb)
    · exact ⟨_, rfl⟩
  · exact ⟨_, rfl⟩

/-- A cell at the start is refused if its row number has too many digits. -/
theorem between_of_not_isReadable_start {a : List Char} {m : Text.DigitRun}
    (hx : read? start = some (.cell a m)) (hm : Decimal.isReadable m.count = false) :
    between sheet start stop = .error (.numeralTooLong m.count) := by
  simp only [between, hx, readCoordinate_of_not_isReadable hm, error_bind]

/-- Two pieces with bounds are refused if the row number of one of them has too many digits. -/
theorem exists_tooLong_of_haveBounds (sheet : Json) (hx : read? start = some x)
    (hy : read? stop = some y) (h : HaveBounds x y p q? c d?)
    (hread : ¬ (x.IsReadable ∧ y.IsReadable)) :
    ∃ run, (run ∈ x.run? ∨ run ∈ y.run?) ∧ Decimal.isReadable run.count = false ∧
      between sheet start stop = .error (.numeralTooLong run.count) := by
  unfold between
  cases h with
  | columns a b => exact absurd ⟨fun _ => nofun, fun _ => nofun⟩ hread
  | rows m n =>
    rcases hm : Decimal.isReadable m.count with _ | _
    · exact ⟨m, Or.inl rfl, hm, by simp only [hx, hy, readRow_of_not_isReadable hm, error_bind]⟩
    have hn : Decimal.isReadable n.count = false := by simpa [IsReadable, run?, hm] using hread
    exact ⟨n, Or.inr rfl, hn, by
      simp only [hx, hy, readRow_of_isReadable hm, readRow_of_not_isReadable hn, ok_bind,
        error_bind]⟩
  | cells a m b n =>
    rcases hm : Decimal.isReadable m.count with _ | _
    · exact ⟨m, Or.inl rfl, hm, by
        simp only [hx, hy, readCoordinate_of_not_isReadable hm, error_bind]⟩
    have hn : Decimal.isReadable n.count = false := by simpa [IsReadable, run?, hm] using hread
    exact ⟨n, Or.inr rfl, hn, by
      simp only [hx, hy, readCoordinate_of_isReadable hm, readCoordinate_of_not_isReadable hn,
        ok_bind, fromCell, error_bind]⟩
  | below a m b =>
    have hm : Decimal.isReadable m.count = false := by simpa [IsReadable, run?] using hread
    exact ⟨m, Or.inl rfl, hm, by
      simp only [hx, hy, readCoordinate_of_not_isReadable hm, error_bind]⟩

/-- Two sides have bounds and can be read, or are refused since they have none, or are refused since
one of them has a row number of too many digits. -/
theorem between_cases (sheet : Json) (start stop : List Char) :
    (∃ x y p q? c d?, read? start = some x ∧ read? stop = some y ∧ x.IsReadable ∧ y.IsReadable ∧
      HaveBounds x y p q? c d?) ∨
    ((∀ x y p q? c d?, read? start = some x → read? stop = some y → ¬ HaveBounds x y p q? c d?) ∧
      ∃ side, between sheet start stop = .error (.malformedCoordinate side)) ∨
    ∃ side x run, (side = start ∨ side = stop) ∧ read? side = some x ∧ run ∈ x.run? ∧
      Decimal.isReadable run.count = false ∧
        between sheet start stop = .error (.numeralTooLong run.count) := by
  by_cases hbounds : ∃ x y p q? c d?, read? start = some x ∧ read? stop = some y ∧
    HaveBounds x y p q? c d?
  · obtain ⟨x, y, p, q?, c, d?, hx, hy, h⟩ := hbounds
    by_cases hread : x.IsReadable ∧ y.IsReadable
    · exact Or.inl ⟨x, y, p, q?, c, d?, hx, hy, hread.1, hread.2, h⟩
    obtain ⟨run, hrun, hlong, herror⟩ := exists_tooLong_of_haveBounds sheet hx hy h hread
    rcases hrun with hrun | hrun
    · exact Or.inr (Or.inr ⟨start, x, run, Or.inl rfl, hx, hrun, hlong, herror⟩)
    · exact Or.inr (Or.inr ⟨stop, y, run, Or.inr rfl, hy, hrun, hlong, herror⟩)
  have hnone : ∀ x y p q? c d?, read? start = some x → read? stop = some y →
      ¬ HaveBounds x y p q? c d? := fun x y p q? c d? hx hy h =>
    hbounds ⟨x, y, p, q?, c, d?, hx, hy, h⟩
  -- A cell is read before the stop is looked at, so it can be too long where nothing is bounded.
  by_cases hcell : ∃ a m, read? start = some (.cell a m) ∧ Decimal.isReadable m.count = false
  · obtain ⟨a, m, hx, hm⟩ := hcell
    exact Or.inr (Or.inr ⟨start, _, m, Or.inl rfl, hx, rfl, hm,
      between_of_not_isReadable_start hx hm⟩)
  · refine Or.inr (Or.inl ⟨hnone, between_of_not_haveBounds (fun a m hx => ?_) hnone⟩)
    by_contra hm
    exact hcell ⟨a, m, hx, by simpa using hm⟩

/-- A cell alone is read as the region that holds nothing else. -/
theorem exists_between_self (sheet : Json) {a : List Char} {m : Text.DigitRun}
    (hx : read? start = some (.cell a m)) (hread : IsReadable (.cell a m))
    (hm : 0 ≤ (m.value : ℤ) - 1) (ha : 0 ≤ Column.indexOf a) :
    ∃ u, between sheet start start = .ok u ∧ (∀ i, u.rows.Contains i ↔ i = m.value - 1) ∧
      ∀ i, u.columns.Contains i ↔ i = Column.indexOf a := by
  rw [between_of_haveBounds hx hx hread hread (.cells a m a m)]
  obtain ⟨u, hu⟩ : ∃ u, GridRange.ofIndices sheet (m.value - 1) (some m.value) (Column.indexOf a)
      (some (Column.indexOf a + 1)) = .ok u :=
    GridRange.exists_ofIndices sheet hm ha (by simp) (by simp)
  obtain ⟨-, hrow, hrows, hcolumn, hcolumns⟩ := GridRange.ofIndices_eq_ok_iff.mp hu
  refine ⟨u, hu, fun i => ?_, fun i => ?_⟩
  · rw [Span.contains_iff hrow hrows]
    simp only [Option.mem_some_iff, forall_eq']
    omega
  · rw [Span.contains_iff hcolumn hcolumns]
    simp only [Option.mem_some_iff, forall_eq']
    omega

/-- The region between two cells is the bounding box of both. -/
theorem exists_boundingBox {a b : List Char} {m n : Text.DigitRun} {r : GridRange}
    (hx : read? start = some (.cell a m)) (hy : read? stop = some (.cell b n))
    (hreadx : IsReadable (.cell a m)) (hready : IsReadable (.cell b n))
    (h : between sheet start stop = .ok r) : ∃ u v, between sheet start start = .ok u ∧
      between sheet stop stop = .ok v ∧ r.IsBoundingBox u v := by
  rw [between_of_haveBounds hx hy hreadx hready (.cells a m b n)] at h
  obtain ⟨hm, ha, hmn, hab⟩ := GridRange.exists_ofIndices_iff.mp ⟨r, h⟩
  simp only [Option.mem_some_iff, forall_eq'] at hmn hab
  obtain ⟨-, hrow, hrows, hcolumn, hcolumns⟩ := GridRange.ofIndices_eq_ok_iff.mp h
  obtain ⟨u, hu, hurows, hucolumns⟩ := exists_between_self sheet hx hreadx hm ha
  obtain ⟨v, hv, hvrows, hvcolumns⟩ :=
    exists_between_self sheet hy hready (by omega) (by omega)
  exact ⟨u, v, hu, hv, Span.isHull_of_ends hmn hrow hrows hurows hvrows,
    Span.isHull_of_ends hab hcolumn hcolumns hucolumns
      fun i => by rw [hvcolumns, Int.add_sub_cancel]⟩

end Between

/-! ## Reading what a text denotes -/

section Reading

open Piece

variable {text start stop : String} {sheet : Json} {s t : List Char} {a b : Place} {x y : Piece}

theorem parseRange_eq_between (sheet : Json) (h : sides (Text.trim text.toList) = .ok (s, t)) :
    parseRange text sheet = between sheet s t := by
  rw [parseRange, h, ok_bind]

theorem Denotes.sides_eq_ok (h : Denotes text start stop a b) :
    A1.sides (Text.trim text.toList) = .ok (start.toList, stop.toList) := by
  refine sides_eq_ok_iff.mpr ⟨fun hnil => ?_, h.sides⟩
  have hstart := h.sides.isInfix.1
  rw [hnil, List.infix_nil] at hstart
  exact not_names_nil (hstart ▸ h.start)

/-- The places that a text names are those of the pieces that its sides are taken for. -/
theorem Denotes.exists_pieces (h : Denotes text start stop a b) :
    ∃ x y, read? start.toList = some x ∧ x.place = a ∧
      read? stop.toList = some y ∧ y.place = b := by
  obtain ⟨hstart, hstop⟩ := h.sides.noBlankEnds
  obtain ⟨x, hx, hxa⟩ := (names_iff hstart).mp h.start
  obtain ⟨y, hy, hyb⟩ := (names_iff hstop).mp h.stop
  exact ⟨x, y, hx, hxa, hy, hyb⟩

/-- A text denotes the region between the places of the pieces that its sides are taken for, if
these bound one. -/
theorem denotes_iff (hsides : sides (Text.trim text.toList) = .ok (s, t)) (hx : read? s = some x)
    (hy : read? t = some y) : Denotes text start stop a b ↔
      start.toList = s ∧ stop.toList = t ∧ x.place = a ∧ y.place = b ∧ Bounds a b := by
  constructor
  · intro h
    obtain ⟨rfl, rfl⟩ := Prod.mk.inj (Except.ok.inj (hsides.symm.trans h.sides_eq_ok))
    obtain ⟨x', y', hx', hxa, hy', hyb⟩ := h.exists_pieces
    obtain rfl := Option.some.inj (hx.symm.trans hx')
    obtain rfl := Option.some.inj (hy.symm.trans hy')
    exact ⟨rfl, rfl, hxa, hyb, h.bounds⟩
  · rintro ⟨rfl, rfl, hxa, hyb, hbounds⟩
    have hside := (sides_eq_ok_iff.mp hsides).2
    exact ⟨hside, (names_iff hside.noBlankEnds.1).mpr ⟨x, hx, hxa⟩,
      (names_iff hside.noBlankEnds.2).mpr ⟨y, hy, hyb⟩, hbounds⟩

/-- A side alone is read as the region between itself and itself. -/
theorem parseRange_of_hasSides_self (hself : HasSides start.toList start.toList start.toList)
    (hne : start.toList ≠ []) :
    parseRange start sheet = between sheet start.toList start.toList := by
  refine parseRange_eq_between sheet (sides_eq_ok_iff.mpr ?_)
  rw [Text.trim_eq_self hself.noBlankEnds.1]
  exact ⟨hne, hself⟩

/-- A text whose sides are cells that can be read is read as the bounding box of both. -/
theorem boundingBox_of_parseRange (hx : read? s = some x) (hy : read? t = some y)
    (hreadx : x.IsReadable) (hready : y.IsReadable) {r : GridRange} {a m b n : ℕ}
    (h : parseRange text sheet = .ok r) (hsides : sides (Text.trim text.toList) = .ok (s, t))
    (hdenotes : Denotes text start stop (.cell a m) (.cell b n)) :
    ∃ u v, parseRange start sheet = .ok u ∧ parseRange stop sheet = .ok v ∧
      r.IsBoundingBox u v := by
  obtain ⟨rfl, rfl, hxa, hyb, -⟩ := (denotes_iff hsides hx hy).mp hdenotes
  obtain ⟨hselfx, hselfy⟩ := hdenotes.sides.self
  rw [parseRange_eq_between sheet hsides] at h
  rw [parseRange_of_hasSides_self hselfx fun hnil => not_names_nil (hnil ▸ hdenotes.start),
    parseRange_of_hasSides_self hselfy fun hnil => not_names_nil (hnil ▸ hdenotes.stop)]
  cases x with
  | column index | row run => cases hxa
  | cell letters run =>
    cases y with
    | column index | row run => cases hyb
    | cell letters' run' => exact exists_boundingBox hx hy hreadx hready h

/-- A text whose sides have bounds is read as what it denotes. -/
theorem followsText_of_haveBounds (hsides : sides (Text.trim text.toList) = .ok (s, t))
    (hx : read? s = some x) (hy : read? t = some y) (hreadx : x.IsReadable) (hready : y.IsReadable)
    {p c : ℤ} {q? d? : Option ℤ} (h : HaveBounds x y p q? c d?) : FollowsText text sheet := by
  have hside := (sides_eq_ok_iff.mp hsides).2
  have hxs := (read?_eq_some_iff hside.noBlankEnds.1).mp hx
  have hyt := (read?_eq_some_iff hside.noBlankEnds.2).mp hy
  have hparse : parseRange text sheet = GridRange.ofIndices sheet p q? c d? :=
    (parseRange_eq_between sheet hsides).trans (between_of_haveBounds hx hy hreadx hready h)
  exact
    { not_escapes := hparse ▸ GridRange.not_escapes_ofIndices
      exists_iff := by
        simp only [hparse, GridRange.exists_ofIndices_iff, ← bounds_iff hxs hyt h,
          denotes_iff hsides hx hy]
        constructor
        · intro hbounds
          exact ⟨String.ofList s, String.ofList t, x.place, y.place, String.toList_ofList,
            String.toList_ofList, rfl, rfl, hbounds⟩
        · rintro ⟨start, stop, a, b, -, -, rfl, rfl, hbounds⟩
          exact hbounds
      contains_iff := fun {r start stop a b} hr hab => by
        obtain ⟨-, -, rfl, rfl, -⟩ := (denotes_iff hsides hx hy).mp hab
        rw [hparse] at hr
        exact ⟨(GridRange.ofIndices_eq_ok_iff.mp hr).1, fun row column => by
          rw [GridRange.contains_ofIndices_iff hr, isBetween_iff hxs hyt h]⟩
      boundingBox := fun hr hab =>
        boundingBox_of_parseRange hx hy hreadx hready hr hsides hab }

/-- A text that denotes nothing is read as what it denotes if it is refused as not valid. -/
theorem followsText_of_error {e : Error} (h : parseRange text sheet = .error e)
    (he : e.category = .validation) (hnone : ∀ start stop a b, ¬ Denotes text start stop a b) :
    FollowsText text sheet where
  not_escapes := by simp [h, he]
  exists_iff := by simp [h, hnone]
  contains_iff _ hdenotes := (hnone _ _ _ _ hdenotes).elim
  boundingBox _ hdenotes := (hnone _ _ _ _ hdenotes).elim

/-- A text whose sides have no bounds denotes nothing. -/
theorem not_denotes_of_not_haveBounds (hsides : sides (Text.trim text.toList) = .ok (s, t))
    (hnone : ∀ x y p q? c d?, read? s = some x → read? t = some y → ¬ HaveBounds x y p q? c d?) :
    ¬ Denotes text start stop a b := by
  intro h
  obtain ⟨rfl, rfl⟩ := Prod.mk.inj (Except.ok.inj (hsides.symm.trans h.sides_eq_ok))
  obtain ⟨x, y, hx, rfl, hy, rfl⟩ := h.exists_pieces
  obtain ⟨p, q?, c, d?, hbounds⟩ := exists_haveBounds h.bounds
  exact hnone x y p q? c d? hx hy hbounds

/-- Every text is read as what it denotes, unless one of its runs of digits is too long for a whole
number to be read from it. -/
theorem followsText_or_tooLong (text : String) (sheet : Json) :
    FollowsText text sheet ∨ ∃ digits n, digits <:+: text.toList ∧ Text.IsNumeral digits n ∧
      Decimal.isReadable digits.length = false ∧
        parseRange text sheet = .error (.numeralTooLong digits.length) := by
  rcases hsides : sides (Text.trim text.toList) with e | ⟨s, t⟩
  · have hparse : parseRange text sheet = .error e := by rw [parseRange, hsides, error_bind]
    have he : e.category = .validation := by
      by_contra he
      exact not_escapes_sides ⟨e, hsides, he⟩
    refine Or.inl (followsText_of_error hparse he fun start stop a b h => ?_)
    cases hsides.symm.trans h.sides_eq_ok
  have hside := (sides_eq_ok_iff.mp hsides).2
  have hparse := parseRange_eq_between sheet hsides
  rcases between_cases sheet s t with ⟨x, y, p, q?, c, d?, hx, hy, hreadx, hready, h⟩ |
    ⟨hnone, side, herror⟩ | ⟨side, x, run, hst, hx, hrun, hlong, herror⟩
  · exact Or.inl (followsText_of_haveBounds hsides hx hy hreadx hready h)
  · exact Or.inl (followsText_of_error (hparse.trans herror) rfl fun _ _ _ _ =>
      not_denotes_of_not_haveBounds hsides hnone)
  · right
    have hof : x.IsOf side ∧ side <:+: Text.trim text.toList := by
      rcases hst with rfl | rfl
      · exact ⟨(read?_eq_some_iff hside.noBlankEnds.1).mp hx, hside.isInfix.1⟩
      · exact ⟨(read?_eq_some_iff hside.noBlankEnds.2).mp hx, hside.isInfix.2⟩
    obtain ⟨digits, hdigits, hnumeral, hcount⟩ := hof.1.exists_digits hrun
    rw [hcount] at hlong herror
    exact ⟨digits, run.value, hdigits.trans (hof.2.trans (Text.isInfix_trim _)), hnumeral, hlong,
      hparse.trans herror⟩

end Reading

end SheetSchema.A1
