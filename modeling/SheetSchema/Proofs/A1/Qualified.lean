import Mathlib
import SheetSchema.A1.Qualified
import SheetSchema.Proofs.A1.Cell

/-!
# Sheet names in front of ranges

Unquoting undoes quoting (`unquoteSheet_quoteTrimmed`), so two sheet names that stand alike before
the separator are the same (`quoteTrimmed_injective`). A written range is normalized already, and
taken apart it gives the trimmed sheet name, unless that name holds the separator
(`split_normalize_range`). No sheet name that is split off holds it (`not_mem_of_split`). The only
row that a range cannot be written with is one of too many digits (`rangeOf_eq_ok_iff`).
-/

namespace SheetSchema.A1

/-! ## Quoting -/

theorem undouble_cons_of_ne {c : Char} (h : c ≠ '\'') (s : List Char) :
    undouble (c :: s) = c :: undouble s := by
  rw [undouble]
  intro rest hc _
  exact h hc

@[simp] theorem undouble_double (s : List Char) : undouble (double s) = s := by
  induction s with
  | nil => rfl
  | cons c s ih =>
    rw [double, List.flatMap_cons, ← double]
    split
    · next hc =>
      subst hc
      exact congrArg (sheetQuote :: ·) ih
    · next hc =>
      rw [List.singleton_append, undouble_cons_of_ne hc, ih]

theorem mem_double_iff {s : List Char} {c : Char} : c ∈ double s ↔ c ∈ s := by
  rw [double, List.mem_flatMap]
  constructor
  · rintro ⟨d, hd, hc⟩
    split at hc
    · obtain rfl : c = d := by simpa using hc
      exact hd
    · obtain rfl : c = d := by simpa using hc
      exact hd
  · intro hc
    refine ⟨c, hc, ?_⟩
    split <;> simp

theorem isBlank_of_isPlain {c : Char} (h : isPlain c = true) : Text.isBlank c = false := by
  rcases (Bool.or_eq_true _ _).mp h with h | h
  · exact Text.isBlank_of_isAlphanum h
  · obtain rfl : c = '_' := by simpa using h
    decide

/-- Unquoting undoes quoting. -/
@[simp] theorem unquoteSheet_quoteTrimmed (s : List Char) : unquoteSheet (quoteTrimmed s) = s := by
  unfold quoteTrimmed
  split
  · next hplain =>
    apply unquoteSheet_eq_self
    rw [← Bool.not_eq_true, isQuotedBy_iff]
    rintro ⟨t, rfl⟩
    have := List.all_eq_true.mp hplain sheetQuote (by simp)
    revert this
    decide
  · rw [unquoteSheet_quoted, undouble_double]

theorem quoteTrimmed_injective : Function.Injective quoteTrimmed :=
  Function.LeftInverse.injective unquoteSheet_quoteTrimmed

theorem quoteTrimmed_ne_nil {s : List Char} (h : s ≠ []) : quoteTrimmed s ≠ [] := by
  intro hnil
  have := unquoteSheet_quoteTrimmed s
  rw [hnil] at this
  exact h this.symm

theorem not_mem_quoteTrimmed {s : List Char} (h : '!' ∉ s) : '!' ∉ quoteTrimmed s := by
  unfold quoteTrimmed
  split
  · exact h
  · simp [mem_double_iff, h, sheetQuote]

/-- A text in quotes has no blank at its ends. -/
theorem noBlankEnds_of_isQuotedBy {quote : Char} (hquote : Text.isBlank quote = false)
    {s : List Char} (h : Text.isQuotedBy quote s = true) : Text.NoBlankEnds s := by
  obtain ⟨t, rfl⟩ := isQuotedBy_iff.mp h
  constructor
  · intro c hc
    obtain rfl : quote = c := by simpa using hc
    exact hquote
  · intro c hc
    rw [List.getLast?_concat, Option.mem_some_iff] at hc
    exact hc ▸ hquote

/-- Only the ends of a text matter, whatever stands between them. -/
theorem noBlankEnds_append {before after : List Char}
    (hbefore : ∀ c ∈ before.head?, Text.isBlank c = false)
    (hafter : ∀ c ∈ after.getLast?, Text.isBlank c = false) (hne : before ≠ []) (hne' : after ≠ [])
    (s : List Char) : Text.NoBlankEnds (before ++ s ++ after) := by
  constructor
  · rwa [List.append_assoc, List.head?_append_of_ne_nil _ hne]
  · rwa [List.getLast?_append_of_ne_nil _ hne']

/-- A sheet name before the separator has no blank at its ends. -/
theorem noBlankEnds_quoteTrimmed (s : List Char) : Text.NoBlankEnds (quoteTrimmed s) := by
  unfold quoteTrimmed
  split
  · next hplain =>
    have hall := List.all_eq_true.mp hplain
    exact ⟨fun c hc => isBlank_of_isPlain (hall c (List.mem_of_head? hc)),
      fun c hc => isBlank_of_isPlain (hall c (List.mem_of_getLast? hc))⟩
  · exact noBlankEnds_of_isQuotedBy (by decide) (isQuotedBy_iff.mpr ⟨double s, rfl⟩)

/-- Before the separator stands a quote or a character that needs none. -/
theorem getLast?_quoteTrimmed_ne {s : List Char} {c : Char} (hplain : isPlain c = false)
    (hquote : c ≠ sheetQuote) : (quoteTrimmed s).getLast? ≠ some c := by
  unfold quoteTrimmed
  split
  · next hall =>
    intro hlast
    rw [List.all_eq_true.mp hall c (List.mem_of_getLast? hlast)] at hplain
    cases hplain
  · rw [List.getLast?_concat]
    exact fun h => hquote (Option.some.inj h).symm

/-! ## Normalizing what was written -/

theorem unescapeSeparator_of_not_mem {s : List Char} (h : '!' ∉ s) : unescapeSeparator s = s := by
  fun_induction unescapeSeparator s with
  | case1 rest ih => simp at h
  | case2 c rest _ ih =>
    simp only [List.mem_cons, not_or] at h
    rw [ih h.2]
  | case3 => rfl

/-- A separator that no backslash precedes is not escaped. -/
theorem unescapeSeparator_append {before after : List Char} (hbefore : '!' ∉ before)
    (hafter : '!' ∉ after) (hlast : before.getLast? ≠ some '\\') :
    unescapeSeparator (before ++ '!' :: after) = before ++ '!' :: after := by
  induction before with
  | nil =>
    rw [List.nil_append, unescapeSeparator]
    · rw [unescapeSeparator_of_not_mem hafter]
    · simp
  | cons c before ih =>
    simp only [List.mem_cons, not_or] at hbefore
    rw [List.cons_append, unescapeSeparator]
    · rw [ih hbefore.2]
      intro h
      cases before with
      | nil => simp at h
      | cons d before => simp [List.getLast?_cons_cons, h] at hlast
    · rintro rest rfl hrest
      cases before with
      | nil => simp at hlast
      | cons d before =>
        obtain ⟨rfl, -⟩ := List.cons.inj hrest
        simp at hbefore

/-- Characters of cells that are written in a range. -/
def isCellChar (c : Char) : Bool := c.isAlphanum || c == ':'

theorem isBlank_of_isCellChar {c : Char} (h : isCellChar c = true) : Text.isBlank c = false := by
  rcases (Bool.or_eq_true _ _).mp h with h | h
  · exact Text.isBlank_of_isAlphanum h
  · obtain rfl : c = ':' := by simpa using h
    decide

theorem ne_of_isCellChar {c d : Char} (h : isCellChar c = true) (hd : isCellChar d = false) :
    c ≠ d := by
  rintro rfl
  rw [h] at hd
  cases hd

variable {cells : List Char}

theorem noBlankEnds_of_isCellChar (hall : ∀ c ∈ cells, isCellChar c = true) :
    Text.NoBlankEnds cells :=
  ⟨fun c hc => isBlank_of_isCellChar (hall c (List.mem_of_head? hc)),
    fun c hc => isBlank_of_isCellChar (hall c (List.mem_of_getLast? hc))⟩

theorem not_mem_of_isCellChar (hall : ∀ c ∈ cells, isCellChar c = true) {d : Char}
    (hd : isCellChar d = false) : d ∉ cells :=
  fun hmem => ne_of_isCellChar (hall d hmem) hd rfl

/-- What has a sheet name in front keeps its quotes: those around the name close before the
separator, and a name without quotes starts with none. -/
theorem normalizeChars_of_unescape {raw name : List Char} (hgiven : name ≠ []) (hne : cells ≠ [])
    (hs : unescapeSeparator (Text.trim raw) = quoteTrimmed name ++ '!' :: cells) :
    normalizeChars raw = quoteTrimmed name ++ '!' :: cells := by
  rw [normalizeChars, hs]
  by_cases hplain : name.all isPlain = true
  · obtain ⟨c, rest, rfl⟩ := List.exists_cons_of_ne_nil hgiven
    have hc : isPlain c = true := List.all_eq_true.mp hplain c List.mem_cons_self
    rw [quoteTrimmed, if_pos hplain]
    dsimp only [List.cons_append, List.head?_cons]
    split
    · next h =>
      obtain rfl := Option.some.inj h
      cases hc
    · next h =>
      obtain rfl := Option.some.inj h
      cases hc
    · rfl
  · have hoccurs :
        Text.occursIn ['\'', '!'] (quoteTrimmed name ++ '!' :: cells).dropLast = true := by
      rw [Text.occursIn_iff, quoteTrimmed, if_neg hplain,
        List.dropLast_append_of_ne_nil (List.cons_ne_nil _ _), List.dropLast_cons_of_ne_nil hne]
      exact ⟨sheetQuote :: double name, cells.dropLast, by simp [sheetQuote]⟩
    have hhead : (quoteTrimmed name ++ '!' :: cells).head? = some '\'' := by
      rw [quoteTrimmed, if_neg hplain]
      rfl
    simp only [hhead, unwrap, hoccurs, Bool.not_true, Bool.and_false]
    rfl

/-- A range that was written is normalized already. -/
theorem normalizeChars_range (hne : cells ≠ []) (hall : ∀ c ∈ cells, isCellChar c = true)
    {name : List Char} (hname : '!' ∉ name) (hgiven : name ≠ []) :
    normalizeChars (quoteTrimmed name ++ '!' :: cells) = quoteTrimmed name ++ '!' :: cells := by
  have hends : Text.NoBlankEnds (quoteTrimmed name ++ '!' :: cells) := by
    rw [List.append_cons]
    exact noBlankEnds_append (noBlankEnds_quoteTrimmed name).1 (noBlankEnds_of_isCellChar hall).2
      (quoteTrimmed_ne_nil hgiven) hne _
  refine normalizeChars_of_unescape hgiven hne ?_
  rw [Text.trim_eq_self hends, unescapeSeparator_append (not_mem_quoteTrimmed hname)
    (not_mem_of_isCellChar hall (by decide)) (getLast?_quoteTrimmed_ne (by decide) (by decide))]

theorem toList_range (sheet first last : String) : (range sheet first last).toList =
    sheet.toList ++ '!' :: (first.toList ++ ':' :: last.toList) := by
  have hrange : range sheet first last = sheet ++ "!" ++ first ++ ":" ++ last := rfl
  simp [hrange]

/-- A written range is taken apart into the trimmed sheet name and the cells. -/
theorem split_normalize_range {sheet first last : String} (hname : '!' ∉ Text.trim sheet.toList)
    (hgiven : Text.trim sheet.toList ≠ [])
    (hall : ∀ c ∈ first.toList ++ ':' :: last.toList, isCellChar c = true) :
    split (normalize (range (quoteSheet sheet) first last)) =
      .ok (trimmed sheet, first ++ ":" ++ last) := by
  have htext : (range (quoteSheet sheet) first last).toList =
      quoteTrimmed (Text.trim sheet.toList) ++ '!' :: (first.toList ++ ':' :: last.toList) := by
    rw [toList_range, quoteSheet, String.toList_ofList]
  have hcells : first.toList ++ ':' :: last.toList ≠ [] := by simp
  rw [split, normalize, String.toList_ofList, htext,
    normalizeChars_range hcells hall hname hgiven, splitChars,
    Text.breakOn?_append (not_mem_quoteTrimmed hname)]
  simp only [Text.trim_eq_self (noBlankEnds_quoteTrimmed _), unquoteSheet_quoteTrimmed,
    Text.trim_eq_self (noBlankEnds_of_isCellChar hall)]
  rw [if_neg (by simp [hgiven])]
  simp only [Except.map, trimmed]
  refine congrArg (fun cells => Except.ok (_, cells)) (String.toList_injective ?_)
  simp

/-- A range that is taken apart has a sheet name before its first separator and cells behind it. -/
theorem of_splitChars {s sheet cells : List Char} (h : splitChars s = .ok (sheet, cells)) :
    ∃ before after, Text.breakOn? ['!'] s = some (before, after) ∧
      sheet = unquoteSheet (Text.trim before) ∧ cells = Text.trim after ∧ sheet ≠ [] ∧
      cells ≠ [] := by
  unfold splitChars at h
  split at h
  · cases h
  · next before after hcut =>
    simp only at h
    split at h
    · cases h
    · next hgiven =>
      obtain ⟨rfl, rfl⟩ := Prod.mk.inj (Except.ok.inj h)
      simp only [Bool.or_eq_true, List.isEmpty_iff, not_or] at hgiven
      exact ⟨before, after, hcut, rfl, rfl, hgiven⟩

theorem of_split {text sheet cells : String} (h : split text = .ok (sheet, cells)) :
    splitChars text.toList = .ok (sheet.toList, cells.toList) := by
  obtain ⟨⟨before, after⟩, hsplit, heq⟩ := map_eq_ok.mp h
  obtain ⟨rfl, rfl⟩ := Prod.mk.inj heq
  rw [hsplit, String.toList_ofList, String.toList_ofList]

/-- No sheet name that is split off a range is empty. -/
theorem ne_empty_of_split {text sheet cells : String} (h : split text = .ok (sheet, cells)) :
    sheet ≠ "" := by
  obtain ⟨before, after, -, -, -, hgiven, -⟩ := of_splitChars (of_split h)
  rintro rfl
  exact hgiven rfl

/-- No sheet name that is split off a range holds the separator. -/
theorem not_mem_of_split {text sheet cells : String} (h : split text = .ok (sheet, cells)) :
    '!' ∉ sheet.toList := by
  obtain ⟨before, after, hcut, hsheet, -⟩ := of_splitChars (of_split h)
  rw [hsheet]
  intro hmem
  exact (Text.of_breakOn? hcut).2 (Text.mem_of_mem_trim (mem_of_mem_unquoteSheet hmem))

/-! ## Writing ranges -/

/-- A corner is written if its row can be. -/
theorem corner_eq_ok_iff {column text : String} {row : Int} :
    corner column row = .ok text ↔
      Decimal.isWritable row = true ∧ text = column ++ toString row := by
  unfold corner writeInt
  cases Decimal.isWritable row <;> simp [eq_comm]

theorem corner_natCast {n : Nat} (h : Decimal.isWritable n = true) (column : String) :
    corner column n = .ok (column ++ String.ofList (Text.digitsOf n)) :=
  corner_eq_ok_iff.mpr ⟨h, rfl⟩

theorem corner_of_not_isWritable {row : Int} (h : Decimal.isWritable row = false)
    (column : String) : corner column row = .error .numberTooLong := by
  rw [corner, writeInt, h]
  rfl

section RangeOf

variable {sheet first last text : String} {row : Int} {last? : Option Int} {quote : Bool}

/-- A range is written if its rows can be, from the first cell to the last column or cell. -/
theorem rangeOf_eq_ok_iff : rangeOf sheet first row last last? quote = .ok text ↔
    Decimal.isWritable row = true ∧ (∀ n ∈ last?, Decimal.isWritable n = true) ∧
      text = range (sheetPart sheet quote) (first ++ toString row)
        (last ++ last?.elim "" toString) := by
  cases last? with
  | none =>
    simp only [rangeOf, bind_eq_ok, pure_eq_ok, corner_eq_ok_iff, Option.elim_none,
      String.append_empty]
    constructor
    · rintro ⟨_, ⟨hrow, rfl⟩, _, rfl, rfl⟩
      exact ⟨hrow, by simp, rfl⟩
    · rintro ⟨hrow, -, rfl⟩
      exact ⟨_, ⟨hrow, rfl⟩, _, rfl, rfl⟩
  | some n =>
    simp only [rangeOf, bind_eq_ok, pure_eq_ok, corner_eq_ok_iff, Option.elim_some]
    constructor
    · rintro ⟨_, ⟨hrow, rfl⟩, _, ⟨hn, rfl⟩, rfl⟩
      exact ⟨hrow, by simpa using hn, rfl⟩
    · rintro ⟨hrow, hn, rfl⟩
      exact ⟨_, ⟨hrow, rfl⟩, _, ⟨hn n rfl, rfl⟩, rfl⟩

theorem rangeOf_of_not_isWritable (h : Decimal.isWritable row = false)
    (sheet first last : String) (last? : Option Int) (quote : Bool) :
    rangeOf sheet first row last last? quote = .error .numberTooLong := by
  rw [rangeOf, corner_of_not_isWritable h, error_bind]

/-- A range that is written has a first row that can be. -/
theorem isWritable_of_rangeOf (h : rangeOf sheet first row last last? quote = .ok text) :
    Decimal.isWritable row = true :=
  (rangeOf_eq_ok_iff.mp h).1

end RangeOf

/-- A range without end is written if its first row can be. -/
theorem rangeOf_open {row : Nat} (h : Decimal.isWritable row = true) (sheet first last : String)
    (quote : Bool) : rangeOf sheet first row last none quote =
      .ok (range (sheetPart sheet quote) (first ++ String.ofList (Text.digitsOf row)) last) := by
  refine rangeOf_eq_ok_iff.mpr ⟨h, by simp, ?_⟩
  rw [Option.elim_none, String.append_empty, toString_natCast]

/-- A range within one row is written if the row can be. -/
theorem rangeOf_row {row : Nat} (h : Decimal.isWritable row = true) (sheet first last : String)
    (quote : Bool) : rangeOf sheet first row last (some row) quote =
      .ok (range (sheetPart sheet quote) (first ++ String.ofList (Text.digitsOf row))
        (last ++ String.ofList (Text.digitsOf row))) :=
  rangeOf_eq_ok_iff.mpr ⟨h, by simpa using h, rfl⟩

end SheetSchema.A1
