import Mathlib
import SheetSchema.Proofs.Json.Access
import SheetSchema.Proofs.Json.Numerals
import SheetSchema.Proofs.Json.Strings

/-!
# Values read back

A plain value (`Json.Plain`) is made of texts, truth values, whole numbers that may be written,
lists and objects of distinct keys. It is read back as it was written, in every layout that indents
by blanks (`JsonLayout.IsBlank`): so what a document means does not depend on its layout
(`Json.parse_render`).

The proof follows the value. Each part is read back whatever comes after it, as long as nothing
continues a numeral (`Json.ReadsBack`), and the parts of a container are read back one after the
other (`Json.readItems_write`, `Json.readEntries_write`).
-/

namespace SheetSchema

/-- The layout indents by nothing but blanks, if it indents at all. -/
def JsonLayout.IsBlank (layout : JsonLayout) : Prop :=
  ∀ unit ∈ layout.indent, ∀ c ∈ unit.toList, Json.isSpace c = true

/-- A value indents by blanks unless it is a text of other characters. -/
theorem JsonLayout.isBlank_of_indentOf? {given : Json} {indent : Option String} {ascii : Bool}
    (h : indentOf? given = some indent)
    (hgiven : ∀ s, given = .str s → ∀ c ∈ s.toList, Json.isSpace c = true) :
    JsonLayout.IsBlank ⟨indent, ascii⟩ := by
  cases given with
  | null =>
    obtain rfl := Option.some.inj h
    simp [IsBlank]
  | str s =>
    obtain rfl := Option.some.inj h
    rintro _ ⟨rfl⟩
    exact hgiven s rfl
  | int n =>
    obtain rfl := Option.some.inj h
    rintro _ ⟨rfl⟩ c hc
    rw [String.toList_ofList] at hc
    rw [List.eq_of_mem_replicate hc]
    rfl
  | bool b =>
    obtain rfl := Option.some.inj h
    cases b <;> simp [IsBlank, Json.isSpace]
  | _ => cases h

namespace Json

/-- A value of texts, truth values, whole numbers that may be written, lists and objects of distinct
keys, with containers nested at most so deep. -/
inductive Plain : Nat → Json → Prop
  | null {d : Nat} : Plain d .null
  | bool {d : Nat} (b : Bool) : Plain d (.bool b)
  | int {d : Nat} {n : Int} (h : Decimal.isWritable n = true) : Plain d (.int n)
  | str {d : Nat} (s : String) : Plain d (.str s)
  | arr {d : Nat} {items : List Json} (h : ∀ v ∈ items, Plain d v) : Plain (d + 1) (.arr items)
  | obj {d : Nat} {entries : Entries Json} (hkeys : entries.keys.Nodup)
      (h : ∀ e ∈ entries, Plain d e.2) : Plain (d + 1) (.obj entries)

/-! ## Blanks -/

theorem skipSpace_append {gap : List Char} (h : ∀ c ∈ gap, isSpace c = true) (rest : List Char) :
    skipSpace (gap ++ rest) = skipSpace rest :=
  List.dropWhile_append_of_pos h

theorem skipSpace_cons {c : Char} (h : isSpace c = false) (rest : List Char) :
    skipSpace (c :: rest) = c :: rest :=
  List.dropWhile_cons_of_neg (by simp [h])

variable {layout : JsonLayout}

theorem isSpace_lineBreak (hblank : layout.IsBlank) (level : Nat) :
    ∀ c ∈ lineBreak layout level, isSpace c = true := by
  intro c hc
  unfold lineBreak at hc
  split at hc
  · next unit hunit =>
    rcases List.mem_cons.mp hc with rfl | hc
    · rfl
    · obtain ⟨part, hpart, hc⟩ := List.mem_flatten.mp hc
      rw [List.eq_of_mem_replicate hpart] at hc
      exact hblank unit hunit c hc
  · cases hc

theorem exists_partSeparator (hblank : layout.IsBlank) (level : Nat) :
    ∃ gap, partSeparator layout level = ',' :: gap ∧ ∀ c ∈ gap, isSpace c = true := by
  unfold partSeparator
  split
  · exact ⟨_, rfl, isSpace_lineBreak hblank level⟩
  · exact ⟨[' '], rfl, by simp [isSpace]⟩

theorem endsNumeral_cons {c : Char} (h : c ∈ [',', '\n', ']', '\x7d']) (rest : List Char) :
    EndsNumeral (c :: rest) := by
  rintro d ⟨rfl⟩
  revert c
  simp

theorem endsNumeral_lineBreak {c : Char} (h : c ∈ [']', '\x7d']) (level : Nat) (rest : List Char) :
    EndsNumeral (lineBreak layout level ++ c :: rest) := by
  unfold lineBreak
  split
  · exact endsNumeral_cons (by simp) _
  · exact endsNumeral_cons (by simp at h ⊢; tauto) _

/-! ## Values -/

/-- The text starts with a character that starts a value. -/
def StartsValue (s : List Char) : Prop :=
  ∃ c rest, s = c :: rest ∧ isSpace c = false ∧ c ≠ ']' ∧ c ≠ '\uFEFF'

theorem startsValue_cons {c : Char} (hc : isSpace c = false ∧ c ≠ ']' ∧ c ≠ '\uFEFF')
    (rest : List Char) : StartsValue (c :: rest) :=
  ⟨c, rest, rfl, hc⟩

theorem StartsValue.skipSpace {s : List Char} (h : StartsValue s) (rest : List Char) :
    skipSpace (s ++ rest) = s ++ rest := by
  obtain ⟨c, t, rfl, hspace, -⟩ := h
  exact skipSpace_cons hspace _

/-- The value is read back as it was written, at every level and whatever comes after it. Three
steps for each character of the text are enough. -/
structure ReadsBack (layout : JsonLayout) (depth : Nat) (v : Json) : Prop where
  starts : ∀ level, StartsValue (write layout level v)
  reads : ∀ level fuel rest, EndsNumeral rest → 3 * (write layout level v).length ≤ fuel + 1 →
    readValue (fuel + 1) depth (write layout level v ++ rest) = .ok (v, rest)

variable {depth : Nat}

theorem ReadsBack.readValue_write {v : Json} (h : ReadsBack layout depth v) {level fuel : Nat}
    {rest : List Char} (hends : EndsNumeral rest)
    (hfuel : 3 * (write layout level v).length ≤ fuel) :
    readValue fuel depth (write layout level v ++ rest) = .ok (v, rest) := by
  obtain ⟨c, t, hstart, -⟩ := h.starts level
  have hlength : 0 < (write layout level v).length := by rw [hstart]; exact Nat.succ_pos _
  obtain ⟨fuel, rfl⟩ : ∃ f, fuel = f + 1 := Nat.exists_eq_add_one.mpr (by omega)
  exact h.reads level fuel rest hends hfuel

/-! ### Values without parts -/

theorem readsBack_null : ReadsBack layout depth .null where
  starts _ := startsValue_cons (by decide) _
  reads _ _ _ _ _ := by simp [write, readValue, readScalar, readWord, words]

theorem readsBack_bool (b : Bool) : ReadsBack layout depth (.bool b) where
  starts _ := by cases b <;> exact startsValue_cons (by decide) _
  reads _ _ _ _ _ := by cases b <;> simp [write, readValue, readScalar, readWord, words]

theorem readsBack_str (s : String) : ReadsBack layout depth (.str s) where
  starts _ := startsValue_cons (by decide) _
  reads _ _ _ _ _ := by simp [write, stringText, readValue, readString_flatMap, Except.map]

theorem readValue_eq_readScalar {c : Char} (hc : c ∉ ['"', '[', '\x7b']) (fuel : Nat)
    (rest : List Char) : readValue (fuel + 1) depth (c :: rest) = readScalar (c :: rest) := by
  simp only [List.mem_cons, List.not_mem_nil, or_false, not_or] at hc
  simp [readValue, hc]

theorem readsBack_int {n : Int} (h : Decimal.isWritable n = true) :
    ReadsBack layout depth (.int n) := by
  obtain ⟨c, t, hwritten, hc⟩ := exists_toString_start n
  constructor
  · refine fun _ => ⟨c, t, hwritten, ?_, hc ']' (by decide) rfl, hc '\uFEFF' (by decide) rfl⟩
    simp [isSpace, hc ' ' (by decide) rfl, hc '\t' (by decide) rfl, hc '\n' (by decide) rfl,
      hc '\r' (by decide) rfl]
  · intro level fuel rest hends _
    have hscalar : c ∉ ['"', '[', '\x7b'] := by
      simp [hc '"' (by decide) rfl, hc '[' (by decide) rfl, hc '\x7b' (by decide) rfl]
    rw [← readScalar_toString hends h, write, hwritten]
    exact readValue_eq_readScalar hscalar fuel _

/-! ### Lists -/

section Steps

variable {fuel : Nat} {s tail rest : List Char} {item : Json}

theorem readItems_last (hread : readValue fuel depth s = .ok (item, tail))
    (htail : skipSpace tail = ']' :: rest) : readItems (fuel + 1) depth s = .ok ([item], rest) := by
  rw [readItems, hread, ok_bind]
  simp only [htail]

theorem readItems_next {more : List Char} {items : List Json}
    (hread : readValue fuel depth s = .ok (item, tail)) (htail : skipSpace tail = ',' :: more)
    (hmore : readItems fuel depth (skipSpace more) = .ok (items, rest)) :
    readItems (fuel + 1) depth s = .ok (item :: items, rest) := by
  rw [readItems, hread, ok_bind]
  simp only [htail, hmore, ok_bind]

theorem readList_of_startsValue (hs : StartsValue s) (hrest : skipSpace rest = s ++ tail)
    (start : List Char) :
    readList (fuel + 1) (depth + 1) start rest = readItems fuel depth (s ++ tail) := by
  obtain ⟨c, t, rfl, -, hbracket, -⟩ := hs
  rw [readList, hrest]
  simp [hbracket]

end Steps

/-- The items of a list are read back up to its bracket. -/
theorem readItems_write (hblank : layout.IsBlank) (level : Nat) {tail rest : List Char}
    (hends : EndsNumeral tail) (htail : skipSpace tail = ']' :: rest) (items : List Json) :
    ∀ (item : Json) (fuel : Nat), (∀ v ∈ item :: items, ReadsBack layout depth v) →
      3 * (write layout level item).length + 3 * (writeItems layout level items).length < fuel →
      readItems fuel depth (write layout level item ++ (writeItems layout level items ++ tail)) =
        .ok (item :: items, rest) := by
  induction items with
  | nil =>
    intro item fuel hback hfuel
    obtain ⟨fuel, rfl⟩ : ∃ f, fuel = f + 1 := Nat.exists_eq_add_one.mpr (by omega)
    have hitem := hback item List.mem_cons_self
    exact readItems_last (hitem.readValue_write hends (by omega)) htail
  | cons next items ih =>
    intro item fuel hback hfuel
    obtain ⟨fuel, rfl⟩ : ∃ f, fuel = f + 1 := Nat.exists_eq_add_one.mpr (by omega)
    have hitem := hback item List.mem_cons_self
    have hnext := (hback next (by simp)).starts level
    obtain ⟨gap, hgap, hspace⟩ := exists_partSeparator hblank level
    have htext : writeItems layout level (next :: items) ++ tail =
        ',' :: (gap ++ (write layout level next ++ (writeItems layout level items ++ tail))) := by
      simp [writeItems, hgap]
    have hlength := congrArg List.length htext
    simp only [List.length_append, List.length_cons] at hlength
    rw [htext]
    refine readItems_next (hitem.readValue_write (endsNumeral_cons (by simp) _) (by omega))
      (skipSpace_cons rfl _) ?_
    rw [skipSpace_append hspace, hnext.skipSpace]
    exact ih next fuel (fun v hv => hback v (List.mem_cons_of_mem item hv)) (by omega)

theorem readsBack_arr (hblank : layout.IsBlank) {items : List Json}
    (h : ∀ v ∈ items, ReadsBack layout depth v) : ReadsBack layout (depth + 1) (.arr items) := by
  cases items with
  | nil =>
    refine ⟨fun _ => startsValue_cons (by decide) _, fun level fuel rest _ hfuel => ?_⟩
    have hlength : (write layout level (.arr [])).length = 2 := rfl
    obtain ⟨fuel, rfl⟩ : ∃ f, fuel = f + 2 := Nat.exists_eq_add_of_le' (by omega)
    simp [write, readValue, readList, skipSpace_cons (c := ']') rfl, Except.map]
  | cons item items =>
    refine ⟨fun _ => startsValue_cons (by decide) _, fun level fuel rest _ hfuel => ?_⟩
    have htext : write layout level (.arr (item :: items)) ++ rest =
      '[' :: (lineBreak layout (level + 1) ++ (write layout (level + 1) item ++
        (writeItems layout (level + 1) items ++ (lineBreak layout level ++ ']' :: rest)))) := by
      simp [write]
    have hlength := congrArg List.length htext
    simp only [List.length_append, List.length_cons] at hlength
    obtain ⟨fuel, rfl⟩ : ∃ f, fuel = f + 2 := Nat.exists_eq_add_of_le' (by omega)
    have hitem := (h item List.mem_cons_self).starts (level + 1)
    have htail : skipSpace (lineBreak layout level ++ ']' :: rest) = ']' :: rest := by
      rw [skipSpace_append (isSpace_lineBreak hblank level), skipSpace_cons rfl]
    have hitems := readItems_write hblank (level + 1) (endsNumeral_lineBreak (by simp) level rest)
      htail items item (fuel + 1) h (by omega)
    rw [htext, readValue, readList_of_startsValue hitem, hitems]
    · rfl
    · rw [skipSpace_append (isSpace_lineBreak hblank (level + 1)), hitem.skipSpace]

/-! ### Objects -/

/-- The text of an entry. -/
def writeEntry (layout : JsonLayout) (level : Nat) (e : String × Json) : List Char :=
  stringText layout.ascii e.1 ++ ':' :: ' ' :: write layout level e.2

section Steps

variable {fuel : Nat} {s tail rest : List Char} {value : Json}

theorem stringText_append (ascii : Bool) (key : String) (rest : List Char) :
    stringText ascii key ++ rest =
      '"' :: (key.toList.flatMap (stringChar ascii) ++ '"' :: rest) := by
  simp [stringText]

theorem readEntries_last (ascii : Bool) (key : String) (hs : skipSpace s = s)
    (hread : readValue fuel depth s = .ok (value, tail)) (htail : skipSpace tail = '\x7d' :: rest) :
    readEntries (fuel + 1) depth (stringText ascii key ++ ':' :: ' ' :: s) =
      .ok ([(key, value)], rest) := by
  have hgap : skipSpace (' ' :: s) = s := hs
  rw [stringText_append, readEntries, readString_flatMap, ok_bind]
  simp only [skipSpace_cons (c := ':') rfl, hgap, hread, ok_bind, htail]

theorem readEntries_next (ascii : Bool) (key : String) {more : List Char} {entries : Entries Json}
    (hs : skipSpace s = s) (hread : readValue fuel depth s = .ok (value, tail))
    (htail : skipSpace tail = ',' :: more)
    (hmore : readEntries fuel depth (skipSpace more) = .ok (entries, rest)) :
    readEntries (fuel + 1) depth (stringText ascii key ++ ':' :: ' ' :: s) =
      .ok ((key, value) :: entries, rest) := by
  have hgap : skipSpace (' ' :: s) = s := hs
  rw [stringText_append, readEntries, readString_flatMap, ok_bind]
  simp only [skipSpace_cons (c := ':') rfl, hgap, hread, ok_bind, htail, hmore]

theorem readObject_writeEntry {level : Nat} {e : String × Json}
    (hrest : skipSpace rest = writeEntry layout level e ++ tail) (start : List Char) :
    readObject (fuel + 1) (depth + 1) start rest =
      readEntries fuel depth (writeEntry layout level e ++ tail) := by
  rw [readObject, hrest]
  rfl

end Steps

theorem skipSpace_writeEntry (level : Nat) (e : String × Json) (rest : List Char) :
    skipSpace (writeEntry layout level e ++ rest) = writeEntry layout level e ++ rest :=
  skipSpace_cons rfl _

theorem writeEntry_append (level : Nat) (key : String) (value : Json) (rest : List Char) :
    writeEntry layout level (key, value) ++ rest =
      stringText layout.ascii key ++ ':' :: ' ' :: (write layout level value ++ rest) := by
  simp [writeEntry]

theorem length_writeEntry (layout : JsonLayout) (level : Nat) (key : String) (value : Json) :
    (write layout level value).length < (writeEntry layout level (key, value)).length := by
  simp [writeEntry]
  omega

/-- The entries of an object are read back up to its brace. -/
theorem readEntries_write (hblank : layout.IsBlank) (level : Nat) {tail rest : List Char}
    (hends : EndsNumeral tail) (htail : skipSpace tail = '\x7d' :: rest) (entries : Entries Json) :
    ∀ (e : String × Json) (fuel : Nat), (∀ e' ∈ e :: entries, ReadsBack layout depth e'.2) →
      3 * (writeEntry layout level e).length + 3 * (writeEntries layout level entries).length <
        fuel →
      readEntries fuel depth
          (writeEntry layout level e ++ (writeEntries layout level entries ++ tail)) =
        .ok (e :: entries, rest) := by
  induction entries with
  | nil =>
    rintro ⟨key, value⟩ fuel hback hfuel
    obtain ⟨fuel, rfl⟩ : ∃ f, fuel = f + 1 := Nat.exists_eq_add_one.mpr (by omega)
    have hvalue : ReadsBack layout depth value := hback _ List.mem_cons_self
    have hlength := length_writeEntry layout level key value
    rw [writeEntry_append]
    exact readEntries_last _ _ ((hvalue.starts level).skipSpace tail)
      (hvalue.readValue_write hends (by omega)) htail
  | cons next entries ih =>
    rintro ⟨key, value⟩ fuel hback hfuel
    obtain ⟨fuel, rfl⟩ : ∃ f, fuel = f + 1 := Nat.exists_eq_add_one.mpr (by omega)
    have hvalue : ReadsBack layout depth value := hback _ List.mem_cons_self
    obtain ⟨gap, hgap, hspace⟩ := exists_partSeparator hblank level
    have htext : writeEntries layout level (next :: entries) ++ tail =
        ',' :: (gap ++ (writeEntry layout level next ++
          (writeEntries layout level entries ++ tail))) := by
      simp [writeEntries, writeEntry, hgap]
    have hlengths := congrArg List.length htext
    simp only [List.length_append, List.length_cons] at hlengths
    have hlength := length_writeEntry layout level key value
    rw [htext, writeEntry_append]
    refine readEntries_next _ _ ((hvalue.starts level).skipSpace _)
      (hvalue.readValue_write (endsNumeral_cons (by simp) _) (by omega)) (skipSpace_cons rfl _) ?_
    rw [skipSpace_append hspace, skipSpace_writeEntry]
    exact ih next fuel (fun e' he' => hback e' (List.mem_cons_of_mem _ he')) (by omega)

theorem ofEntries_of_nodup {entries : Entries Json} (h : entries.keys.Nodup) :
    ofEntries entries = .obj entries := by
  have hnodup : (Entries.keys ([] ++ entries)).Nodup := h
  exact congrArg obj (Entries.putAll_of_nodup hnodup)

theorem readsBack_obj (hblank : layout.IsBlank) {entries : Entries Json}
    (hkeys : entries.keys.Nodup) (h : ∀ e ∈ entries, ReadsBack layout depth e.2) :
    ReadsBack layout (depth + 1) (.obj entries) := by
  cases entries with
  | nil =>
    refine ⟨fun _ => startsValue_cons (by decide) _, fun level fuel rest _ hfuel => ?_⟩
    have hlength : (write layout level (.obj [])).length = 2 := rfl
    obtain ⟨fuel, rfl⟩ : ∃ f, fuel = f + 2 := Nat.exists_eq_add_of_le' (by omega)
    simp [write, readValue, readObject, skipSpace_cons (c := '\x7d') rfl, Except.map, ofEntries,
      Entries.putAll]
  | cons e entries =>
    refine ⟨fun _ => startsValue_cons (by decide) _, fun level fuel rest _ hfuel => ?_⟩
    have htext : write layout level (.obj (e :: entries)) ++ rest =
      '\x7b' :: (lineBreak layout (level + 1) ++ (writeEntry layout (level + 1) e ++
        (writeEntries layout (level + 1) entries ++
          (lineBreak layout level ++ '\x7d' :: rest)))) := by
      simp [write, writeEntry]
    have hlength := congrArg List.length htext
    simp only [List.length_append, List.length_cons] at hlength
    obtain ⟨fuel, rfl⟩ : ∃ f, fuel = f + 2 := Nat.exists_eq_add_of_le' (by omega)
    have htail : skipSpace (lineBreak layout level ++ '\x7d' :: rest) = '\x7d' :: rest := by
      rw [skipSpace_append (isSpace_lineBreak hblank level), skipSpace_cons rfl]
    have hentries := readEntries_write hblank (level + 1)
      (endsNumeral_lineBreak (by simp) level rest) htail entries e (fuel + 1) h (by omega)
    rw [htext, readValue, readObject_writeEntry, hentries]
    · simp only [Except.map, ofEntries_of_nodup hkeys]
    · rw [skipSpace_append (isSpace_lineBreak hblank (level + 1)), skipSpace_writeEntry]

/-! ## Documents -/

/-- A plain value is read back as it was written, at every level and whatever comes after it. -/
theorem Plain.readsBack (hblank : layout.IsBlank) {v : Json} (h : Plain depth v) :
    ReadsBack layout depth v := by
  induction h with
  | null => exact readsBack_null
  | bool b => exact readsBack_bool b
  | int h => exact readsBack_int h
  | str s => exact readsBack_str s
  | arr _ ih => exact readsBack_arr hblank ih
  | obj hkeys _ ih => exact readsBack_obj hblank hkeys ih

/-- The text of a plain value is read as this value, whatever its layout. -/
theorem parse_render (hblank : layout.IsBlank) {v : Json} (h : Plain maxDepth v) :
    parse (v.render layout) = .ok v := by
  have hback := h.readsBack hblank
  obtain ⟨c, t, hct, hspace, -, hmark⟩ := hback.starts 0
  have hread : readValue (3 * (write layout 0 v).length + 3) maxDepth (write layout 0 v ++ []) =
      .ok (v, []) := hback.readValue_write endsNumeral_nil (by omega)
  rw [List.append_nil, hct] at hread
  have hdocument : readDocument (write layout 0 v) = .ok v := by
    rw [hct, readDocument, skipSpace_cons hspace, hread]
    simp [hmark, skipSpace, pure_eq_ok]
  rw [parse, render, String.toList_ofList, hdocument]
  rfl

/-- An object whose entries are indented by what starts no key is not read back. -/
theorem exists_parse_render_eq_error {unit : String} {c : Char} {t : List Char}
    (hunit : unit.toList = c :: t) (hspace : isSpace c = false) (hc : c ∉ ['"', '\x7d'])
    (ascii : Bool) (e : String × Json) (entries : Entries Json) :
    ∃ err, parse (render (.obj (e :: entries)) ⟨some unit, ascii⟩) = .error err := by
  obtain ⟨more, hmore⟩ : ∃ more,
      write ⟨some unit, ascii⟩ 0 (.obj (e :: entries)) = '\x7b' :: '\n' :: c :: more := by
    simp [write, lineBreak, hunit]
  simp only [List.mem_cons, List.not_mem_nil, or_false, not_or] at hc
  have hgap : skipSpace ('\n' :: c :: more) = c :: more := skipSpace_cons hspace more
  refine ⟨JsonStop.locate ('\x7b' :: '\n' :: c :: more) ⟨.expectedKey, c :: more⟩, ?_⟩
  have hdepth : maxDepth = 989 + 1 := rfl
  have hread : readDocument ('\x7b' :: '\n' :: c :: more) = .error ⟨.expectedKey, c :: more⟩ := by
    rw [readDocument, skipSpace_cons rfl, hdepth]
    simp [readValue, readObject, readEntries, hgap, hc, Except.map]
  rw [parse, render, String.toList_ofList, hmore, hread]
  rfl

end Json

end SheetSchema
