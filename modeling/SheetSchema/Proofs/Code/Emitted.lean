import Mathlib
import SheetSchema.Code.Mapper
import SheetSchema.Code.Operations
import SheetSchema.Proofs.Schema.Order

/-!
# Which row emitted code writes

The functions that are emitted to read, overwrite and clear entities, read statement by statement
(`Statement`). A function is a list of statements (`Emitted`), and its text is the template of the
operation (`Emitted.template_getAll`, `Emitted.template_update`, `Emitted.template_deleteById`), so
the statements do what the template spells out. The sheet is a list of rows from the first row of
data down. What the row mappers make of rows and entities is left open (`EntityCode`).

`getAll` leaves out the rows whose first cell is blank, while `update` and `deleteById` take the
position of an entity in its answer for the position of its row. So the row that they write is above
the one that the entity was read from, by the number of blank rows above that
(`Invocation.writes_iff`). As long as entities are created and overwritten only, there is no such
row, and the right one is written (`Action.writes_performAll`). To delete an entity leaves a blank
row, and from then on every entity below it is missed (`Action.writes_after_delete`).
-/

namespace SheetSchema.Code

/-! ## Rows -/

/-- The code points that trimming removes in the emitted language. -/
def scriptBlanks : List Nat := [9, 10, 11, 12, 13, 32, 160, 5760] ++ List.range' 8192 11 ++
  [8232, 8233, 8239, 8287, 12288, 65279]

/-- The row holds an entity: it has a first cell, and that is not blank. -/
def holdsEntity (row : List String) : Bool :=
  row.head?.any fun cell => !cell.toList.all fun c => scriptBlanks.contains c.toNat

theorem holdsEntity_replicate (n : Nat) : holdsEntity (List.replicate n "") = false := by
  cases n <;> rfl

section Positions

variable {α : Type} {keep : α → Bool}

/-- How many of the first `p` items are left out. -/
def leftOut (keep : α → Bool) (items : List α) (p : Nat) : Nat :=
  (items.take p).countP fun a => !keep a

theorem leftOut_le (keep : α → Bool) (items : List α) (p : Nat) : leftOut keep items p ≤ p :=
  List.countP_le_length.trans (List.length_take_le p items)

theorem leftOut_cons_succ (a : α) (items : List α) (p : Nat) :
    leftOut keep (a :: items) (p + 1) = leftOut keep items p + if keep a then 0 else 1 := by
  rw [leftOut, List.take_succ_cons, List.countP_cons]
  cases keep a <;> rfl

/-- The first item that is kept and accepted has the items left out before it less as position among
those that are kept. -/
theorem findIdx?_filter (accept : α → Bool) (items : List α) :
    (items.filter keep).findIdx? accept =
      (items.findIdx? fun a => keep a && accept a).map fun p => p - leftOut keep items p := by
  induction items with
  | nil => rfl
  | cons a items ih =>
    rw [List.findIdx?_cons]
    cases hkeep : keep a with
    | false =>
      rw [List.filter_cons_of_neg (by simp [hkeep]), ih, Bool.false_and, if_neg (by simp),
        Option.map_map]
      refine congrArg (Option.map · _) (funext fun p => ?_)
      simp [leftOut_cons_succ, hkeep]
    | true =>
      rw [List.filter_cons_of_pos hkeep, List.findIdx?_cons, Bool.true_and]
      cases haccept : accept a with
      | true => rfl
      | false =>
        rw [if_neg (by simp), if_neg (by simp), ih, Option.map_map, Option.map_map]
        refine congrArg (Option.map · _) (funext fun p => ?_)
        have hle := leftOut_le keep items p
        simp only [Function.comp_apply, leftOut_cons_succ, hkeep, if_true]
        omega

/-- An item that is kept is found at that position. -/
theorem getElem?_filter {items : List α} {a : α} {p : Nat} (h : items[p]? = some a)
    (hkeep : keep a = true) : (items.filter keep)[p - leftOut keep items p]? = some a := by
  induction items generalizing p with
  | nil => cases h
  | cons b items ih =>
    cases p with
    | zero =>
      obtain rfl : b = a := Option.some.inj h
      rw [List.filter_cons_of_pos hkeep]
      rfl
    | succ p =>
      have hle := leftOut_le keep items p
      rw [leftOut_cons_succ]
      cases hb : keep b with
      | false =>
        rw [List.filter_cons_of_neg (by simp [hb]), if_neg (by simp), Nat.add_sub_add_right]
        exact ih h
      | true =>
        have hnext : p + 1 - (leftOut keep items p + 0) = p - leftOut keep items p + 1 := by omega
        rw [List.filter_cons_of_pos hb, if_pos rfl, hnext]
        exact ih h

end Positions

/-- How many of the rows above a position hold no entity. -/
def blanksAbove (rows : List (List String)) (p : Nat) : Nat := leftOut holdsEntity rows p

theorem blanksAbove_le (rows : List (List String)) (p : Nat) : blanksAbove rows p ≤ p :=
  leftOut_le holdsEntity rows p

theorem blanksAbove_eq_zero_iff {rows : List (List String)} {p : Nat} :
    blanksAbove rows p = 0 ↔ ∀ row ∈ rows.take p, holdsEntity row = true := by
  simp [blanksAbove, leftOut, List.countP_eq_zero]

/-! ## Statements -/

/-- A statement of the functions that read, overwrite and clear entities. -/
inductive Statement where
  /-- Read the data range into `rows`. -/
  | bindRows
  /-- Return the entities in `rows`. -/
  | returnEntities
  /-- Call `getAll`. -/
  | bindItems
  /-- Look for the key. -/
  | bindIndex
  /-- Refuse if there is no such entity. -/
  | refuse
  | bindRowNumber
  | bindCurrent
  /-- Change the entity. -/
  | bindUpdated
  | bindValues
  /-- Bind the range of the row. -/
  | bindRange
  | gap
  | bindEmptyValues
  | writeValues
  | writeEmptyValues
deriving DecidableEq, Repr

/-- The lines of a statement. -/
def Statement.lines : Statement → List Template
  | bindRows => [
    ["      const ", .binds "response", " = await SheetsClient.batchGet(spreadsheetId, [", .range,
      "]);"],
    ["      const ", .binds "rows", " = response.valueRanges?.[0]?.values || [];"]]
  | returnEntities => [
    ["      return rows"],
    ["        .filter((", .binds "row", ": string[]) => row && row[0] && row[0].trim() !== '')"],
    ["        .map((", .binds "row", ": string[]) => ", .fromRow, "(row));"]]
  | bindItems => [["      const ", .binds "items", " = await ", .calls "getAll", "();"]]
  | bindIndex => [
    ["      const ", .binds "index", " = items.findIndex(", .binds "item", " => item.", .key,
      " === ", .key, ");"]]
  | refuse => [
    ["      if (index === -1) throw new Error(`", .feature, " $\x7b", .key, "\x7d not found`);"]]
  | bindRowNumber => [["      const ", .binds "rowNumber", " = index + ", .firstDataRow, ";"]]
  | bindCurrent => [["      const ", .binds "current", " = items[index];"]]
  | bindUpdated => [
    ["      const ", .binds "updated", " = \x7b"],
    ["        ...current,"],
    ["        ...updates,"],
    ["        updatedAt: new Date().toISOString(),"],
    ["      \x7d;"]]
  | bindValues => [["      const ", .binds "values", " = ", .toRow, "(updated);"]]
  | bindRange => [
    ["      const ", .binds "sheetName", " = ", .sheetName, ";"],
    ["      const ", .binds "range", " = ", .rowRange, ";"]]
  | gap => [[]]
  | bindEmptyValues => [
    ["      const ", .binds "emptyValues", " = new Array(", .rowWidth, ").fill('');"]]
  | writeValues => [["      await SheetsClient.updateValues(spreadsheetId, range, [values]);"]]
  | writeEmptyValues => [
    ["      await SheetsClient.updateValues(spreadsheetId, range, [emptyValues]);"]]

/-- An emitted function. -/
structure Emitted where
  header : Template
  body : List Statement

namespace Emitted

/-- The last line of a function. -/
def footer : Template := ["    \x7d;"]

/-- The text of the function. -/
def template (f : Emitted) : Template :=
  .ofLines (f.header :: f.body.flatMap Statement.lines ++ [footer])

/-- Read every entity. -/
def getAll : Emitted where
  header := ["    const ", .declares "getAll", " = async (): Promise<", .feature, "[]> => \x7b"]
  body := [.bindRows, .gap, .returnEntities]

/-- The statements that look an entity up. -/
def lookup : List Statement := [.bindItems, .bindIndex, .refuse, .gap, .bindRowNumber]

/-- Overwrite the row of an entity. -/
def update : Emitted where
  header := ["    const ", .declares "update", " = async (", .keyParameter "string", ", ",
    .binds "updates", ": Partial<", .feature, ">): Promise<void> => \x7b"]
  body := lookup ++
    [.bindCurrent, .bindUpdated, .gap, .bindValues, .bindRange, .writeValues]

/-- Clear the row of an entity. -/
def deleteById : Emitted where
  header := ["    const ", .declares "deleteById", " = async (", .keyParameter "string",
    "): Promise<void> => \x7b"]
  body := lookup ++ [.bindRange, .gap, .bindEmptyValues, .writeEmptyValues]

theorem template_getAll : getAll.template = .getAll := rfl

theorem template_update : update.template = .update := rfl

theorem template_deleteById : deleteById.template = .deleteById := rfl

end Emitted

/-! ## What a function does -/

/-- What emitted code makes of rows and entities: the two row mappers, and whether the key of an
entity equals a text. -/
structure EntityCode (ε : Type) where
  fromRow : List String → ε
  toRow : ε → List String
  hasKey : String → ε → Bool

/-- A call of an emitted function: the code it uses, the context it was generated from, the rows of
the sheet from the first row of data down, and the arguments. -/
structure Invocation (ε : Type) where
  code : EntityCode ε
  context : Context
  rows : List (List String)
  key : String
  change : ε → ε := id

/-- The local names of a function, the entities it returns, and the rows it has written, by their
numbers in the sheet. -/
structure Locals (ε : Type) where
  rows : List (List String) := []
  items : List ε := []
  index : Int := -1
  rowNumber : Int := 0
  current? : Option ε := none
  updated? : Option ε := none
  values : List String := []
  emptyValues : List String := []
  range : Int := 0
  returned : List ε := []
  written : List (Int × List String) := []

variable {ε : Type} {i : Invocation ε} {p : Nat} {row : List String}

namespace Invocation

/-- The entities in the sheet. -/
def entities (i : Invocation ε) : List ε := (i.rows.filter holdsEntity).map i.code.fromRow

/-- The position of the row that the first entity with the key is read from. -/
def found? (i : Invocation ε) : Option Nat :=
  i.rows.findIdx? fun row => holdsEntity row && i.code.hasKey i.key (i.code.fromRow row)

end Invocation

/-- What a statement does. A function that refuses has no locals. -/
def Statement.run (i : Invocation ε) (l : Locals ε) : Statement → Option (Locals ε)
  | bindRows => some { l with rows := i.rows }
  | returnEntities => some { l with returned := (l.rows.filter holdsEntity).map i.code.fromRow }
  | bindItems => some { l with items := i.entities }
  | bindIndex =>
    some { l with index := (l.items.findIdx? (i.code.hasKey i.key)).elim (-1) Int.ofNat }
  | refuse => if l.index = -1 then none else some l
  | bindRowNumber => some { l with rowNumber := l.index + i.context.firstDataRow }
  | bindCurrent => some { l with current? := l.items[l.index.toNat]? }
  | bindUpdated => some { l with updated? := l.current?.map i.change }
  | bindValues => some { l with values := (l.updated?.map i.code.toRow).getD [] }
  | bindRange => some { l with range := l.rowNumber }
  | gap => some l
  | bindEmptyValues =>
    some { l with emptyValues := List.replicate i.context.rowWidth.toNat "" }
  | writeValues => some { l with written := l.written ++ [(l.range, l.values)] }
  | writeEmptyValues => some { l with written := l.written ++ [(l.range, l.emptyValues)] }

/-- What a function does. -/
def Emitted.run (f : Emitted) (i : Invocation ε) : Option (Locals ε) :=
  f.body.foldlM (Statement.run i) {}

namespace Invocation

/-- What `getAll` returns are the entities in the sheet. -/
theorem returned_getAll (i : Invocation ε) :
    (Emitted.getAll.run i).map (·.returned) = some i.entities := rfl

/-! ## Positions -/

/-- Among the entities the one found is higher up than its row, by the number of blank rows above
it. -/
theorem findIdx?_entities (i : Invocation ε) : i.entities.findIdx? (i.code.hasKey i.key) =
    i.found?.map fun p => p - blanksAbove i.rows p := by
  rw [entities, List.findIdx?_map, findIdx?_filter]
  rfl

/-- The row that an entity was read from is in the sheet, and holds the entity. -/
theorem exists_row_of_found? (h : i.found? = some p) :
    ∃ row, i.rows[p]? = some row ∧ i.entities[p - blanksAbove i.rows p]? =
      some (i.code.fromRow row) := by
  obtain ⟨hlt, hrow, -⟩ := List.findIdx?_eq_some_iff_getElem.mp h
  rw [Bool.and_eq_true] at hrow
  have hget := List.getElem?_eq_getElem hlt
  refine ⟨_, hget, ?_⟩
  rw [entities, List.getElem?_map, blanksAbove, getElem?_filter hget hrow.1, Option.map_some]

/-! ## Runs -/

/-- The number in the sheet of the row that is written for an entity found at a position. -/
def target (i : Invocation ε) (p : Nat) : Int :=
  (p - blanksAbove i.rows p : Nat) + i.context.firstDataRow

/-- What is known once an entity has been looked up. -/
theorem run_lookup (h : i.found? = some p) : Emitted.lookup.foldlM (Statement.run i) {} =
    some { items := i.entities, index := (p - blanksAbove i.rows p : Nat)
           rowNumber := i.target p } := by
  have hindex := i.findIdx?_entities
  rw [h, Option.map_some] at hindex
  simp [Emitted.lookup, Statement.run, hindex, target]

/-- An entity that is not there is refused. -/
theorem run_lookup_eq_none (h : i.found? = none) :
    Emitted.lookup.foldlM (Statement.run i) {} = none := by
  have hindex := i.findIdx?_entities
  rw [h, Option.map_none] at hindex
  simp [Emitted.lookup, Statement.run, hindex]

theorem written_update (h : i.found? = some p) (hrow : i.rows[p]? = some row) :
    (Emitted.update.run i).map (·.written) =
      some [(i.target p, i.code.toRow (i.change (i.code.fromRow row)))] := by
  obtain ⟨row', hrow', hcurrent⟩ := exists_row_of_found? h
  obtain rfl : row' = row := Option.some.inj (hrow'.symm.trans hrow)
  rw [Emitted.run, Emitted.update, List.foldlM_append, run_lookup h]
  simp [Statement.run, hcurrent]

theorem written_deleteById (h : i.found? = some p) :
    (Emitted.deleteById.run i).map (·.written) =
      some [(i.target p, List.replicate i.context.rowWidth.toNat "")] := by
  rw [Emitted.run, Emitted.deleteById, List.foldlM_append, run_lookup h]
  rfl

/-- The rows of the sheet after a function has run. One that refuses leaves them. -/
def rowsAfter (i : Invocation ε) (f : Emitted) : List (List String) :=
  match f.run i with
  | some l => l.written.foldl
      (fun rows (number, cells) => rows.set (number - i.context.firstDataRow).toNat cells) i.rows
  | none => i.rows

theorem rowsAfter_eq_set {f : Emitted} {cells : List String}
    (h : (f.run i).map (·.written) = some [(i.target p, cells)]) :
    i.rowsAfter f = i.rows.set (p - blanksAbove i.rows p) cells := by
  obtain ⟨l, hrun, hl⟩ := Option.map_eq_some_iff.mp h
  rw [rowsAfter, hrun]
  simp [hl, target]

/-- For the entity that was read from the row at position `p`, the row at position `q` is written,
and no other row changes. -/
structure Writes (i : Invocation ε) (p q : Nat) : Prop where
  update : ∃ row, i.rows[p]? = some row ∧ (Emitted.update.run i).map (·.written) =
    some [(q + i.context.firstDataRow, i.code.toRow (i.change (i.code.fromRow row)))]
  deleteById : (Emitted.deleteById.run i).map (·.written) =
    some [(q + i.context.firstDataRow, List.replicate i.context.rowWidth.toNat "")]
  others : ∀ f ∈ [Emitted.update, Emitted.deleteById], ∀ k ≠ q, (i.rowsAfter f)[k]? = i.rows[k]?

/-- The row that is written is as far above the one that the entity was read from as there are blank
rows above that. So it is the same row if and only if all rows above it hold entities. -/
theorem writes_iff (h : i.found? = some p) : i.Writes p (p - blanksAbove i.rows p) ∧
    (i.Writes p p ↔ ∀ row ∈ i.rows.take p, holdsEntity row = true) := by
  obtain ⟨row, hrow, -⟩ := exists_row_of_found? h
  have hwrites : i.Writes p (p - blanksAbove i.rows p) := by
    refine ⟨⟨row, hrow, written_update h hrow⟩, written_deleteById h, fun f hf k hk => ?_⟩
    rcases List.mem_pair.mp hf with rfl | rfl
    · rw [rowsAfter_eq_set (written_update h hrow), List.getElem?_set_ne hk.symm]
    · rw [rowsAfter_eq_set (written_deleteById h), List.getElem?_set_ne hk.symm]
  refine ⟨hwrites, ?_⟩
  rw [← blanksAbove_eq_zero_iff]
  constructor
  · intro hsame
    have hrows := hsame.deleteById.symm.trans hwrites.deleteById
    have hle := blanksAbove_le i.rows p
    simp only [Option.some.injEq, List.cons.injEq, Prod.mk.injEq, and_true] at hrows
    omega
  · intro hzero
    rwa [hzero, Nat.sub_zero] at hwrites

/-- A function that finds no entity leaves the rows. -/
theorem rowsAfter_update_eq_self (h : i.found? = none) : i.rowsAfter .update = i.rows := by
  rw [rowsAfter, Emitted.run, Emitted.update, List.foldlM_append, run_lookup_eq_none h]
  rfl

end Invocation

/-! ## Runs of several functions -/

/-- All rows hold entities. -/
def IsCompact (rows : List (List String)) : Prop := ∀ row ∈ rows, holdsEntity row = true

theorem IsCompact.blanksAbove_eq_zero {rows : List (List String)} (h : IsCompact rows) (p : Nat) :
    blanksAbove rows p = 0 :=
  blanksAbove_eq_zero_iff.mpr fun row hrow => h row (List.mem_of_mem_take hrow)

/-- A call that changes entities. -/
inductive Action (ε : Type) where
  | create (item : ε)
  | update (key : String) (change : ε → ε)
  | delete (key : String)

namespace Action

variable {code : EntityCode ε} {ctx : Context} {rows : List (List String)}

/-- The rows of the sheet after a call. A new entity is appended. -/
def perform (code : EntityCode ε) (ctx : Context) (rows : List (List String)) :
    Action ε → List (List String)
  | create item => rows ++ [code.toRow item]
  | update key change => Invocation.rowsAfter ⟨code, ctx, rows, key, change⟩ .update
  | delete key => Invocation.rowsAfter ⟨code, ctx, rows, key, id⟩ .deleteById

/-- The rows of the sheet after some calls. -/
def performAll (code : EntityCode ε) (ctx : Context) (rows : List (List String))
    (actions : List (Action ε)) : List (List String) :=
  actions.foldl (perform code ctx) rows

/-- The call writes a row that holds an entity. -/
def KeepsEntities (code : EntityCode ε) : Action ε → Prop
  | create item => holdsEntity (code.toRow item) = true
  | update _ change =>
    ∀ row, holdsEntity row = true → holdsEntity (code.toRow (change (code.fromRow row))) = true
  | delete _ => False

theorem isCompact_perform {a : Action ε} (hrows : IsCompact rows) (ha : a.KeepsEntities code) :
    IsCompact (a.perform code ctx rows) := by
  cases a with
  | create item =>
    intro row hrow
    rcases List.mem_append.mp hrow with hold | hnew
    · exact hrows row hold
    · exact List.mem_singleton.mp hnew ▸ ha
  | update key change =>
    set i : Invocation ε := ⟨code, ctx, rows, key, change⟩
    change IsCompact (i.rowsAfter .update)
    cases h : i.found? with
    | none =>
      rw [i.rowsAfter_update_eq_self h]
      exact hrows
    | some p =>
      obtain ⟨row, hrow, -⟩ := Invocation.exists_row_of_found? h
      rw [Invocation.rowsAfter_eq_set (Invocation.written_update h hrow)]
      intro row' hrow'
      rcases List.mem_or_eq_of_mem_set hrow' with hold | rfl
      · exact hrows row' hold
      · exact ha row (hrows row (List.mem_of_getElem? hrow))
  | delete key => exact ha.elim

theorem isCompact_performAll {actions : List (Action ε)} (hrows : IsCompact rows)
    (h : ∀ a ∈ actions, a.KeepsEntities code) : IsCompact (performAll code ctx rows actions) := by
  induction actions generalizing rows with
  | nil => exact hrows
  | cons a actions ih =>
    exact ih (isCompact_perform hrows (h a List.mem_cons_self)) fun b hb =>
      h b (List.mem_cons_of_mem a hb)

/-- As long as entities are created and overwritten only, the row that is written is the one that
the entity was read from. -/
theorem writes_performAll {actions : List (Action ε)} (hrows : IsCompact rows)
    (h : ∀ a ∈ actions, a.KeepsEntities code) {i : Invocation ε}
    (hi : i.rows = performAll code ctx rows actions) (hfound : i.found? = some p) :
    i.Writes p p := by
  have hcompact : IsCompact i.rows := hi ▸ isCompact_performAll hrows h
  have hwrites := (Invocation.writes_iff hfound).1
  rwa [hcompact.blanksAbove_eq_zero, Nat.sub_zero] at hwrites

/-- Once an entity is deleted, the entities below it are missed by one row. -/
theorem writes_after_delete {i j : Invocation ε} {q : Nat} (hrows : IsCompact i.rows)
    (hi : i.found? = some p) (hj : j.rows = i.rowsAfter .deleteById) (hq : j.found? = some q)
    (hpq : p < q) : j.Writes q (q - 1) := by
  obtain ⟨row, hrow, -⟩ := Invocation.exists_row_of_found? hi
  obtain ⟨hp, hget⟩ := List.getElem?_eq_some_iff.mp hrow
  have hblanks : blanksAbove j.rows q = 1 := by
    have hlt : p < (i.rows.take q).length := by
      rw [List.length_take]
      omega
    have hkept : holdsEntity (i.rows.take q)[p] = true :=
      hrows _ (List.mem_of_mem_take (List.getElem_mem hlt))
    have hzero : (i.rows.take q).countP (fun row => !holdsEntity row) = 0 :=
      hrows.blanksAbove_eq_zero q
    rw [hj, Invocation.rowsAfter_eq_set (Invocation.written_deleteById hi),
      hrows.blanksAbove_eq_zero, Nat.sub_zero, blanksAbove, leftOut, List.take_set,
      List.countP_set hlt, hzero, hkept, holdsEntity_replicate]
    rfl
  have hwrites := (Invocation.writes_iff hq).1
  rwa [hblanks] at hwrites

end Action

/-! ## Entities of texts -/

/-- The code for a schema whose fields are all texts. -/
def textCode (s : Schema) : EntityCode (Entries String) where
  fromRow row := s.positioned.filterMap fun (offset, f) => row[offset.toNat]?.map (f.name, ·)
  toRow e := s.slots.map fun
    | some f => (Entries.get? e f.name).getD ""
    | none => ""
  hasKey key e := Entries.get? e s.naturalKey == some key

/-- What the functions for tasks are generated from. -/
def taskContext : Context := { feature := FeatureName.ofString "Task", schema? := some .plainTasks }

/-- A change of the second task, after two tasks have been created and the first was deleted. -/
def changeAfterDelete : Invocation (Entries String) where
  code := textCode .plainTasks
  context := taskContext
  rows := Action.performAll (textCode .plainTasks) taskContext [] [
    .create [("key", "1"), ("title", "read")], .create [("key", "2"), ("title", "write")],
    .delete "1"]
  key := "2"
  change task := task.put "title" "print"

/-- The second task is read from the third row of the sheet, and the second row is written. -/
theorem changeAfterDelete_misses : changeAfterDelete.rows = [["", ""], ["2", "write"]] ∧
    changeAfterDelete.found? = some 1 ∧ changeAfterDelete.Writes 1 0 ∧
    ¬ changeAfterDelete.Writes 1 1 ∧
    changeAfterDelete.rowsAfter .update = [["2", "print"], ["2", "write"]] := by
  have hrows : changeAfterDelete.rows = [["", ""], ["2", "write"]] := by decide +kernel
  have hfound : changeAfterDelete.found? = some 1 := by decide +kernel
  obtain ⟨hwrites, hsame⟩ := Invocation.writes_iff hfound
  have hblanks : blanksAbove changeAfterDelete.rows 1 = 1 := by rw [hrows]; decide
  rw [hblanks] at hwrites
  refine ⟨hrows, hfound, hwrites, ?_, by decide +kernel⟩
  rw [hsame, hrows]
  decide

end SheetSchema.Code
