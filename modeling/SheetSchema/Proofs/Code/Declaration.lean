import Mathlib
import SheetSchema.Proofs.Code.Interface
import SheetSchema.Proofs.Code.Search
import SheetSchema.Proofs.Json.Access
import SheetSchema.Proofs.Schema.Order
import SheetSchema.Proofs.Text.Ascii
import SheetSchema.Proofs.Text.Cut

/-!
# The file of interfaces is a map in order

Interfaces are put into a shared file one after the other. What stands in the file is a matter of
text: the place of an earlier interface is searched for by its first words and ends with the first
line that starts with a closing brace. Yet the file is a map in order, from names to definitions
(`typesFile`), as long as these two marks stand at the ends of each definition only
(`IsInterface`).

A search walks over a definition of another name, because no place in it starts with the words that
are looked for followed by a name that ends there (`afterInterface?_of_ne`), and it takes exactly
the definition of its own name (`afterInterface?_of_isInterface`). So putting an interface into the
file puts its definition into the map (`upsertType_typesFile`), and any number of them leaves one
block for each name, in the order of first mention, with the definition that was given last
(`exists_entries_upsertTypes`).
-/

namespace SheetSchema.Code

/-! ## Names and definitions -/

/-- A name of ASCII letters, digits and low lines. -/
structure IsPlainName (name : String) : Prop where
  ne_empty : name ≠ ""
  plain : ∀ c ∈ name.toList, c.isAlphanum = true ∨ c = '_'

/-- The words that every interface starts with. -/
def interfaceWords : List Char := "export interface".toList

/-- The words that start an interface, and the end of its last line, are at the ends of the
definition only. -/
structure IsDelimited (definition : String) : Prop where
  starts : ¬ interfaceWords <:+: definition.toList.tail
  ends : ¬ ['\n', '\x7d'] <:+: definition.toList.dropLast

/-- The definition of an interface that can be told from its neighbours. -/
structure IsInterface (name definition : String) : Prop extends IsPlainName name,
    IsDelimited definition where
  shape : ∃ body, definition.toList =
    interfaceStart name.toList ++ (' ' :: body) ++ ['\n', '\x7d']

theorem interfaceStart_eq (name : List Char) :
    interfaceStart name = interfaceWords ++ ' ' :: name := by
  unfold interfaceStart interfaceWords
  simp

theorem IsPlainName.isWord {name : String} (h : IsPlainName name) {c : Char}
    (hc : c ∈ name.toList) : Text.isWord c = true := by
  rcases h.plain c hc with hplain | rfl
  · exact Text.isWord_of_isAlphanum hplain
  · decide +kernel

/-- What is generated for a schema is an interface. -/
theorem isInterface_typeDefinition {name : String} {s : Schema} (hname : IsPlainName name)
    (h : IsDelimited (s.typeDefinition name)) : IsInterface name (s.typeDefinition name) :=
  ⟨hname, h, _, toList_typeDefinition s name⟩

/-! ## Searching for an interface -/

variable {name other definition : String}

/-- No interface starts where its first words do not. -/
theorem afterInterface?_eq_none {s : List Char} (h : ¬ interfaceWords <+: s)
    (name : List Char) : afterInterface? name s = none := by
  have hnone : Text.afterPrefix? (interfaceStart name) s = none := by
    rw [interfaceStart_eq, ← Option.not_isSome_iff_eq_none, Text.isSome_afterPrefix?_iff]
    exact fun hprefix => h ((List.prefix_append _ _).trans hprefix)
  rw [afterInterface?, hnone]

theorem IsPlainName.isWord_getLast? (h : IsPlainName name) :
    (interfaceStart name.toList).getLast?.any Text.isWord = true := by
  have hne : name.toList ≠ [] := by simpa using h.ne_empty
  rw [interfaceStart_eq, List.getLast?_append_of_ne_nil _ (by simp),
    List.getLast?_cons_of_ne_nil hne, List.getLast?_eq_some_getLast hne]
  exact h.isWord (List.getLast_mem hne)

/-- An interface is taken as a whole. -/
theorem afterInterface?_of_isInterface (h : IsInterface name definition) (rest : List Char) :
    afterInterface? name.toList (definition.toList ++ rest) = some rest := by
  obtain ⟨body, hshape⟩ := h.shape
  have hstart : Text.afterPrefix? (interfaceStart name.toList) (definition.toList ++ rest) =
      some (' ' :: body ++ ['\n', '\x7d'] ++ rest) := by
    rw [hshape, List.append_assoc, List.append_assoc, Text.afterPrefix?_append]
    simp
  have hboundary : Text.wordBoundary (interfaceStart name.toList).getLast? (some ' ') = true := by
    rw [Text.wordBoundary, h.isWord_getLast?]
    decide +kernel
  have hdrop : definition.toList.dropLast =
      interfaceStart name.toList ++ (' ' :: body ++ ['\n', '\x7d']).dropLast := by
    rw [hshape, List.append_assoc, List.dropLast_append_of_ne_nil (by simp)]
  have hends : ¬ ['\n', '\x7d'] <:+: (' ' :: body ++ ['\n', '\x7d']).dropLast := fun hinfix =>
    h.ends (hdrop ▸ hinfix.trans (List.suffix_append _ _).isInfix)
  have hcut := Text.breakOn?_word (by simp) hends rest
  rw [afterInterface?, hstart]
  exact (if_pos hboundary).trans (congrArg (Option.map _) hcut)

/-- An interface of another name is not taken, even if the one name starts with the other. -/
theorem afterInterface?_of_ne (hname : IsPlainName name) (h : IsInterface other definition)
    (hne : name ≠ other) (rest : List Char) :
    afterInterface? name.toList (definition.toList ++ rest) = none := by
  obtain ⟨body, hshape⟩ := h.shape
  rw [afterInterface?]
  cases hafter : Text.afterPrefix? (interfaceStart name.toList) (definition.toList ++ rest) with
  | none => rfl
  | some following =>
    have heq := Text.eq_append_of_afterPrefix? hafter
    rw [hshape, interfaceStart_eq, interfaceStart_eq] at heq
    simp only [List.append_assoc, List.append_cancel_left_eq, List.cons_append,
      List.cons.injEq, true_and] at heq
    simp only
    rcases List.append_eq_append_iff.mp heq with ⟨t, hname', hfollowing⟩ | ⟨t, hother, hfollowing⟩
    · -- The name goes on where the other one ends, so it has a blank in it.
      cases t with
      | nil => exact absurd (String.toList_inj.mp (by simpa using hname')) hne
      | cons c t =>
        obtain rfl : ' ' = c := (List.cons.inj hfollowing).1
        have hblank := hname.isWord (c := ' ') (by simp [hname'])
        exact absurd hblank (by decide +kernel)
    · -- The other name goes on where the name ends, so there is no boundary.
      cases t with
      | nil => exact absurd (String.toList_inj.mp (by simpa using hother.symm)) hne
      | cons c t =>
        have hc := h.isWord (c := c) (by simp [hother])
        rw [if_neg]
        simp [hfollowing, Text.wordBoundary, hname.isWord_getLast?, hc]

/-! ## The file -/

/-- The text of the file with these interfaces: a header, and for each of them its definition and a
line end. There is no text as long as there is no interface. -/
def typesFile : Entries String → String
  | [] => ""
  | entries => typesHeader ++ String.join (entries.map fun e => e.2 ++ "\n")

/-- The text of the interfaces, one after the other. -/
def blocks (entries : Entries String) : List Char :=
  entries.flatMap fun e => e.2.toList ++ ['\n']

variable {entries : Entries String}

theorem toList_typesFile (h : entries ≠ []) :
    (typesFile entries).toList = typesHeader.toList ++ blocks entries := by
  obtain ⟨e, entries, rfl⟩ := List.exists_cons_of_ne_nil h
  simp [typesFile, blocks, String.toList_join, List.flatMap_map]

theorem blocks_append (entries more : Entries String) :
    blocks (entries ++ more) = blocks entries ++ blocks more := List.flatMap_append

theorem blocks_cons (name definition : String) (entries : Entries String) :
    blocks ((name, definition) :: entries) = definition.toList ++ '\n' :: blocks entries := by
  simp [blocks]

/-- A search for an interface walks over a line if it does not stop at its start, and the first
words of an interface are nowhere else in it. -/
theorem replaceFirst?_walk {line rest : List Char}
    (h : afterInterface? name.toList (line ++ '\n' :: rest) = none)
    (htail : ¬ interfaceWords <:+: line.tail) (new : List Char) :
    replaceFirst? (afterInterface? name.toList) new (line ++ '\n' :: rest) =
      (replaceFirst? (afterInterface? name.toList) new rest).map (line ++ '\n' :: ·) := by
  refine replaceFirst?_line (fun tail hsuffix => ?_) new
  have hcases : tail = line ∨ tail <:+ line.tail := by
    cases line with
    | nil => exact .inr hsuffix
    | cons c line => exact List.suffix_cons_iff.mp hsuffix
  rcases hcases with rfl | hsuffix
  · exact h
  · refine afterInterface?_eq_none (fun hprefix => htail ?_) _
    exact (Text.prefix_of_prefix_line (by decide) hprefix).isInfix.trans hsuffix.isInfix

/-- A search through the interfaces replaces the definition of its name, if there is one. -/
theorem replaceFirst?_blocks {entries : Entries String}
    (hentries : ∀ e ∈ entries, IsInterface e.1 e.2) (hname : IsPlainName name) (new : String) :
    replaceFirst? (afterInterface? name.toList) new.toList (blocks entries) =
      if name ∈ entries.keys then some (blocks (entries.put name new)) else none := by
  induction entries with
  | nil =>
    have hnone : afterInterface? name.toList [] = none := afterInterface?_eq_none (by decide) _
    rw [blocks, List.flatMap_nil, replaceFirst?, hnone]
    rfl
  | cons e entries ih =>
    obtain ⟨other, old⟩ := e
    have hold := hentries _ List.mem_cons_self
    have hrest := ih fun e he => hentries e (List.mem_cons_of_mem _ he)
    by_cases hsame : other = name
    · subst hsame
      have hhere := afterInterface?_of_isInterface hold ('\n' :: blocks entries)
      rw [blocks_cons, replaceFirst?_of_eq_some hhere, Entries.put, if_pos rfl, blocks_cons,
        if_pos (by simp [Entries.keys])]
    · have hnone := afterInterface?_of_ne hname hold (Ne.symm hsame) ('\n' :: blocks entries)
      have hkeys : name ∈ Entries.keys ((other, old) :: entries) ↔ name ∈ Entries.keys entries := by
        simp [Entries.keys, Ne.symm hsame]
      rw [blocks_cons, replaceFirst?_walk hnone hold.starts, hrest, Entries.put, if_neg hsame,
        blocks_cons]
      by_cases hmem : name ∈ Entries.keys entries
      · rw [if_pos hmem, if_pos (hkeys.mpr hmem)]
        rfl
      · rw [if_neg hmem, if_neg (mt hkeys.mp hmem)]
        rfl

/-- The text ends with a line end. -/
theorem getLast?_header_blocks (entries : Entries String) :
    (typesHeader.toList ++ blocks entries).getLast? = some '\n' := by
  rcases List.eq_nil_or_concat entries with rfl | ⟨entries, e, rfl⟩
  · decide
  · rw [List.concat_eq_append, blocks_append]
    simp [blocks]

theorem replaceFirst?_header (name : String) (new rest : List Char) :
    replaceFirst? (afterInterface? name.toList) new (typesHeader.toList ++ rest) =
      (replaceFirst? (afterInterface? name.toList) new rest).map (typesHeader.toList ++ ·) := by
  have hheader : typesHeader.toList = typesHeader.toList.dropLast ++ ['\n'] := by decide
  rw [hheader, List.append_assoc, List.singleton_append]
  have hwords : ¬ interfaceWords <:+: typesHeader.toList.dropLast := by decide +kernel
  have htail : ¬ interfaceWords <:+: typesHeader.toList.dropLast.tail :=
    fun h => hwords (h.trans (List.tail_suffix _).isInfix)
  refine (replaceFirst?_walk ?_ htail new).trans ?_
  · exact afterInterface?_eq_none
      (fun h => hwords (Text.prefix_of_prefix_line (by decide) h).isInfix) _
  · simp only [List.append_assoc, List.singleton_append]

/-- To put an interface into the file is to put its definition into the map. -/
theorem upsertType_typesFile (hentries : ∀ e ∈ entries, IsInterface e.1 e.2)
    (hname : IsPlainName name) (new : String) :
    upsertType (typesFile entries) name new = typesFile (entries.put name new) := by
  have hne : entries.put name new ≠ [] := by
    cases entries with
    | nil => simp [Entries.put]
    | cons e entries =>
      rw [Entries.put]
      split <;> simp
  have hcontent : (if (typesFile entries).toList.isEmpty then typesHeader.toList
      else (typesFile entries).toList) = typesHeader.toList ++ blocks entries := by
    cases entries with
    | nil => simp [typesFile, blocks]
    | cons e entries =>
      rw [toList_typesFile (by simp), if_neg]
      rw [List.isEmpty_iff, List.append_eq_nil_iff]
      exact fun h => absurd h.1 (by decide)
  rw [← String.toList_inj, toList_typesFile hne, upsertType, String.toList_ofList, upsertChars,
    hcontent, replaceFirst?_header, replaceFirst?_blocks hentries hname]
  by_cases hmem : name ∈ entries.keys
  · rw [if_pos hmem]
    rfl
  · rw [if_neg hmem, Entries.put_of_not_mem hmem, blocks_append, blocks_cons]
    simp only [Option.map_none]
    rw [withFinalNewline, if_pos (getLast?_header_blocks entries), List.append_assoc,
      List.append_assoc]
    rfl

/-! ## Any number of interfaces -/

/-- The file after interfaces of some schemas have been put into it, starting without a file. -/
def upsertTypes (calls : List (String × Schema)) : String :=
  calls.foldl (fun content call => upsertType content call.1 (call.2.typeDefinition call.1)) ""

/-- The interfaces that are put into the file, by name. -/
def definitions (calls : List (String × Schema)) : Entries String :=
  calls.map fun call => (call.1, call.2.typeDefinition call.1)

/-- The interfaces can be told from one another in the file. -/
def AreDelimited (calls : List (String × Schema)) : Prop :=
  ∀ call ∈ calls, IsPlainName call.1 ∧ IsDelimited (call.2.typeDefinition call.1)

variable {calls : List (String × Schema)}

/-- The file is the map of the interfaces that have been put into it, and they are all that is in
it. -/
theorem upsertTypes_eq (h : AreDelimited calls) :
    upsertTypes calls = typesFile (Entries.putAll [] (definitions calls)) ∧
      ∀ e ∈ Entries.putAll [] (definitions calls), IsInterface e.1 e.2 := by
  induction calls using List.reverseRecOn with
  | nil => exact ⟨rfl, nofun⟩
  | append_singleton calls call ih =>
    obtain ⟨hfile, hentries⟩ := ih fun c hc => h c (List.mem_append_left _ hc)
    obtain ⟨hname, hdelimited⟩ := h call (by simp)
    rw [upsertTypes, List.foldl_append, ← upsertTypes, definitions, List.map_append, ← definitions,
      List.map_singleton, Entries.putAll_concat]
    refine ⟨?_, fun e he => ?_⟩
    · rw [hfile]
      exact upsertType_typesFile hentries hname _
    · rcases Entries.mem_put he with hold | rfl
      · exact hentries e hold
      · exact isInterface_typeDefinition hname hdelimited

/-- After any number of interfaces the file holds one block for each name, in the order of first
mention, and each block is the definition that was given last. -/
theorem exists_entries_upsertTypes (h : AreDelimited calls) : ∃ entries : Entries String,
    entries.keys = (calls.map Prod.fst).eraseDups ∧
    (∀ before name s after, calls = before ++ (name, s) :: after → name ∉ after.map Prod.fst →
      entries.get? name = some (s.typeDefinition name)) ∧
    upsertTypes calls = typesFile entries := by
  refine ⟨_, ?_, fun before name s after hcalls hafter => ?_, (upsertTypes_eq h).1⟩
  · rw [Entries.keys_putAll, Entries.keys, definitions, List.map_map]
    rfl
  · rw [hcalls, definitions, List.map_append, List.map_cons]
    refine Entries.get?_putAll_of_last _ _ _ _ fun e he hname => hafter ?_
    obtain ⟨call, hcall, rfl⟩ := List.mem_map.mp he
    exact List.mem_map.mpr ⟨call, hcall, hname⟩

/-- The interface `Task`, then one whose name starts with its name, and `Task` again. -/
def taskCalls : List (String × Schema) :=
  [("Task", { Schema.plainTasks with fields := Schema.plainTasks.fields.take 1 }),
    ("TaskList", Schema.plainTasks), ("Task", Schema.plainTasks)]

theorem exists_entries_taskCalls : AreDelimited taskCalls ∧ ∃ entries : Entries String,
    entries.keys = ["Task", "TaskList"] ∧
    entries.get? "Task" =
      some "export interface Task \x7b\n  key?: string;\n  title?: string;\n\x7d" ∧
    entries.get? "TaskList" =
      some "export interface TaskList \x7b\n  key?: string;\n  title?: string;\n\x7d" ∧
    upsertTypes taskCalls = typesFile entries := by
  have h : AreDelimited taskCalls := by
    simp only [AreDelimited, taskCalls, List.forall_mem_cons]
    exact ⟨⟨⟨by decide, by simp⟩, by decide +kernel, by decide +kernel⟩,
      ⟨⟨by decide, by simp⟩, by decide +kernel, by decide +kernel⟩,
      ⟨⟨by decide, by simp⟩, by decide +kernel, by decide +kernel⟩, nofun⟩
  obtain ⟨entries, hkeys, hlast, hfile⟩ := exists_entries_upsertTypes h
  refine ⟨h, entries, hkeys.trans (by decide), ?_, ?_, hfile⟩
  · rw [hlast (taskCalls.take 2) "Task" Schema.plainTasks [] rfl (by decide)]
    decide +kernel
  · rw [hlast (taskCalls.take 1) "TaskList" Schema.plainTasks (taskCalls.drop 2) rfl (by decide)]
    decide +kernel

end SheetSchema.Code
