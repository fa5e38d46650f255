import Mathlib
import SheetSchema.Proofs.Text.Ascii

/-!
# Capitals and small letters that lead back to each other

The two case tables undo each other for most characters. A run of one table has an image, the run of
the places that it moves its characters to (`CaseRun.image`), and this is part of a run of the other
table that moves them back (`CaseRun.IsUndoneIn`). No character is moved by both tables, except for
the letters in title case (`titleLetters`).

Three kinds of characters are not led back. Some have several capitals. Some are rare small forms of
a capital whose usual small letter is another one (`rareSmalls`), such as the long s. And some are
rare capitals of a small letter whose usual capital is another one (`rareCapitals`), such as the
sign of the unit Kelvin. So a text in capitals stays as it is when it is capitalized once more
(`capitalize_capitalize`), but its first character is lost for small letters in exactly the first
two cases (`uncapitalize_capitalize_iff`), and for capitals after small letters in exactly the third
(`capitalize_uncapitalize_iff`).
-/

namespace SheetSchema.Text

variable {n : ℕ}

/-! ## Runs -/

namespace CaseRun

variable {run whole other : CaseRun}

theorem covers_iff : run.covers n = true ↔ run.1 ≤ n ∧ n ≤ run.2.1 ∧ run.2.2.1 ∣ n - run.1 := by
  simp [covers, Nat.dvd_iff_mod_eq_zero, and_assoc]

/-- The run of one code point. -/
def single (n : ℕ) : CaseRun := (n, n, 1, 0)

/-- The run of the places that the characters of a run are moved to, which moves them back. -/
def image (run : CaseRun) : CaseRun :=
  ((run.1 + run.2.2.2).toNat, (run.2.1 + run.2.2.2).toNat, run.2.2.1, -run.2.2.2)

/-- The places that the characters are moved to are characters. -/
def HasImage (run : CaseRun) : Prop :=
  0 ≤ run.1 + run.2.2.2 ∧
    (run.2.1 + run.2.2.2 < 0xD800 ∨ 0xE000 ≤ run.1 + run.2.2.2 ∧ run.2.1 + run.2.2.2 < 0x110000)

instance (run : CaseRun) : Decidable run.HasImage := inferInstanceAs (Decidable (_ ∧ _))

/-- What the run covers is covered and moved alike by the whole run. -/
def IsPartOf (run whole : CaseRun) : Prop :=
  whole.1 ≤ run.1 ∧ run.2.1 ≤ whole.2.1 ∧ whole.2.2.1 ∣ run.1 - whole.1 ∧
    (run.1 = run.2.1 ∨ whole.2.2.1 ∣ run.2.2.1) ∧ run.2.2.2 = whole.2.2.2

instance (run whole : CaseRun) : Decidable (run.IsPartOf whole) :=
  inferInstanceAs (Decidable (_ ∧ _))

/-- The code points of the run are all even or all odd. -/
def hasParity (run : CaseRun) : Bool := run.1.beq run.2.1 || run.2.2.1.beq 2

/-- The runs cover no code point together: one ends before the other starts, or one is even and the
other odd. -/
def isApart (run other : CaseRun) : Bool :=
  run.2.1.blt other.1 || other.2.1.blt run.1 ||
    run.hasParity && other.hasParity && run.1 % 2 != other.1 % 2

/-- A run of the other table moves all characters back. In an ascending table only the first run
that ends late enough can. -/
def IsUndoneIn (run : CaseRun) (others : List CaseRun) : Prop :=
  ∃ back ∈ others.find? fun other => Nat.ble run.image.2.1 other.2.1, run.image.IsPartOf back

instance (run : CaseRun) (others : List CaseRun) : Decidable (run.IsUndoneIn others) :=
  inferInstanceAs (Decidable (∃ back ∈ _, _))

/-- The code points of a run. -/
def codes (run : CaseRun) : List ℕ :=
  (List.range ((run.2.1 - run.1) / run.2.2.1 + 1)).map fun k => run.1 + k * run.2.2.1

theorem covers_single (n : ℕ) : (single n).covers n = true := covers_iff.mpr (by simp [single])

theorem mem_codes_of_covers (h : run.covers n = true) : n ∈ run.codes := by
  obtain ⟨hfirst, hlast, hstep⟩ := covers_iff.mp h
  refine List.mem_map.mpr ⟨(n - run.1) / run.2.2.1, List.mem_range.mpr ?_, ?_⟩
  · exact Nat.lt_succ_of_le (Nat.div_le_div_right (Nat.sub_le_sub_right hlast run.1))
  · rw [Nat.div_mul_cancel hstep, Nat.add_sub_cancel' hfirst]

theorem covers_image (himage : run.HasImage) (h : run.covers n = true) :
    run.image.covers (n + run.2.2.2).toNat = true := by
  obtain ⟨hfirst, hlast, hstep⟩ := covers_iff.mp h
  have hmoved : (n + run.2.2.2).toNat - (run.1 + run.2.2.2).toNat = n - run.1 := by
    have := himage.1
    omega
  refine covers_iff.mpr ⟨?_, ?_, hmoved ▸ hstep⟩
  · exact Int.toNat_le_toNat (by omega)
  · exact Int.toNat_le_toNat (by omega)

theorem IsPartOf.covers (hpart : run.IsPartOf whole) (h : run.covers n = true) :
    whole.covers n = true := by
  obtain ⟨hfirst, hlast, hstep⟩ := covers_iff.mp h
  obtain ⟨hstart, hstop, hoffset, hsteps, -⟩ := hpart
  have hrest : whole.2.2.1 ∣ n - run.1 := by
    rcases hsteps with hone | hsteps
    · rw [Nat.sub_eq_zero_of_le (by omega)]
      exact Nat.dvd_zero _
    · exact hsteps.trans hstep
  have hsum : n - whole.1 = (run.1 - whole.1) + (n - run.1) := by omega
  exact covers_iff.mpr ⟨hstart.trans hfirst, hlast.trans hstop, hsum ▸ Nat.dvd_add hoffset hrest⟩

theorem mod_two_of_hasParity (hparity : run.hasParity = true) (h : run.covers n = true) :
    n % 2 = run.1 % 2 := by
  obtain ⟨hfirst, hlast, hstep⟩ := covers_iff.mp h
  rw [hasParity, Bool.or_eq_true, Nat.beq_eq, Nat.beq_eq] at hparity
  rcases hparity with hone | htwo
  · rw [Nat.le_antisymm (hone ▸ hlast) hfirst]
  · rw [htwo] at hstep
    omega

/-- Runs that are apart do not cover the same. -/
theorem covers_eq_false_of_isApart (hapart : run.isApart other = true)
    (h : run.covers n = true) : other.covers n = false := by
  rw [← Bool.not_eq_true]
  intro hother
  obtain ⟨hfirst, hlast, -⟩ := covers_iff.mp h
  obtain ⟨hstart, hstop, -⟩ := covers_iff.mp hother
  simp only [isApart, Bool.or_eq_true, Bool.and_eq_true, Nat.blt_eq, bne_iff_ne] at hapart
  rcases hapart with (hbefore | hbehind) | ⟨⟨hparity, hotherParity⟩, hne⟩
  · omega
  · omega
  · exact hne ((mod_two_of_hasParity hparity h).symm.trans
      (mod_two_of_hasParity hotherParity hother))

theorem IsUndoneIn.exists_back {others : List CaseRun} (h : run.IsUndoneIn others) :
    ∃ back ∈ others, run.image.IsPartOf back := by
  obtain ⟨back, hback, hpart⟩ := h
  exact ⟨back, List.mem_of_find?_eq_some hback, hpart⟩

end CaseRun

/-! ## Tables -/

/-- A table of runs and expansions in which every character has one place. -/
structure IsCaseTable (runs : List CaseRun) (expansions : List (ℕ × List ℕ)) : Prop where
  ascending : runs.IsChain fun run next => run.1 ≤ run.2.1 ∧ run.2.1 < next.1
  hasImage : ∀ run ∈ runs, run.HasImage
  apart : (runs.all fun run => expansions.all fun e => run.isApart (.single e.1)) = true

theorem isCaseTable_upper : IsCaseTable upperRuns upperExpansions where
  ascending := by decide +kernel
  hasImage := by decide +kernel
  apart := by decide +kernel

theorem isCaseTable_lower : IsCaseTable lowerRuns lowerExpansions where
  ascending := by decide +kernel
  hasImage := by decide +kernel
  apart := by decide +kernel

namespace IsCaseTable

variable {runs others : List CaseRun} {expansions otherExpansions : List (ℕ × List ℕ)}
  {run : CaseRun} {c : Char}

theorem pairwise (h : IsCaseTable runs expansions) :
    runs.Pairwise fun run next => run.2.1 < next.1 := by
  have htrans : ∀ a b c : CaseRun, (a.1 ≤ a.2.1 ∧ a.2.1 < b.1) → (b.1 ≤ b.2.1 ∧ b.2.1 < c.1) →
      a.1 ≤ a.2.1 ∧ a.2.1 < c.1 := fun a b c hab hbc => by omega
  have : IsTrans CaseRun fun run next => run.1 ≤ run.2.1 ∧ run.2.1 < next.1 := ⟨htrans⟩
  exact (List.isChain_iff_pairwise.mp h.ascending).imp fun hnext => hnext.2

/-- A code point that a run covers is found in that run. -/
theorem find?_eq_some (h : IsCaseTable runs expansions) (hrun : run ∈ runs)
    (hcovers : run.covers n = true) : runs.find? (·.covers n) = some run := by
  have hpairwise := h.pairwise
  obtain ⟨before, after, rfl⟩ := List.append_of_mem hrun
  have hnone : before.find? (·.covers n) = none := by
    refine List.find?_eq_none.mpr fun other hother hboth => ?_
    have hlt := (List.pairwise_append.mp hpairwise).2.2 other hother run List.mem_cons_self
    have := (CaseRun.covers_iff.mp hboth).2.1
    have := (CaseRun.covers_iff.mp hcovers).1
    omega
  rw [List.find?_append, hnone, Option.none_or]
  exact List.find?_cons_of_pos hcovers

/-- A character that a run covers is moved by its shift. -/
theorem caseImage_of_covers (h : IsCaseTable runs expansions) (hrun : run ∈ runs)
    (hcovers : run.covers c.toNat = true) :
    caseImage runs expansions c = [Char.ofNat (c.toNat + run.2.2.2).toNat] := by
  have hexpansion : expansions.find? (·.1 == c.toNat) = none := by
    refine List.find?_eq_none.mpr fun e he heq => ?_
    have hapart := List.all_eq_true.mp (List.all_eq_true.mp h.apart run hrun) e he
    have hnot := CaseRun.covers_eq_false_of_isApart hapart hcovers
    rw [beq_iff_eq] at heq
    rw [← heq, CaseRun.covers_single] at hnot
    cases hnot
  rw [caseImage, hexpansion]
  simp only [h.find?_eq_some hrun hcovers]

theorem toNat_image (h : IsCaseTable runs expansions) (hrun : run ∈ runs)
    (hcovers : run.covers n = true) :
    (Char.ofNat (n + run.2.2.2).toNat).toNat = (n + run.2.2.2).toNat := by
  obtain ⟨hfirst, hlast, -⟩ := CaseRun.covers_iff.mp hcovers
  obtain ⟨hnonneg, hvalid⟩ := h.hasImage run hrun
  have hchar : (n + run.2.2.2).toNat.isValidChar := by
    rw [Nat.isValidChar]
    omega
  rw [Char.toNat_ofNat, if_pos hchar]

/-- What a run moves is moved back by the other table if the run is undone there. -/
theorem exists_caseImage (h : IsCaseTable runs expansions)
    (hothers : IsCaseTable others otherExpansions) (hrun : run ∈ runs)
    (hundone : run.IsUndoneIn others) (hcovers : run.covers c.toNat = true) :
    ∃ d, caseImage runs expansions c = [d] ∧ caseImage others otherExpansions d = [c] := by
  obtain ⟨back, hback, hpart⟩ := hundone.exists_back
  have hmoved := h.toNat_image hrun hcovers
  have hreturn := hpart.covers (CaseRun.covers_image (h.hasImage run hrun) hcovers)
  have hfirst := (CaseRun.covers_iff.mp hcovers).1
  have hnonneg := (h.hasImage run hrun).1
  refine ⟨_, h.caseImage_of_covers hrun hcovers, ?_⟩
  rw [hothers.caseImage_of_covers hback (by rwa [hmoved]), hmoved, ← hpart.2.2.2.2]
  have hcode : (((c.toNat + run.2.2.2).toNat : ℤ) + run.image.2.2.2).toNat = c.toNat := by
    simp only [CaseRun.image]
    omega
  rw [hcode, Char.ofNat_toNat]

end IsCaseTable

/-- A character is expanded, or it is in a run, or it stays. -/
theorem caseImage_cases (runs : List CaseRun) (expansions : List (ℕ × List ℕ)) (c : Char) :
    (∃ e ∈ expansions, e.1 = c.toNat ∧ caseImage runs expansions c = e.2.map Char.ofNat) ∨
      (∃ run ∈ runs, run.covers c.toNat = true) ∨ caseImage runs expansions c = [c] := by
  rw [caseImage]
  split
  · next e he =>
    exact .inl ⟨e, List.mem_of_find?_eq_some he, by simpa using List.find?_some he, rfl⟩
  · split
    · next run hrun =>
      exact .inr (.inl ⟨run, List.mem_of_find?_eq_some hrun, by simpa using List.find?_some hrun⟩)
    · exact .inr (.inr rfl)

/-- The runs of a table and a run for each of its expansions. -/
def movedRuns (runs : List CaseRun) (expansions : List (ℕ × List ℕ)) : List CaseRun :=
  runs ++ expansions.map fun e => .single e.1

theorem exists_movedRun {runs : List CaseRun} {expansions : List (ℕ × List ℕ)} {c : Char}
    (h : caseImage runs expansions c ≠ [c]) :
    ∃ run ∈ movedRuns runs expansions, run.covers c.toNat = true := by
  rcases caseImage_cases runs expansions c with ⟨e, he, hcode, -⟩ | ⟨run, hrun, hcovers⟩ | hself
  · exact ⟨.single e.1, List.mem_append_right _ (List.mem_map_of_mem he),
      hcode ▸ CaseRun.covers_single e.1⟩
  · exact ⟨run, List.mem_append_left _ hrun, hcovers⟩
  · exact absurd hself h

/-! ## Characters that are not led back -/

/-- Code points of the letters in title case, which have a capital and a small letter besides. -/
def titleLetters : List ℕ :=
  [0x1C5, 0x1C8, 0x1CB, 0x1F2] ++ List.range' 0x1F88 8 ++ List.range' 0x1F98 8 ++
    List.range' 0x1FA8 8 ++ [0x1FBC, 0x1FCC, 0x1FFC]

/-- Code points of the characters with one capital whose small letter is another character: the
micro sign, the i without a dot, the long s and its form with a dot, and rare forms of Greek and
Cyrillic letters. -/
def rareSmalls : List ℕ :=
  [0xB5, 0x131, 0x17F, 0x345, 0x3C2, 0x3D0, 0x3D1, 0x3D5, 0x3D6, 0x3F0, 0x3F1, 0x3F5] ++
    List.range' 0x1C80 9 ++ [0x1E9B, 0x1FBE]

/-- Code points of the characters that are not the capital of their small letter: the I with a dot,
the theta symbol, the capital sharp s, and the signs of Ohm, Kelvin and Ångström. -/
def rareCapitals : List ℕ := [0x130, 0x3F4, 0x1E9E, 0x2126, 0x212A, 0x212B]

/-- The character cannot be told from its capitals: there are several, or they belong to another
small letter. -/
def LosesSmall (c : Char) : Prop :=
  c.toNat ∈ upperExpansions.map Prod.fst ∨ c.toNat ∈ rareSmalls

instance (c : Char) : Decidable (LosesSmall c) := inferInstanceAs (Decidable (_ ∨ _))

/-- The character cannot be told from its small letter, which belongs to another capital. -/
def LosesCapital (c : Char) : Prop := c.toNat ∈ rareCapitals

instance (c : Char) : Decidable (LosesCapital c) := inferInstanceAs (Decidable (_ ∈ rareCapitals))

/-- The run has one code point, and that is a letter in title case. -/
def CaseRun.isTitle (run : CaseRun) : Bool := run.1.beq run.2.1 && titleLetters.contains run.1

/-- Only letters in title case are moved by both tables. -/
theorem isApart_or_isTitle : ((movedRuns upperRuns upperExpansions).all fun run =>
    (movedRuns lowerRuns lowerExpansions).all fun other =>
      run.isApart other || run.isTitle) = true := by decide +kernel

/-- Small letters come back, but for the rare ones. -/
theorem isUndoneIn_lowerRuns : ∀ run ∈ upperRuns, run.IsUndoneIn lowerRuns ∨
    ∀ n ∈ run.codes, n ∈ titleLetters ∨ n ∈ rareSmalls := by decide +kernel

/-- Capitals come back, but for the rare ones. Two runs that start with letters in title case are
undone by several runs. -/
theorem isUndoneIn_upperRuns : ∀ run ∈ lowerRuns, run.IsUndoneIn upperRuns ∨
    ∀ n ∈ run.codes, n ∈ titleLetters ∨ n ∈ rareCapitals ∨
      capitalize (lowerChar (Char.ofNat n)) = upperChar (Char.ofNat n) := by decide +kernel

/-- What holds of the characters of a list of code points holds of a character whose code point is
in the list. -/
@[elab_as_elim]
theorem of_toNat_mem {codes : List ℕ} {P : Char → Prop} {c : Char} (hc : c.toNat ∈ codes)
    (h : ∀ n ∈ codes, P (Char.ofNat n)) : P c := by
  have hchar := h c.toNat hc
  rwa [Char.ofNat_toNat] at hchar

theorem of_mem_titleLetters {c : Char} (h : c.toNat ∈ titleLetters) :
    capitalize (lowerChar c) = upperChar c ∧
      (c.toNat ∈ upperExpansions.map Prod.fst ∨
        uncapitalize (upperChar c) = lowerChar c ∧ capitalize (upperChar c) = upperChar c) :=
  of_toNat_mem h (by decide +kernel)

theorem of_mem_rareSmalls {c : Char} (h : c.toNat ∈ rareSmalls) :
    uncapitalize (upperChar c) ≠ lowerChar c ∧ capitalize (upperChar c) = upperChar c :=
  of_toNat_mem h (by decide +kernel)

theorem of_mem_rareCapitals {c : Char} (h : c.toNat ∈ rareCapitals) :
    capitalize (lowerChar c) ≠ upperChar c ∧ upperChar c = [c] :=
  of_toNat_mem h (by decide +kernel)

theorem of_mem_upperExpansions : ∀ e ∈ upperExpansions, 2 ≤ e.2.length ∧
    capitalize (e.2.map Char.ofNat) = e.2.map Char.ofNat := by decide +kernel

/-- A character that is no letter in title case stays in one of the tables. -/
theorem upperChar_eq_or_lowerChar_eq {c : Char} (h : c.toNat ∉ titleLetters) :
    upperChar c = [c] ∨ lowerChar c = [c] := by
  by_contra hmoved
  obtain ⟨hupper, hlower⟩ := not_or.mp hmoved
  obtain ⟨run, hrun, hcovers⟩ := exists_movedRun hupper
  obtain ⟨other, hother, hboth⟩ := exists_movedRun hlower
  have hcases := List.all_eq_true.mp (List.all_eq_true.mp isApart_or_isTitle run hrun) other hother
  rw [Bool.or_eq_true] at hcases
  rcases hcases with hapart | htitle
  · rw [CaseRun.covers_eq_false_of_isApart hapart hcovers] at hboth
    cases hboth
  · rw [CaseRun.isTitle, Bool.and_eq_true, Nat.beq_eq, List.contains_iff_mem] at htitle
    obtain ⟨hfirst, hlast, -⟩ := CaseRun.covers_iff.mp hcovers
    have hcode : run.1 = c.toNat := by omega
    exact h (hcode ▸ htitle.2)

/-! ## Single characters -/

theorem capitalize_singleton (c : Char) : capitalize [c] = upperChar c := List.append_nil _

theorem uncapitalize_singleton (c : Char) : uncapitalize [c] = lowerChar c := List.append_nil _

/-- The capital of the small letter is the capital of the character unless that is a rare one. -/
theorem capitalize_lowerChar_iff {c : Char} :
    capitalize (lowerChar c) = upperChar c ↔ ¬ LosesCapital c := by
  by_cases hlost : LosesCapital c
  · exact iff_of_false (of_mem_rareCapitals hlost).1 (not_not.mpr hlost)
  refine iff_of_true ?_ hlost
  by_cases htitle : c.toNat ∈ titleLetters
  · exact (of_mem_titleLetters htitle).1
  rcases caseImage_cases lowerRuns lowerExpansions c with ⟨e, he, hcode, -⟩ | ⟨run, hrun, hcovers⟩ |
    hself
  · obtain rfl := List.mem_singleton.mp he
    exact absurd (by rw [LosesCapital, ← hcode]; decide) hlost
  · rcases isUndoneIn_upperRuns run hrun with hundone | hcodes
    · obtain ⟨d, hd, hback⟩ :=
        isCaseTable_lower.exists_caseImage isCaseTable_upper hrun hundone hcovers
      rcases upperChar_eq_or_lowerChar_eq htitle with hupper | hlower
      · rw [hupper, lowerChar, hd, capitalize_singleton]
        exact hback
      · rw [hlower, capitalize_singleton]
    · have hcode := hcodes c.toNat (CaseRun.mem_codes_of_covers hcovers)
      rw [Char.ofNat_toNat] at hcode
      exact (hcode.resolve_left htitle).resolve_left hlost
  · rw [lowerChar, hself, capitalize_singleton]

/-- A character has one small letter, except for the I with a dot. -/
theorem lowerChar_cases (c : Char) : (∃ d, lowerChar c = [d]) ∨
    c.toNat = 0x130 ∧ lowerChar c = [Char.ofNat 0x69, Char.ofNat 0x307] := by
  rcases caseImage_cases lowerRuns lowerExpansions c with ⟨e, he, hcode, himage⟩ |
    ⟨run, hrun, hcovers⟩ | hself
  · obtain rfl := List.mem_singleton.mp he
    exact .inr ⟨hcode.symm, himage⟩
  · exact .inl ⟨_, isCaseTable_lower.caseImage_of_covers hrun hcovers⟩
  · exact .inl ⟨c, hself⟩

theorem lowerChar_ne_nil (c : Char) : lowerChar c ≠ [] := by
  rcases lowerChar_cases c with ⟨d, hd⟩ | ⟨-, hd⟩ <;> simp [hd]

/-- A common character that is no letter in title case is a capital or comes back from its capital.
-/
theorem upperChar_cases {c : Char} (hlost : ¬ LosesSmall c) (htitle : c.toNat ∉ titleLetters) :
    upperChar c = [c] ∨ ∃ d, upperChar c = [d] ∧ lowerChar d = [c] := by
  obtain ⟨hone, hcommon⟩ := not_or.mp hlost
  rcases caseImage_cases upperRuns upperExpansions c with ⟨e, he, hcode, -⟩ | ⟨run, hrun, hcovers⟩ |
    hself
  · exact absurd (hcode ▸ List.mem_map_of_mem he) hone
  · rcases isUndoneIn_lowerRuns run hrun with hundone | hcodes
    · exact .inr (isCaseTable_upper.exists_caseImage isCaseTable_lower hrun hundone hcovers)
    · have hcode := hcodes c.toNat (CaseRun.mem_codes_of_covers hcovers)
      exact absurd hcode (not_or.mpr ⟨htitle, hcommon⟩)
  · exact .inl hself

theorem exists_upperExpansion {c : Char} (h : c.toNat ∈ upperExpansions.map Prod.fst) :
    ∃ e ∈ upperExpansions, e.1 = c.toNat ∧ upperChar c = e.2.map Char.ofNat := by
  have hsome : (upperExpansions.find? (·.1 == c.toNat)).isSome = true := by
    obtain ⟨e, he, hcode⟩ := List.mem_map.mp h
    exact List.find?_isSome.mpr ⟨e, he, beq_iff_eq.mpr hcode⟩
  obtain ⟨e, he⟩ := Option.isSome_iff_exists.mp hsome
  refine ⟨e, List.mem_of_find?_eq_some he, by simpa using List.find?_some he, ?_⟩
  rw [upperChar, caseImage, he]

/-- Several capitals are still several characters when the first of them is put in small letters. -/
theorem uncapitalize_upperChar_ne {c : Char} (h : c.toNat ∈ upperExpansions.map Prod.fst) :
    uncapitalize (upperChar c) ≠ lowerChar c := by
  have hdotted : 0x130 ∉ upperExpansions.map Prod.fst := by decide
  obtain ⟨e, he, -, himage⟩ := exists_upperExpansion h
  have hlength := (of_mem_upperExpansions e he).1
  obtain ⟨first, second, rest, heq⟩ : ∃ first second rest, e.2 = first :: second :: rest := by
    match hlist : e.2, hlength with
    | first :: second :: rest, _ => exact ⟨first, second, rest, rfl⟩
  have hpos := List.length_pos_iff.mpr (lowerChar_ne_nil (Char.ofNat first))
  rcases lowerChar_cases c with ⟨d, hd⟩ | ⟨hcode, -⟩
  · intro hsame
    have hcount := congrArg List.length hsame
    simp only [himage, heq, List.map_cons, uncapitalize, hd, List.length_append, List.length_cons,
      List.length_nil] at hcount
    omega
  · exact absurd (hcode ▸ h) hdotted

/-- The small letter of the first capital is the small letter of the character unless it is lost. -/
theorem uncapitalize_upperChar_iff {c : Char} :
    uncapitalize (upperChar c) = lowerChar c ↔ ¬ LosesSmall c := by
  by_cases hlost : LosesSmall c
  · refine iff_of_false ?_ (not_not.mpr hlost)
    rcases hlost with hexpanded | hrare
    · exact uncapitalize_upperChar_ne hexpanded
    · exact (of_mem_rareSmalls hrare).1
  refine iff_of_true ?_ hlost
  by_cases htitle : c.toNat ∈ titleLetters
  · exact ((of_mem_titleLetters htitle).2.resolve_left (not_or.mp hlost).1).1
  rcases upperChar_cases hlost htitle with hself | ⟨d, hd, hback⟩
  · rw [hself, uncapitalize_singleton]
  · rcases upperChar_eq_or_lowerChar_eq htitle with hupper | hlower
    · rw [hupper, uncapitalize_singleton]
    · rw [hd, hlower, uncapitalize_singleton, hback]

/-- Capitals stay when they are capitalized once more. -/
theorem capitalize_upperChar (c : Char) : capitalize (upperChar c) = upperChar c := by
  by_cases hexpanded : c.toNat ∈ upperExpansions.map Prod.fst
  · obtain ⟨e, he, -, himage⟩ := exists_upperExpansion hexpanded
    rw [himage]
    exact (of_mem_upperExpansions e he).2
  by_cases hrare : c.toNat ∈ rareSmalls
  · exact (of_mem_rareSmalls hrare).2
  by_cases htitle : c.toNat ∈ titleLetters
  · exact ((of_mem_titleLetters htitle).2.resolve_left hexpanded).2
  rcases upperChar_cases (not_or.mpr ⟨hexpanded, hrare⟩) htitle with hself | ⟨d, hd, hback⟩
  · rw [hself, capitalize_singleton, hself]
  · -- The capital has the character for its small letter, so both have the same capital.
    rw [hd, capitalize_singleton]
    by_cases hcapital : LosesCapital d
    · exact (of_mem_rareCapitals hcapital).2
    · rw [← capitalize_lowerChar_iff.mpr hcapital, hback, capitalize_singleton, hd]

/-! ## Texts -/

theorem capitalize_append {s : List Char} (hs : s ≠ []) (t : List Char) :
    capitalize (s ++ t) = capitalize s ++ t := by
  obtain ⟨c, s, rfl⟩ := List.exists_cons_of_ne_nil hs
  rw [List.cons_append, capitalize, capitalize, List.append_assoc]

theorem uncapitalize_append {s : List Char} (hs : s ≠ []) (t : List Char) :
    uncapitalize (s ++ t) = uncapitalize s ++ t := by
  obtain ⟨c, s, rfl⟩ := List.exists_cons_of_ne_nil hs
  rw [List.cons_append, uncapitalize, uncapitalize, List.append_assoc]

@[simp] theorem capitalize_capitalize (s : List Char) :
    capitalize (capitalize s) = capitalize s := by
  cases s with
  | nil => rfl
  | cons c s => rw [capitalize, capitalize_append (upperChar_ne_nil c), capitalize_upperChar]

/-- The small form of a text is that of its capitalized form unless its first character is lost. -/
theorem uncapitalize_capitalize_iff {s : List Char} :
    uncapitalize (capitalize s) = uncapitalize s ↔ ∀ c ∈ s.head?, ¬ LosesSmall c := by
  cases s with
  | nil => simp [capitalize, uncapitalize]
  | cons c s =>
    rw [capitalize, uncapitalize_append (upperChar_ne_nil c), uncapitalize,
      List.append_cancel_right_eq, uncapitalize_upperChar_iff]
    simp

/-- The capitalized form of a text is that of its small form unless its first character is a rare
capital. -/
theorem capitalize_uncapitalize_iff {s : List Char} :
    capitalize (uncapitalize s) = capitalize s ↔ ∀ c ∈ s.head?, ¬ LosesCapital c := by
  cases s with
  | nil => simp [capitalize, uncapitalize]
  | cons c s =>
    rw [uncapitalize, capitalize_append (lowerChar_ne_nil c), capitalize,
      List.append_cancel_right_eq, capitalize_lowerChar_iff]
    simp

end SheetSchema.Text
