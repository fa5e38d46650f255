import Mathlib
import SheetSchema.Text.Case
import SheetSchema.Text.Digit
import SheetSchema.Text.Class
import SheetSchema.Proofs.Text.Cut

/-!
# Letters and digits of ASCII

Where the ASCII letters and digits lie among the code points, and what follows for the tables: none
of them is blank, all of them are word characters, letters are no digits, and the capital and the
small letter of a letter are the ones of ASCII. Ten characters beyond ASCII have capitals that are
letters of ASCII (`foreignLetters`), and no others have (`all_isUpper_upperChar_iff`).
-/

namespace SheetSchema.Text

theorem isUpper_iff_toNat {c : Char} : c.isUpper = true ↔ 65 ≤ c.toNat ∧ c.toNat ≤ 90 := by
  simp [Char.isUpper, UInt32.le_iff_toNat_le, ← Char.toNat_val]

theorem isLower_iff_toNat {c : Char} : c.isLower = true ↔ 97 ≤ c.toNat ∧ c.toNat ≤ 122 := by
  simp [Char.isLower, UInt32.le_iff_toNat_le, ← Char.toNat_val]

theorem isAlpha_iff_toNat {c : Char} :
    c.isAlpha = true ↔ 65 ≤ c.toNat ∧ c.toNat ≤ 90 ∨ 97 ≤ c.toNat ∧ c.toNat ≤ 122 := by
  rw [Char.isAlpha, Bool.or_eq_true, isUpper_iff_toNat, isLower_iff_toNat]

theorem isAlpha_of_isUpper {c : Char} (h : c.isUpper = true) : c.isAlpha = true := by
  simp [Char.isAlpha, h]

theorem isAlphanum_of_isUpper {c : Char} (h : c.isUpper = true) : c.isAlphanum = true := by
  simp [Char.isAlphanum, isAlpha_of_isUpper h]

theorem isAlphanum_of_isDigit {c : Char} (h : c.isDigit = true) : c.isAlphanum = true := by
  simp [Char.isAlphanum, h]

theorem isAlpha_of_isDigit {c : Char} (h : c.isDigit = true) : c.isAlpha = false := by
  rw [Char.isDigit_iff_toNat] at h
  rw [← Bool.not_eq_true, isAlpha_iff_toNat]
  have : '9'.toNat = 57 := rfl
  omega

theorem toNat_of_isAlphanum {c : Char} (h : c.isAlphanum = true) :
    48 ≤ c.toNat ∧ c.toNat ≤ 122 := by
  rw [Char.isAlphanum, Bool.or_eq_true, isAlpha_iff_toNat, Char.isDigit_iff_toNat] at h
  have : '0'.toNat = 48 := rfl
  have : '9'.toNat = 57 := rfl
  omega

theorem isBlank_of_isAlphanum {c : Char} (h : c.isAlphanum = true) : isBlank c = false := by
  have hblank : ∀ n ∈ blanks, n < 48 ∨ 122 < n := by decide
  have hc := toNat_of_isAlphanum h
  rw [isBlank, List.contains_eq_mem, decide_eq_false_iff_not]
  intro hmem
  have := hblank _ hmem
  omega

/-- Letters and digits are trimmed already. -/
theorem trim_of_isAlphanum {s : List Char} (h : ∀ c ∈ s, c.isAlphanum = true) : trim s = s := by
  have hblank : ∀ c ∈ s, isBlank c = false := fun c hc => isBlank_of_isAlphanum (h c hc)
  exact trim_eq_self
    ⟨fun c hc => hblank c (List.mem_of_head? hc), fun c hc => hblank c (List.mem_of_getLast? hc)⟩

/-- Trimming loses no letter or digit. -/
theorem filter_isAlphanum_trim (s : List Char) :
    (trim s).filter Char.isAlphanum = s.filter Char.isAlphanum := by
  refine filter_trim (fun c hc => ?_) s
  rw [← Bool.not_eq_true]
  intro hc'
  rw [isBlank_of_isAlphanum hc'] at hc
  cases hc

theorem isWord_of_isAlphanum {c : Char} (h : c.isAlphanum = true) : isWord c = true := by
  have hranges : [(48, 57), (65, 90), (97, 122)] ⊆ wordRanges := by decide +kernel
  rw [Char.isAlphanum, Bool.or_eq_true, isAlpha_iff_toNat, Char.isDigit_iff_toNat] at h
  rw [isWord, inRanges_iff]
  rcases h with (h | h) | h
  · exact ⟨(65, 90), hranges (by simp), h⟩
  · exact ⟨(97, 122), hranges (by simp), h⟩
  · exact ⟨(48, 57), hranges (by simp), h⟩

theorem ne_of_isAlphanum {c d : Char} (h : c.isAlphanum = true) (hd : d.isAlphanum = false) :
    c ≠ d := by
  rintro rfl
  rw [h] at hd
  cases hd

theorem digitValue?_of_isAlpha {c : Char} (h : c.isAlpha = true) : digitValue? c = none := by
  have hzero : ∀ z ∈ zeros, z + 10 ≤ 65 ∨ 122 < z := by decide
  have hc := isAlpha_iff_toNat.mp h
  rw [digitValue?, Option.map_eq_none_iff, List.find?_eq_none]
  intro z hz
  have := hzero z hz
  simp only [Bool.and_eq_true, decide_eq_true_eq]
  omega

/-! ## Capitals and small letters -/

/-- A character in no run and with no expansion keeps its case. -/
theorem caseImage_eq_self {runs : List CaseRun} {expansions : List (Nat × List Nat)} {c : Char}
    (hruns : ∀ run ∈ runs, run.covers c.toNat = false)
    (hexpansions : ∀ e ∈ expansions, e.1 ≠ c.toNat) : caseImage runs expansions c = [c] := by
  have hrun : runs.find? (·.covers c.toNat) = none :=
    List.find?_eq_none.mpr fun run hr => by simp [hruns run hr]
  have hexpansion : expansions.find? (·.1 == c.toNat) = none :=
    List.find?_eq_none.mpr fun e he => by simp [hexpansions e he]
  rw [caseImage, hexpansion]
  simp only [hrun]

theorem find?_upperExpansions {c : Char} (h : c.toNat ≤ 122) :
    upperExpansions.find? (·.1 == c.toNat) = none := by
  have hexp : ∀ e ∈ upperExpansions, 122 < e.1 := by decide +kernel
  rw [List.find?_eq_none]
  intro e he heq
  have := hexp e he
  simp only [beq_iff_eq] at heq
  omega

theorem upperChar_of_isUpper {c : Char} (h : c.isUpper = true) : upperChar c = [c] := by
  have hruns : ∀ run ∈ upperRuns, 90 < run.1 := by decide +kernel
  have hexpansions : ∀ e ∈ upperExpansions, 90 < e.1 := by decide +kernel
  have hc := (isUpper_iff_toNat.mp h).2
  refine caseImage_eq_self (fun run hr => ?_) (fun e he => ?_)
  · rw [← Bool.not_eq_true]
    intro hcovers
    have := hruns run hr
    simp only [CaseRun.covers, Bool.and_eq_true, decide_eq_true_eq] at hcovers
    omega
  · have := hexpansions e he
    omega

/-- The capital of a letter of ASCII is the one of ASCII. -/
theorem upperChar_of_isAlpha {c : Char} (h : c.isAlpha = true) : upperChar c = [c.toUpper] := by
  cases hupper : c.isUpper with
  | true =>
    have hnotlower : ¬ c.isLower = true := by
      rw [isLower_iff_toNat]
      have := isUpper_iff_toNat.mp hupper
      omega
    rw [upperChar_of_isUpper hupper, Char.toUpper_eq_of_not_isLower hnotlower]
  | false =>
    have hlower : c.isLower = true := by simpa [Char.isAlpha, hupper] using h
    have hc := isLower_iff_toNat.mp hlower
    -- The small letters of ASCII are the first run of the table.
    obtain ⟨rest, hrest⟩ : ∃ rest, upperRuns = (97, 122, 1, -32) :: rest := ⟨_, rfl⟩
    have hrun : upperRuns.find? (·.covers c.toNat) = some (97, 122, 1, -32) := by
      rw [hrest, List.find?_cons_of_pos]
      simp [CaseRun.covers, hc, Nat.mod_one]
    rw [upperChar, caseImage, find?_upperExpansions hc.2]
    simp only [hrun]
    rw [Char.toUpper_eq_of_isLower hlower]
    congr 2
    omega

/-- A text in capitals is its own capitalization. -/
theorem upper_eq_self {s : List Char} (h : s.all Char.isUpper = true) : upper s = s := by
  induction s with
  | nil => rfl
  | cons c s ih =>
    simp only [List.all_cons, Bool.and_eq_true] at h
    rw [upper, List.flatMap_cons, upperChar_of_isUpper h.1]
    exact congrArg (c :: ·) (ih h.2)

/-- Letters of ASCII are capitalized one by one. -/
theorem upper_of_isAlpha {s : List Char} (h : ∀ c ∈ s, c.isAlpha = true) :
    upper s = s.map Char.toUpper := by
  rw [upper, List.flatMap_congr fun c hc => upperChar_of_isAlpha (h c hc),
    ← List.flatMap_pure_eq_map]
  rfl

/-- Code points of the characters beyond ASCII whose capitals are letters of ASCII: the sharp and
the long s, the i without a dot and seven ligatures. -/
def foreignLetters : List ℕ :=
  [0xDF, 0x131, 0x17F, 0xFB00, 0xFB01, 0xFB02, 0xFB03, 0xFB04, 0xFB05, 0xFB06]

theorem toNat_of_isUpper_ofNat {n : ℕ} (h : (Char.ofNat n).isUpper = true) : 65 ≤ n ∧ n ≤ 90 := by
  have hn := isUpper_iff_toNat.mp h
  rw [Char.toNat_ofNat] at hn
  split at hn <;> omega

/-- The capitals of a character are letters of ASCII if and only if it is such a letter itself or
one of the ten others. -/
theorem all_isUpper_upperChar_iff {c : Char} :
    (upperChar c).all Char.isUpper = true ↔ c.isAlpha = true ∨ c.toNat ∈ foreignLetters := by
  constructor
  · intro h
    have hexpansions : ∀ e ∈ upperExpansions, (e.2.map Char.ofNat).all Char.isUpper = true →
        e.1 ∈ foreignLetters := by decide +kernel
    -- A run beyond ASCII leads into ASCII only if it has one character.
    have hruns : ∀ run ∈ upperRuns, run = (97, 122, 1, -32) ∨
        run.1 = run.2.1 ∧ run.1 ∈ foreignLetters ∨ 90 < run.1 + run.2.2.2 := by decide +kernel
    rw [upperChar, caseImage] at h
    split at h
    · next e he =>
      have hcode := List.find?_some he
      rw [beq_iff_eq] at hcode
      exact .inr (hcode ▸ hexpansions e (List.mem_of_find?_eq_some he) h)
    · split at h
      · next run hrun =>
        have hcovers := List.find?_some hrun
        simp only [CaseRun.covers, Bool.and_eq_true, decide_eq_true_eq] at hcovers
        have himage := toNat_of_isUpper_ofNat (List.all_eq_true.mp h _ List.mem_cons_self)
        rcases hruns run (List.mem_of_find?_eq_some hrun) with rfl | ⟨hone, hmem⟩ | hbeyond
        · exact .inl (isAlpha_iff_toNat.mpr (.inr hcovers.1))
        · have hcode : c.toNat = run.1 := by omega
          exact .inr (hcode ▸ hmem)
        · omega
      · exact .inl (isAlpha_of_isUpper (List.all_eq_true.mp h c List.mem_cons_self))
  · rintro (h | h)
    · simp [upperChar_of_isAlpha h, h]
    · have hforeign : ∀ n ∈ foreignLetters, (upperChar (Char.ofNat n)).all Char.isUpper = true := by
        decide +kernel
      have := hforeign c.toNat h
      rwa [Char.ofNat_toNat] at this

theorem upperChar_ne_nil (c : Char) : upperChar c ≠ [] := by
  have hexpansions : ∀ e ∈ upperExpansions, e.2 ≠ [] := by decide +kernel
  rw [upperChar, caseImage]
  split
  · next e he => simpa using hexpansions e (List.mem_of_find?_eq_some he)
  · split <;> simp

theorem lowerChar_of_isUpper {c : Char} (h : c.isUpper = true) : lowerChar c = [c.toLower] := by
  have hc := isUpper_iff_toNat.mp h
  -- The capitals of ASCII are the first run of the table.
  obtain ⟨rest, hrest⟩ : ∃ rest, lowerRuns = (65, 90, 1, 32) :: rest := ⟨_, rfl⟩
  have hrun : lowerRuns.find? (·.covers c.toNat) = some (65, 90, 1, 32) := by
    rw [hrest, List.find?_cons_of_pos]
    simp [CaseRun.covers, hc, Nat.mod_one]
  have hexpansion : lowerExpansions.find? (·.1 == c.toNat) = none := by
    rw [List.find?_eq_none, lowerExpansions]
    simp
    omega
  rw [lowerChar, caseImage, hexpansion]
  simp only [hrun]
  rw [Char.toLower_eq_of_isUpper h]
  congr 2

/-- The small letter of a letter or digit of ASCII is the one of ASCII. -/
theorem lowerChar_of_isAlphanum {c : Char} (h : c.isAlphanum = true) :
    lowerChar c = [c.toLower] := by
  cases hupper : c.isUpper with
  | true => exact lowerChar_of_isUpper hupper
  | false =>
    have hruns : ∀ run ∈ lowerRuns, run.1 = 65 ∧ run.2.1 = 90 ∨ 122 < run.1 := by decide +kernel
    have hc := (toNat_of_isAlphanum h).2
    have hnot : ¬ (65 ≤ c.toNat ∧ c.toNat ≤ 90) := fun hcode => by
      simp [isUpper_iff_toNat.mpr hcode] at hupper
    rw [Char.toLower_eq_of_not_isUpper (by simp [hupper])]
    refine caseImage_eq_self (fun run hr => ?_) (fun e he => ?_)
    · rw [← Bool.not_eq_true]
      intro hcovers
      have := hruns run hr
      simp only [CaseRun.covers, Bool.and_eq_true, decide_eq_true_eq] at hcovers
      omega
    · obtain rfl : e = (304, [105, 775]) := List.mem_singleton.mp he
      dsimp only
      omega

/-- Letters and digits of ASCII are put in small letters one by one. -/
theorem lower_of_isAlphanum {s : List Char} (h : ∀ c ∈ s, c.isAlphanum = true) :
    lower s = s.map Char.toLower := by
  rw [lower, List.flatMap_congr fun c hc => lowerChar_of_isAlphanum (h c hc),
    ← List.flatMap_pure_eq_map]
  rfl

end SheetSchema.Text
