import Mathlib
import SheetSchema.Proofs.A1.Range

/-!
# The order of columns

Columns are ordered by their letters as by their indices, a shorter word before a longer one and
words of one length by the alphabet (`numberFrom_lt_iff_shortlex`). What carries this is that the
numbers of all words of one length lie between two powers of 26 (`numberFrom_bounds`): so a longer
word has a greater number, and of two words of one length the first letter that differs decides.

Letters may be small. A word has the index of its capitals (`indexOf_upper`), and the index has
these capitals for its letters, so letters and indices number the columns alike (`numbers_columns`).
-/

namespace SheetSchema.Column

variable {s t : List Char}

/-! ## Words of small letters and capitals -/

/-- Letters of either case, and at least one. No line end follows, as it may in `isLetters`. -/
def IsWord (s : List Char) : Prop := s ≠ [] ∧ ∀ c ∈ s, c.isAlpha = true

theorem IsWord.isAlphanum (h : IsWord s) : ∀ c ∈ s, c.isAlphanum = true := fun c hc => by
  simp [Char.isAlphanum, h.2 c hc]

theorem IsWord.isLetters (h : IsWord s) : isLetters s = true := by
  rw [Column.isLetters, A1.withoutFinalNewline_of_isAlphanum h.isAlphanum]
  simpa [h.1] using h.2

/-- The capitals of a word are capitals. -/
theorem IsWord.isCapitals_upper (h : IsWord s) : isCapitals (Text.upper s) = true := by
  rw [Text.upper_of_isAlpha h.2]
  simpa [isCapitals, h.1] using h.2

theorem letterValue_toUpper (c : Char) : letterValue c.toUpper = letterValue c := by
  rw [letterValue, letterValue, Char.toUpper_toUpper_eq_toUpper]

/-- A word has the index of its capitals. -/
theorem indexOf_upper (h : IsWord s) : indexOf (Text.upper s) = indexOf s := by
  rw [indexOf, indexOf, Text.upper_of_isAlpha h.2, numberFrom, List.foldl_map]
  simp only [letterValue_toUpper]
  rfl

theorem IsWord.indexOf_nonneg (h : IsWord s) : 0 ≤ indexOf s :=
  indexOf_upper h ▸ Column.indexOf_nonneg h.isCapitals_upper

theorem index_of_isWord {letters : String} (h : IsWord letters.toList) :
    index letters = .ok (indexOf letters.toList) := by
  rw [index, if_pos h.isLetters]

theorem lettersOf_natCast (n : ℕ) : lettersOf n = .ok (letters n) := by
  simp [lettersOf]

/-- The index of a word has its capitals for letters. -/
theorem lettersOf_indexOf (h : IsWord s) :
    lettersOf (indexOf s) = .ok (String.ofList (Text.upper s)) := by
  have hcapitals := h.isCapitals_upper
  have hletters := letters_indexOf (s := String.ofList (Text.upper s)) (by simpa using hcapitals)
  rw [String.toList_ofList, indexOf_upper h] at hletters
  rw [lettersOf, if_neg (not_lt.mpr h.indexOf_nonneg), hletters]

/-! ## Numbers of words -/

theorem numberFrom_eq (acc : ℤ) (s : List Char) :
    numberFrom acc s = acc * 26 ^ s.length + numberFrom 0 s := by
  induction s using List.reverseRecOn with
  | nil => simp [numberFrom]
  | append_singleton s c ih =>
    rw [numberFrom_append, numberFrom_concat, ih, List.length_append, List.length_singleton,
      pow_succ]
    simp only [numberFrom, List.foldl_cons, List.foldl_nil]
    ring

theorem numberFrom_cons (c : Char) (s : List Char) :
    numberFrom 0 (c :: s) = letterValue c * 26 ^ s.length + numberFrom 0 s := by
  rw [← numberFrom_eq, numberFrom, numberFrom, List.foldl_cons, zero_mul, zero_add]

/-- The numbers of the words of one length lie between two powers. -/
theorem numberFrom_bounds (h : s.all Char.isUpper = true) :
    26 ^ s.length ≤ 25 * numberFrom 0 s + 1 ∧ 25 * numberFrom 0 s + 26 ≤ 26 ^ (s.length + 1) := by
  induction s with
  | nil => simp [numberFrom]
  | cons c s ih =>
    simp only [List.all_cons, Bool.and_eq_true] at h
    obtain ⟨hone, hlast⟩ := one_le_letterValue h.1
    obtain ⟨hlo, hhi⟩ := ih h.2
    have hpow : (0 : ℤ) ≤ 26 ^ s.length := by positivity
    have hleast := mul_le_mul_of_nonneg_right hone hpow
    have hmost := mul_le_mul_of_nonneg_right hlast hpow
    rw [numberFrom_cons, List.length_cons, pow_succ, pow_succ]
    rw [pow_succ] at hhi
    omega

theorem numberFrom_lt_of_length_lt (hs : s.all Char.isUpper = true) (ht : t.all Char.isUpper = true)
    (h : s.length < t.length) : numberFrom 0 s < numberFrom 0 t := by
  have hpow : (26 : ℤ) ^ (s.length + 1) ≤ 26 ^ t.length := pow_le_pow_right₀ (by decide) h
  have := (numberFrom_bounds hs).2
  have := (numberFrom_bounds ht).1
  omega

theorem letterValue_lt {c d : Char} (hc : c.isUpper = true) (hd : d.isUpper = true) (h : c < d) :
    letterValue c < letterValue d := by
  have hcode : c.toNat < d.toNat := h
  rw [letterValue_of_isUpper hc, letterValue_of_isUpper hd]
  omega

/-- Of two words of one length the first letter that differs decides. -/
theorem numberFrom_lt_of_lex (hs : s.all Char.isUpper = true) (ht : t.all Char.isUpper = true)
    (hlength : s.length = t.length) (h : List.Lex (· < ·) s t) :
    numberFrom 0 s < numberFrom 0 t := by
  induction h with
  | nil => simp at hlength
  | @cons c s t _ ih =>
    simp only [List.all_cons, Bool.and_eq_true] at hs ht
    simp only [List.length_cons, Nat.add_right_cancel_iff] at hlength
    have := ih hs.2 ht.2 hlength
    rw [numberFrom_cons, numberFrom_cons, hlength]
    omega
  | @rel c s d t hcd =>
    simp only [List.all_cons, Bool.and_eq_true] at hs ht
    simp only [List.length_cons, Nat.add_right_cancel_iff] at hlength
    -- A greater letter counts for one power more than all letters behind the other can make up.
    have hpow : (0 : ℤ) ≤ 26 ^ t.length := by positivity
    have hvalue :=
      mul_le_mul_of_nonneg_right (Int.add_one_le_of_lt (letterValue_lt hs.1 ht.1 hcd)) hpow
    have hhi := (numberFrom_bounds hs.2).2
    have hlo := (numberFrom_bounds ht.2).1
    rw [numberFrom_cons, numberFrom_cons, hlength]
    rw [hlength, pow_succ] at hhi
    rw [add_mul] at hvalue
    omega

theorem numberFrom_lt_of_shortlex (hs : s.all Char.isUpper = true) (ht : t.all Char.isUpper = true)
    (h : List.Shortlex (· < ·) s t) : numberFrom 0 s < numberFrom 0 t := by
  rcases List.shortlex_def.mp h with hlength | ⟨hlength, hlex⟩
  · exact numberFrom_lt_of_length_lt hs ht hlength
  · exact numberFrom_lt_of_lex hs ht hlength hlex

/-- Capitals are ordered by length and then by the alphabet as by their numbers. -/
theorem numberFrom_lt_iff_shortlex (hs : s.all Char.isUpper = true)
    (ht : t.all Char.isUpper = true) :
    numberFrom 0 s < numberFrom 0 t ↔ List.Shortlex (· < ·) s t := by
  refine ⟨fun h => ?_, numberFrom_lt_of_shortlex hs ht⟩
  rcases trichotomous_of (List.Shortlex (· < ·)) s t with hst | rfl | hts
  · exact hst
  · exact absurd h (lt_irrefl _)
  · exact absurd (numberFrom_lt_of_shortlex ht hs hts) (lt_asymm h)

/-- Words are ordered by the indices of their columns as their capitals are by length and then by
the alphabet. -/
theorem indexOf_lt_iff_shortlex (hs : IsWord s) (ht : IsWord t) :
    indexOf s < indexOf t ↔ List.Shortlex (· < ·) (Text.upper s) (Text.upper t) := by
  have hcapitals : ∀ {u}, IsWord u → (Text.upper u).all Char.isUpper = true := fun hu => by
    have := hu.isCapitals_upper
    rw [isCapitals, Bool.and_eq_true] at this
    exact this.2
  rw [← indexOf_upper hs, ← indexOf_upper ht, indexOf, indexOf, sub_lt_sub_iff_right,
    numberFrom_lt_iff_shortlex (hcapitals hs) (hcapitals ht)]

/-! ## The numbering -/

/-- Letters and indices number the columns alike. Every index has letters, which are capitals and
are read as the index. Every word is read as an index, whose letters are its capitals. And the
indices are in the order of the capitals, the shorter before the longer and then by the alphabet. -/
theorem numbers_columns :
    (∀ n : ℕ, ∃ s, lettersOf n = .ok s ∧ isCapitals s.toList = true ∧ index s = .ok (n : ℤ)) ∧
    (∀ s : String, IsWord s.toList → ∃ n : ℕ, index s = .ok (n : ℤ) ∧
      lettersOf n = .ok (String.ofList (Text.upper s.toList))) ∧
    ∀ s t : String, IsWord s.toList → IsWord t.toList → ∃ m n : ℤ, index s = .ok m ∧
      index t = .ok n ∧
      (m < n ↔ List.Shortlex (· < ·) (Text.upper s.toList) (Text.upper t.toList)) := by
  refine ⟨fun n => ?_, fun s hs => ?_, fun s t hs ht => ?_⟩
  · exact ⟨letters n, lettersOf_natCast n, isCapitals_letters n, A1.index_letters n⟩
  · obtain ⟨n, hn⟩ := Int.eq_ofNat_of_zero_le hs.indexOf_nonneg
    exact ⟨n, hn ▸ index_of_isWord hs, hn ▸ lettersOf_indexOf hs⟩
  · exact ⟨_, _, index_of_isWord hs, index_of_isWord ht, indexOf_lt_iff_shortlex hs ht⟩

/-- The last column of one letter stands before the first one of two. -/
theorem numbers_columns_z_aa : ∃ m n : ℤ, index "z" = .ok m ∧ index "Aa" = .ok n ∧
    (m < n ↔ List.Shortlex (· < ·) (Text.upper "z".toList) (Text.upper "Aa".toList)) :=
  numbers_columns.2.2 "z" "Aa" (by simp [IsWord]) (by simp [IsWord])

end SheetSchema.Column
