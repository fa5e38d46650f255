import Mathlib
import SheetSchema.A1.Column
import SheetSchema.Proofs.Text.Ascii

/-!
# Letters and indices of columns

Letters without a zero digit write every index exactly once: the letters of an index are capitals
(`isCapitals_letters`) that add up to it (`indexOf_letters`), and capitals are the letters of what
they add up to (`letters_indexOf`). So a column is told by its letters and by its index alike.
-/

namespace SheetSchema.Column

/-! ## Values of letters -/

theorem letterValue_of_isUpper {c : Char} (h : c.isUpper = true) :
    letterValue c = (c.toNat : Int) - 64 := by
  have hl : ¬ c.isLower = true := by
    rw [Text.isLower_iff_toNat]
    have := Text.isUpper_iff_toNat.mp h
    omega
  rw [letterValue, Char.toUpper_eq_of_not_isLower hl]

theorem one_le_letterValue {c : Char} (h : c.isUpper = true) :
    1 ≤ letterValue c ∧ letterValue c ≤ 26 := by
  have := Text.isUpper_iff_toNat.mp h
  rw [letterValue_of_isUpper h]
  omega

theorem toNat_letter {n : Nat} (h : n < 26) : (letter n).toNat = 65 + n := by
  have hv : (65 + n).isValidChar := Or.inl (by omega)
  rw [letter, Char.ofNat, dif_pos hv]
  exact Char.toNat_ofNatAux hv

theorem isUpper_letter {n : Nat} (h : n < 26) : (letter n).isUpper = true := by
  rw [Text.isUpper_iff_toNat, toNat_letter h]
  omega

theorem letterValue_letter {n : Nat} (h : n < 26) : letterValue (letter n) = n + 1 := by
  rw [letterValue_of_isUpper (isUpper_letter h), toNat_letter h]
  omega

/-- The letter of a capital's value is the capital. -/
theorem letter_of_isUpper {c : Char} (h : c.isUpper = true) : letter (c.toNat - 65) = c := by
  have hc := Text.isUpper_iff_toNat.mp h
  apply Char.toNat_inj.mp
  rw [toNat_letter (by omega)]
  omega

/-! ## Numbers of columns -/

theorem numberFrom_append (acc : Int) (s t : List Char) :
    numberFrom acc (s ++ t) = numberFrom (numberFrom acc s) t := List.foldl_append

theorem numberFrom_concat (s : List Char) (c : Char) :
    numberFrom 0 (s ++ [c]) = numberFrom 0 s * 26 + letterValue c := by
  rw [numberFrom_append]
  rfl

theorem numberFrom_nonneg {s : List Char} (h : s.all Char.isUpper = true) :
    0 ≤ numberFrom 0 s := by
  induction s using List.reverseRecOn with
  | nil => exact le_refl 0
  | append_singleton s c ih =>
    simp only [List.all_append, List.all_cons, List.all_nil, Bool.and_true, Bool.and_eq_true] at h
    have := one_le_letterValue h.2
    have := ih h.1
    rw [numberFrom_concat]
    omega

/-- The number of capitals is positive, since no letter has the value zero. -/
theorem numberFrom_pos {s : List Char} (h : isCapitals s = true) : 0 < numberFrom 0 s := by
  simp only [isCapitals, Bool.and_eq_true] at h
  obtain rfl | ⟨t, c, rfl⟩ := s.eq_nil_or_concat'
  · simp at h
  simp only [List.all_append, List.all_cons, List.all_nil, Bool.and_true, Bool.and_eq_true] at h
  have := numberFrom_nonneg h.2.1
  have := one_le_letterValue h.2.2
  rw [numberFrom_concat]
  omega

theorem indexOf_nonneg {s : List Char} (h : isCapitals s = true) : 0 ≤ indexOf s := by
  have := numberFrom_pos h
  rw [indexOf]
  omega

/-! ## From an index to letters and back -/

theorem lettersReversed_of_lt {n : Nat} (h : n < 26) : lettersReversed n = [letter n] := by
  rw [lettersReversed, if_pos h, Nat.mod_eq_of_lt h]

theorem lettersReversed_of_le {n : Nat} (h : 26 ≤ n) :
    lettersReversed n = letter (n % 26) :: lettersReversed (n / 26 - 1) := by
  rw [lettersReversed, if_neg (by omega)]

/-- The letters of an index add up to its successor. -/
theorem numberFrom_lettersReversed (n : Nat) :
    numberFrom 0 (lettersReversed n).reverse = n + 1 := by
  induction n using Nat.strong_induction_on with
  | _ n ih =>
    have hmod : n % 26 < 26 := Nat.mod_lt n (by decide)
    rcases Nat.lt_or_ge n 26 with h | h
    · rw [lettersReversed_of_lt h, List.reverse_singleton]
      simp [numberFrom, letterValue_letter h]
    · rw [lettersReversed_of_le h, List.reverse_cons, numberFrom_concat, ih _ (by omega),
        letterValue_letter hmod]
      omega

theorem all_isUpper_lettersReversed (n : Nat) : (lettersReversed n).all Char.isUpper = true := by
  induction n using Nat.strong_induction_on with
  | _ n ih =>
    have hmod : n % 26 < 26 := Nat.mod_lt n (by decide)
    rcases Nat.lt_or_ge n 26 with h | h
    · simp [lettersReversed_of_lt h, isUpper_letter h]
    · rw [lettersReversed_of_le h, List.all_cons, isUpper_letter hmod, ih _ (by omega),
        Bool.true_and]

theorem lettersReversed_ne_nil (n : Nat) : lettersReversed n ≠ [] := by
  rw [lettersReversed]
  exact List.cons_ne_nil _ _

@[simp] theorem toList_letters (n : Nat) : (letters n).toList = (lettersReversed n).reverse :=
  String.toList_ofList

/-- The letters of an index are capitals. -/
theorem isCapitals_letters (n : Nat) : isCapitals (letters n).toList = true := by
  simp [isCapitals, lettersReversed_ne_nil, all_isUpper_lettersReversed]

/-- The letters of an index add up to it. -/
theorem indexOf_letters (n : Nat) : indexOf (letters n).toList = n := by
  rw [indexOf, toList_letters, numberFrom_lettersReversed]
  omega

/-- Capitals are the letters of the index that they add up to, last one first. -/
theorem lettersReversed_indexOf {s : List Char} (h : isCapitals s = true) :
    lettersReversed (indexOf s).toNat = s.reverse := by
  induction s using List.reverseRecOn with
  | nil => simp [isCapitals] at h
  | append_singleton s c ih =>
    simp only [isCapitals, List.all_append, List.all_cons, List.all_nil, Bool.and_true,
      Bool.and_eq_true] at h
    have hc := Text.isUpper_iff_toNat.mp h.2.2
    have hval := letterValue_of_isUpper h.2.2
    rw [List.reverse_append, List.reverse_singleton, List.singleton_append, indexOf,
      numberFrom_concat, hval]
    rcases s.eq_nil_or_concat' with rfl | ⟨t, d, hs⟩
    · have hn : (numberFrom 0 [] * 26 + ((c.toNat : Int) - 64) - 1).toNat = c.toNat - 65 := by
        simp [numberFrom]
        omega
      rw [hn, lettersReversed_of_lt (by omega), letter_of_isUpper h.2.2, List.reverse_nil]
    · have hcap : isCapitals s = true := by simp [isCapitals, hs] at h ⊢; exact h.1
      have hpos := numberFrom_pos hcap
      set m := numberFrom 0 s with hm
      have hlast : (m * 26 + ((c.toNat : Int) - 64) - 1).toNat % 26 = c.toNat - 65 := by omega
      have hrest : (m * 26 + ((c.toNat : Int) - 64) - 1).toNat / 26 - 1 = (indexOf s).toNat := by
        rw [indexOf, ← hm]
        omega
      rw [lettersReversed_of_le (by omega), hlast, hrest, letter_of_isUpper h.2.2, ih hcap]

/-- Capitals are the letters of the index that they add up to. -/
theorem letters_indexOf {s : String} (h : isCapitals s.toList = true) :
    letters (indexOf s.toList).toNat = s := by
  rw [letters, lettersReversed_indexOf h, List.reverse_reverse, String.ofList_toList]

end SheetSchema.Column
