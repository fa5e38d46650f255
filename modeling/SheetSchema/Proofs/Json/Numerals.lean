import Mathlib
import SheetSchema.Json.Parser
import SheetSchema.Json.Printer
import SheetSchema.Proofs.Text.Numeral

/-!
# Numbers read back

A whole number is written as its digits, behind a sign if it is negative. A reader takes digits as
long as there are any, so the number is read back if nothing behind it continues a numeral
(`Json.EndsNumeral`): no digit, no point and no exponent. It is read at all if it has no more digits
than may be written (`Json.readScalar_toString`).
-/

namespace SheetSchema

namespace Text

/-- Only the digits of zero start with a zero. -/
theorem eq_zero_of_head?_digitsOf {n : Nat} (h : (digitsOf n).head? = some '0') : n = 0 := by
  induction n using Nat.strong_induction_on with
  | _ n ih =>
    rw [digitsOf, Nat.toDigits_eq_if (by decide)] at h
    split at h
    · next hlt =>
      have hdigit : ∀ d < 10, Nat.digitChar d = '0' → d = 0 := by decide
      exact hdigit n hlt (by simpa using h)
    · next hge =>
      rw [List.head?_append_of_ne_nil _ Nat.toDigits_ne_nil] at h
      have := ih (n / 10) (by omega) h
      omega

/-- A number is written as its digits, behind a sign if it is negative. -/
theorem toList_toString (n : Int) :
    (toString n).toList = (if n < 0 then ['-'] else []) ++ digitsOf n.natAbs := by
  cases n with
  | ofNat m =>
    rw [if_neg (by simp)]
    exact String.toList_ofList
  | negSucc m =>
    rw [if_pos (Int.negSucc_lt_zero m)]
    exact String.toList_append.trans (congrArg ('-' :: ·) String.toList_ofList)

end Text

namespace Json

/-- Nothing in front of the text is continued by it as a numeral. -/
def EndsNumeral (rest : List Char) : Prop :=
  ∀ c ∈ rest.head?, c.isDigit = false ∧ c ≠ '.' ∧ c ≠ 'e' ∧ c ≠ 'E'

theorem endsNumeral_nil : EndsNumeral [] := by simp [EndsNumeral]

variable {rest : List Char}

/-- Digits are taken as long as there are any. -/
theorem takeWhile_digits (h : EndsNumeral rest) {digits : List Char}
    (hdigits : ∀ c ∈ digits, c.isDigit = true) :
    (digits ++ rest).takeWhile Char.isDigit = digits ∧
      (digits ++ rest).dropWhile Char.isDigit = rest := by
  rw [List.takeWhile_append_of_pos hdigits, List.dropWhile_append_of_pos hdigits]
  cases rest with
  | nil => simp
  | cons c rest => simp [(h c rfl).1]

theorem readFraction_eq_none (h : EndsNumeral rest) : readFraction rest = none := by
  unfold readFraction
  split
  · exact absurd rfl (h _ rfl).2.1
  · rfl

theorem readExponent_eq_none (h : EndsNumeral rest) : readExponent rest = none := by
  cases rest with
  | nil => rfl
  | cons c rest => rw [readExponent, if_neg (by simp [h c rfl])]

theorem digitsValue_digitsOf (n : Nat) : digitsValue (Text.digitsOf n) = n :=
  Nat.ofDigitChars_toDigits (by decide) (by decide)

theorem readWhole_digitsOf (h : EndsNumeral rest) (n : Nat) :
    readWhole (Text.digitsOf n ++ rest) = some (Text.digitsOf n, rest) := by
  obtain ⟨c, digits, hdigits⟩ := List.exists_cons_of_ne_nil (Text.digitsOf_ne_nil n)
  have hall : ∀ d ∈ c :: digits, d.isDigit = true := fun d hd =>
    Text.isDigit_of_mem_digitsOf (hdigits ▸ hd)
  by_cases hzero : c = '0'
  · -- A zero is not followed by more digits.
    obtain rfl : n = 0 := Text.eq_zero_of_head?_digitsOf (by rw [hdigits, hzero]; rfl)
    rfl
  · obtain ⟨htake, hdrop⟩ := takeWhile_digits h hall
    rw [hdigits, List.cons_append, readWhole, if_pos (hall c List.mem_cons_self),
      ← List.cons_append, htake, hdrop]
    simpa using hzero

theorem readUnsigned_digitsOf (h : EndsNumeral rest) (negative : Bool) (n : Nat) :
    readUnsigned negative (Text.digitsOf n ++ rest) =
      some (⟨negative, Text.digitsOf n, [], none⟩, rest) := by
  rw [readUnsigned, readWhole_digitsOf h]
  simp [readFraction_eq_none h, readExponent_eq_none h]

/-- The numeral that is written for a number. -/
def literalOf (n : Int) : NumberLiteral := ⟨decide (n < 0), Text.digitsOf n.natAbs, [], none⟩

theorem value_literalOf {n : Int} (h : Decimal.isWritable n = true) :
    (literalOf n).value = .ok (.int n) := by
  have hreadable : Decimal.isReadable (Text.digitsOf n.natAbs).length = true :=
    (isReadable_digitsOf _).trans h
  have hint : (literalOf n).toInt = n := by
    simp only [NumberLiteral.toInt, literalOf, digitsValue_digitsOf, decide_eq_true_eq]
    omega
  rw [NumberLiteral.value, hint]
  simp [literalOf, hreadable]

/-- What is written for a number starts with a digit, or with a sign and a digit. -/
theorem exists_toString_cons (n : Int) : ∃ d digits, d.isDigit = true ∧
    Text.digitsOf n.natAbs = d :: digits ∧
    (toString n).toList = (if n < 0 then ['-'] else []) ++ d :: digits := by
  obtain ⟨d, digits, hdigits⟩ := List.exists_cons_of_ne_nil (Text.digitsOf_ne_nil n.natAbs)
  refine ⟨d, digits, Text.isDigit_of_mem_digitsOf (hdigits ▸ List.mem_cons_self), hdigits, ?_⟩
  rw [Text.toList_toString, hdigits]

/-- What is written for a number starts with no other character than a sign or a digit. -/
theorem exists_toString_start (n : Int) : ∃ c rest, (toString n).toList = c :: rest ∧
    ∀ other, other ≠ '-' → other.isDigit = false → c ≠ other := by
  obtain ⟨d, digits, hd, -, hwritten⟩ := exists_toString_cons n
  rw [hwritten]
  split
  · exact ⟨'-', d :: digits, rfl, fun other hsign _ => Ne.symm hsign⟩
  · refine ⟨d, digits, rfl, ?_⟩
    rintro _ _ hother rfl
    rw [hd] at hother
    cases hother

theorem readNumber_toString (h : EndsNumeral rest) (n : Int) :
    readNumber ((toString n).toList ++ rest) = some (literalOf n, rest) := by
  have hunsigned := readUnsigned_digitsOf h (decide (n < 0)) n.natAbs
  rw [Text.toList_toString, literalOf, ← hunsigned]
  by_cases hneg : n < 0
  · simp [hneg, readNumber]
  · obtain ⟨d, digits, hd, hdigits, -⟩ := exists_toString_cons n
    have hsign : d ≠ '-' := by
      rintro rfl
      cases hd
    simp [hneg, hdigits, readNumber, hsign]

theorem readWord_toString (n : Int) : readWord ((toString n).toList ++ rest) = none := by
  obtain ⟨d, digits, hd, -, hwritten⟩ := exists_toString_cons n
  have hword : ∀ c, c.isDigit = false → c ≠ d := by
    rintro c hc rfl
    rw [hd] at hc
    cases hc
  rw [hwritten]
  split <;> simp [readWord, words, hword 'n' rfl, hword 't' rfl, hword 'f' rfl, hword 'N' rfl,
    hword 'I' rfl, hword '-' rfl]

/-- A number is read back if it may be written. -/
theorem readScalar_toString (h : EndsNumeral rest) {n : Int} (hn : Decimal.isWritable n = true) :
    readScalar ((toString n).toList ++ rest) = .ok (.int n, rest) := by
  rw [readScalar, readWord_toString, readNumber_toString h]
  simp only [value_literalOf hn]

end Json

end SheetSchema
