import Mathlib
import SheetSchema.Error
import SheetSchema.Proofs.Text.Ascii

/-!
# Numerals read back

A run of digits is read as the number that it writes in the decimal system, whatever its script
(`numeral?_eq_some_iff`). The digits that write a number are read as that number
(`numeral?_digitsOf`), and there are few enough of them to be read exactly if the number may be
written (`isReadable_digitsOf`). A number that was read may be written (`IsNumeral.isWritable`).
Letters are no digits, so no numeral starts with one.
-/

namespace SheetSchema

namespace Text

theorem digitValue?_digitChar : ∀ d < 10, digitValue? (Nat.digitChar d) = some d := by decide

theorem numeralFrom?_append (acc : Nat) (s t : List Char) :
    numeralFrom? acc (s ++ t) = (numeralFrom? acc s).bind fun v => numeralFrom? v t := by
  induction s generalizing acc with
  | nil => rfl
  | cons c s ih =>
    rw [List.cons_append, numeralFrom?, numeralFrom?]
    cases digitValue? c with
    | none => rfl
    | some d => exact ih _

/-- The digits of a number write it. -/
theorem numeralFrom?_digitsOf (n : Nat) : numeralFrom? 0 (digitsOf n) = some n := by
  induction n using Nat.strong_induction_on with
  | _ n ih =>
    have hmod := digitValue?_digitChar (n % 10) (Nat.mod_lt n (by decide))
    rw [digitsOf, Nat.toDigits_eq_if (by decide)]
    split
    · next hlt =>
      have := digitValue?_digitChar n hlt
      simp [numeralFrom?, this]
    · next hge =>
      have := ih (n / 10) (by omega)
      rw [digitsOf] at this
      rw [numeralFrom?_append, this]
      simp [numeralFrom?, hmod]
      omega

theorem digitsOf_ne_nil (n : Nat) : digitsOf n ≠ [] := Nat.toDigits_ne_nil

theorem isDigit_of_mem_digitsOf {n : Nat} {c : Char} (h : c ∈ digitsOf n) : c.isDigit = true :=
  Nat.isDigit_of_mem_toDigits (by decide) (by decide) h

/-- The run of digits that writes a number. -/
def runOf (n : Nat) : DigitRun := ⟨(digitsOf n).length, n⟩

theorem numeral?_digitsOf (n : Nat) : numeral? (digitsOf n) = some (runOf n) := by
  obtain ⟨c, rest, hc⟩ := List.exists_cons_of_ne_nil (digitsOf_ne_nil n)
  rw [runOf, hc, numeral?, ← hc, numeralFrom?_digitsOf]
  rfl

/-- No numeral starts with a letter. -/
theorem numeral?_of_isAlpha {c : Char} (h : c.isAlpha = true) (s : List Char) :
    numeral? (c :: s) = none := by
  simp [numeral?, numeralFrom?, digitValue?_of_isAlpha h]

/-- The digits, of whatever script, write the number in the decimal system. -/
def IsNumeral (s : List Char) (n : ℕ) : Prop :=
  s ≠ [] ∧ ∃ values, List.Forall₂ (fun c d => digitValue? c = some d) s values ∧
    n = Nat.ofDigits 10 values.reverse

theorem numeralFrom?_eq_some_iff {acc n : ℕ} {s : List Char} :
    numeralFrom? acc s = some n ↔
      ∃ values, List.Forall₂ (fun c d => digitValue? c = some d) s values ∧
        n = acc * 10 ^ s.length + Nat.ofDigits 10 values.reverse := by
  induction s generalizing acc with
  | nil => simp [numeralFrom?, eq_comm]
  | cons c s ih =>
    have hvalue : ∀ d values, List.Forall₂ (fun c d => digitValue? c = some d) s values →
        acc * 10 ^ (s.length + 1) + Nat.ofDigits 10 (d :: values).reverse =
          (10 * acc + d) * 10 ^ s.length + Nat.ofDigits 10 values.reverse := by
      intro d values hvalues
      rw [List.reverse_cons, Nat.ofDigits_append, Nat.ofDigits_singleton, List.length_reverse,
        hvalues.length_eq]
      ring
    simp only [List.forall₂_cons_left_iff, List.length_cons]
    rw [numeralFrom?]
    cases hd : digitValue? c with
    | none => simp
    | some d =>
      rw [ih]
      constructor
      · rintro ⟨values, hvalues, rfl⟩
        exact ⟨_, ⟨d, values, rfl, hvalues, rfl⟩, (hvalue d values hvalues).symm⟩
      · rintro ⟨_, ⟨d', values, hd', hvalues, rfl⟩, rfl⟩
        obtain rfl := Option.some.inj hd'
        exact ⟨values, hvalues, hvalue d values hvalues⟩

/-- A run of digits is read as the number that it writes. -/
theorem numeral?_eq_some_iff {s : List Char} {run : DigitRun} :
    numeral? s = some run ↔ IsNumeral s run.value ∧ run.count = s.length := by
  cases s with
  | nil => simp [numeral?, IsNumeral]
  | cons c s =>
    simp only [numeral?, Option.map_eq_some_iff, numeralFrom?_eq_some_iff, IsNumeral, zero_mul,
      zero_add]
    constructor
    · rintro ⟨n, hn, rfl⟩
      exact ⟨⟨List.cons_ne_nil _ _, hn⟩, rfl⟩
    · rintro ⟨⟨-, hn⟩, hcount⟩
      exact ⟨run.value, hn, by rw [← hcount]⟩

/-- Every character of a numeral is a digit. -/
theorem IsNumeral.exists_digitValue? {s : List Char} {n : ℕ} (h : IsNumeral s n) :
    ∀ c ∈ s, ∃ d, digitValue? c = some d := by
  obtain ⟨-, values, hvalues, -⟩ := h
  induction hvalues with
  | nil => simp
  | @cons c d s values hd _ ih => exact List.forall_mem_cons.mpr ⟨⟨d, hd⟩, ih⟩

theorem lt_of_digitValue? {c : Char} {d : ℕ} (h : digitValue? c = some d) : d < 10 := by
  obtain ⟨z, hz, rfl⟩ := Option.map_eq_some_iff.mp h
  have hcovers := List.find?_some hz
  simp only [Bool.and_eq_true, decide_eq_true_eq] at hcovers
  omega

/-- A numeral writes a number below the power that its length gives. -/
theorem IsNumeral.lt_pow {s : List Char} {n : ℕ} (h : IsNumeral s n) : n < 10 ^ s.length := by
  obtain ⟨-, values, hvalues, rfl⟩ := h
  have hlt : ∀ d ∈ values, d < 10 := by
    induction hvalues with
    | nil => simp
    | cons hd _ ih => exact List.forall_mem_cons.mpr ⟨lt_of_digitValue? hd, ih⟩
  have := Nat.ofDigits_lt_base_pow_length (b := 10) (l := values.reverse) (by decide)
    fun d hd => hlt d (List.mem_reverse.mp hd)
  rwa [List.length_reverse, ← hvalues.length_eq] at this

end Text

/-! ## Limits -/

theorem maxDigits_pos : 0 < Decimal.maxDigits := by decide

theorem writeLimit_pos : 0 < Decimal.writeLimit := by
  unfold Decimal.writeLimit
  generalize Decimal.maxDigits = k
  exact Nat.pow_pos (by decide)

/-- The digits of a number may be read if and only if the number may be written. -/
theorem isReadable_digitsOf (n : Nat) :
    Decimal.isReadable (Text.digitsOf n).length = Decimal.isWritable n := by
  have h := Nat.length_toDigits_le_iff (b := 10) (n := n) (by decide) maxDigits_pos
  unfold Decimal.isReadable Decimal.isWritable Decimal.writeLimit
  -- The limit is a power too large to be compared by its value.
  generalize Decimal.maxDigits = k at h ⊢
  exact decide_eq_decide.mpr h

/-- A number that may be read may be written. -/
theorem Text.IsNumeral.isWritable {s : List Char} {n : ℕ} (h : IsNumeral s n)
    (hs : Decimal.isReadable s.length = true) : Decimal.isWritable n = true := by
  have hlt := h.lt_pow
  unfold Decimal.isReadable at hs
  unfold Decimal.isWritable Decimal.writeLimit
  generalize Decimal.maxDigits = k at hs ⊢
  have hpow : 10 ^ s.length ≤ 10 ^ k := Nat.pow_le_pow_right (by decide) (by simpa using hs)
  simpa using hlt.trans_le hpow

/-- A number below one that may be written may be written. -/
theorem isWritable_of_le {m n : Nat} (h : Decimal.isWritable n = true) (hle : m ≤ n) :
    Decimal.isWritable m = true := by
  unfold Decimal.isWritable at *
  simp only [Int.natAbs_natCast, decide_eq_true_eq] at *
  omega

theorem toString_natCast (n : Nat) : toString (n : Int) = String.ofList (Text.digitsOf n) := rfl

end SheetSchema
