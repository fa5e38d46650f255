import Mathlib
import SheetSchema.Json.Parser
import SheetSchema.Json.Printer

/-!
# Strings read back

Every character of a string is written as text that is read as this character, whatever comes after
it (`Json.readsAs_stringChar`): as it is, as a letter after a backslash, or as one or two code units
of four hexadecimal digits. So a string is read back character by character, with other scripts
escaped or not (`Json.readString_append`).
-/

namespace SheetSchema.Json

/-! ## Code units -/

theorem hexValue?_digitChar : ∀ d < 16, hexValue? (Nat.digitChar d) = some d := by decide

/-- A code unit is written in four digits. -/
theorem hex4_eq {n : Nat} (h : n < 0x10000) : hex4 n =
    [Nat.digitChar (n / 16 / 16 / 16), Nat.digitChar (n / 16 / 16 % 16),
      Nat.digitChar (n / 16 % 16), Nat.digitChar (n % 16)] := by
  have hdigits (m : Nat) := Nat.toDigits_eq_if (b := 16) (n := m) (by decide)
  have hpad : Nat.digitChar 0 = '0' := rfl
  have hlast : n / 16 / 16 / 16 < 16 := by omega
  have hzero (m : Nat) (hm : m < 16) : m / 16 = 0 := by omega
  unfold hex4
  rw [hdigits n]
  split
  · next h1 => simp [hzero n h1, Nat.mod_eq_of_lt h1, hpad]
  rw [hdigits (n / 16)]
  split
  · next h2 => simp [hzero _ h2, Nat.mod_eq_of_lt h2, hpad]
  rw [hdigits (n / 16 / 16)]
  split
  · next h3 => simp [hzero _ h3, Nat.mod_eq_of_lt h3, hpad]
  rw [hdigits (n / 16 / 16 / 16), if_pos hlast]
  simp

/-- A code unit is read back. -/
theorem codeUnit?_hex4 {n : Nat} (h : n < 0x10000) :
    ∃ a b c d, hex4 n = [a, b, c, d] ∧ codeUnit? a b c d = some n := by
  refine ⟨_, _, _, _, hex4_eq h, ?_⟩
  have hvalue (m : Nat) (hm : m < 16) := hexValue?_digitChar m hm
  rw [codeUnit?, hvalue _ (by omega), hvalue _ (by omega), hvalue _ (by omega), hvalue _ (by omega)]
  simp only [Option.bind_eq_bind, Option.bind_some, Option.pure_def, Option.some.injEq]
  omega

/-- A number that is no half of a character. -/
def IsWholeUnit (n : Nat) : Prop := n < 0xD800 ∨ 0xE000 ≤ n

theorem joinParts_unit {n : Nat} (h : IsWholeUnit n) (more : List StringPart) :
    joinParts (.codeUnit n :: more) = Char.ofNat n :: joinParts more := by
  have hhalf : ¬(0xD800 ≤ n ∧ n < 0xE000) := by unfold IsWholeUnit at h; omega
  have hchar : unitChar n = Char.ofNat n := by rw [unitChar, if_neg hhalf]
  match more with
  | [] => simp [joinParts, hchar]
  | .char c :: more => simp [joinParts, hchar]
  | .codeUnit low :: more =>
    rw [joinParts, if_neg (by omega), hchar]

theorem joinParts_pair {high low : Nat} (hhigh : high < 0x400) (hlow : low < 0x400)
    (more : List StringPart) :
    joinParts (.codeUnit (0xD800 + high) :: .codeUnit (0xDC00 + low) :: more) =
      Char.ofNat (0x10000 + high * 0x400 + low) :: joinParts more := by
  rw [joinParts, if_pos (by omega)]
  simp

/-! ## Characters -/

/-- The text is read as the parts, whatever comes after it inside the string. -/
def ReadsAsParts (written : List Char) (parts : List StringPart) : Prop :=
  ∀ start rest, rest ≠ [] → stringParts start (written ++ rest) =
    (stringParts start rest).map fun (more, left) => (parts ++ more, left)

/-- The text is read as the character, whatever comes before and after it inside the string. -/
def ReadsAs (written : List Char) (c : Char) : Prop :=
  ∃ parts, ReadsAsParts written parts ∧ ∀ more, joinParts (parts ++ more) = c :: joinParts more

theorem readsAsParts_unitEscape {n : Nat} (h : n < 0x10000) :
    ReadsAsParts (unitEscape n) [.codeUnit n] := by
  obtain ⟨a, b, c, d, hdigits, hvalue⟩ := codeUnit?_hex4 h
  intro start rest hrest
  obtain ⟨e, rest, rfl⟩ := List.exists_cons_of_ne_nil hrest
  rw [unitEscape, hdigits]
  simp only [List.cons_append, List.nil_append, stringParts, hvalue, consPart]

theorem ReadsAsParts.append {first second : List Char} {ps qs : List StringPart}
    (hfirst : ReadsAsParts first ps) (hsecond : ReadsAsParts second qs) :
    ReadsAsParts (first ++ second) (ps ++ qs) := by
  intro start rest hrest
  rw [List.append_assoc, hfirst start _ (List.append_ne_nil_of_right_ne_nil second hrest),
    hsecond start rest hrest]
  cases stringParts start rest with
  | ok r => simp [Except.map]
  | error e => rfl

theorem readsAs_escapeChar (c : Char) : ReadsAs (escapeChar c) c := by
  have hvalid : c.toNat < 0xD800 ∨ 0xDFFF < c.toNat ∧ c.toNat < 0x110000 := c.valid
  rw [escapeChar]
  by_cases h : c.toNat < 0x10000
  · rw [if_pos h]
    refine ⟨_, readsAsParts_unitEscape h, fun more => ?_⟩
    rw [List.singleton_append, joinParts_unit (by unfold IsWholeUnit; omega), Char.ofNat_toNat]
  · rw [if_neg h]
    refine ⟨_, (readsAsParts_unitEscape (by omega)).append (readsAsParts_unitEscape (by omega)),
      fun more => ?_⟩
    rw [List.append_assoc, List.singleton_append, List.singleton_append,
      joinParts_pair (by omega) (by omega)]
    have hjoin : 0x10000 + (c.toNat - 0x10000) / 0x400 * 0x400 + (c.toNat - 0x10000) % 0x400 =
        c.toNat := by omega
    rw [hjoin, Char.ofNat_toNat]

theorem readsAs_escaped {letter c : Char} (hletter : letter ≠ 'u') (h : escaped? letter = some c) :
    ReadsAs ['\\', letter] c := by
  refine ⟨[.char c], fun start rest _ => ?_, fun more => by simp [joinParts]⟩
  simp [stringParts, hletter, h, consPart]

theorem readsAs_self {c : Char} (hquote : c ≠ '"') (hslash : c ≠ '\\') (h : 0x20 ≤ c.toNat) :
    ReadsAs [c] c := by
  refine ⟨[.char c], fun start rest _ => ?_, fun more => by simp [joinParts]⟩
  simp [stringParts, hslash, consPart, h]

/-- Every character is written as text that is read as this character. -/
theorem readsAs_stringChar (ascii : Bool) (c : Char) : ReadsAs (stringChar ascii c) c := by
  unfold stringChar
  split_ifs with hquote hslash hline hreturn htab hback hfeed hescape
  · exact readsAs_escaped (by decide) (by rw [hquote]; rfl)
  · exact readsAs_escaped (by decide) (by rw [hslash]; rfl)
  · exact readsAs_escaped (by decide) (by rw [hline]; rfl)
  · exact readsAs_escaped (by decide) (by rw [hreturn]; rfl)
  · exact readsAs_escaped (by decide) (by rw [htab]; rfl)
  · exact readsAs_escaped (by decide) (by rw [hback]; rfl)
  · exact readsAs_escaped (by decide) (by rw [hfeed]; rfl)
  · exact readsAs_escapeChar c
  · exact readsAs_self hquote hslash (by omega)

/-! ## Strings -/

theorem exists_stringParts (ascii : Bool) (start rest : List Char) : (s : List Char) →
    ∃ parts, stringParts start (s.flatMap (stringChar ascii) ++ '"' :: rest) = .ok (parts, rest) ∧
      joinParts parts = s
  | [] => ⟨[], by simp [stringParts], rfl⟩
  | c :: s => by
    obtain ⟨parts, hparts, hjoin⟩ := readsAs_stringChar ascii c
    obtain ⟨more, hmore, hs⟩ := exists_stringParts ascii start rest s
    refine ⟨parts ++ more, ?_, by rw [hjoin, hs]⟩
    rw [List.flatMap_cons, List.append_assoc, hparts start _ (by simp), hmore]
    rfl

/-- A string is read back as it was written. -/
theorem readString_flatMap (ascii : Bool) (s : String) (rest : List Char) :
    readString (s.toList.flatMap (stringChar ascii) ++ '"' :: rest) = .ok (s, rest) := by
  obtain ⟨parts, hparts, hjoin⟩ := exists_stringParts ascii
    ('"' :: (s.toList.flatMap (stringChar ascii) ++ '"' :: rest)) rest s.toList
  rw [readString, hparts]
  simp only [Except.map, hjoin, String.ofList_toList]

end SheetSchema.Json
