/-!
# Parts of a text

Cutting texts at characters and at words. `Text.splitOn` cuts at every occurrence of a character,
`Text.breakOn` at the first occurrence of a word, and `Text.joinWith` puts pieces together again.
`Text.isQuotedBy` and `Text.inner` look at the two ends of a text, `Text.withoutFinalNewline` lets
one line end after a text pass.
-/

namespace SheetSchema.Text

/-- The pieces between the occurrences of `sep`; one more than there are occurrences. -/
def splitOn (sep : Char) : List Char → List (List Char)
  | [] => [[]]
  | c :: rest =>
    match splitOn sep rest with
    | [] => [[]]
    | piece :: pieces => if c = sep then [] :: piece :: pieces else (c :: piece) :: pieces

/-- The pieces with `sep` between them. -/
def joinWith (sep : List Char) : List (List Char) → List Char
  | [] => []
  | [piece] => piece
  | piece :: pieces => piece ++ sep ++ joinWith sep pieces

/-- What follows `word` at the start of the text. -/
def afterPrefix? : (word text : List Char) → Option (List Char)
  | [], rest => some rest
  | _ :: _, [] => none
  | w :: word, c :: text => if w = c then afterPrefix? word text else none

/-- The texts before and after the first occurrence of `word`. -/
def breakOn? (word : List Char) : List Char → Option (List Char × List Char)
  | [] => (afterPrefix? word []).map fun rest => ([], rest)
  | c :: text =>
    match afterPrefix? word (c :: text) with
    | some rest => some ([], rest)
    | none => (breakOn? word text).map fun (before, rest) => (c :: before, rest)

/-- `word` occurs in the text. -/
def occursIn (word text : List Char) : Bool := (breakOn? word text).isSome

/-- The text has at least two characters and the same `quote` at both ends. -/
def isQuotedBy (quote : Char) (s : List Char) : Bool :=
  2 ≤ s.length && s.head? == some quote && s.getLast? == some quote

/-- The text without its first and last character. -/
def inner (s : List Char) : List Char := s.tail.dropLast

/-- The text without one line end at its end, if it has one. -/
def withoutFinalNewline (s : List Char) : List Char :=
  if s.getLast? = some '\n' then s.dropLast else s

theorem splitOn_ne_nil (sep : Char) (s : List Char) : splitOn sep s ≠ [] := by
  cases s with
  | nil => simp [splitOn]
  | cons c rest =>
    unfold splitOn
    split
    · simp
    · split <;> simp

theorem eq_append_of_afterPrefix? {word text rest : List Char}
    (h : afterPrefix? word text = some rest) : text = word ++ rest := by
  induction word generalizing text with
  | nil => simpa [afterPrefix?] using h
  | cons w word ih =>
    cases text with
    | nil => simp [afterPrefix?] at h
    | cons c text =>
      simp only [afterPrefix?] at h
      split at h
      · next hwc => rw [hwc, ih h, List.cons_append]
      · simp at h

end SheetSchema.Text
