import SheetSchema.Error

/-!
# Looking into values

Answers of the service and schema documents are read without knowing that they have the right
shape. Each way of looking into a value says what it needs and which refusal a value of another kind
meets: `Json.member` asks an object for an optional entry, `Json.entry` demands one,
`Json.elements` lists the parts of anything that has parts. A string has its characters for parts,
an object its keys. Entries may also be given as a list of pairs (`Json.pairs`), where anything with
two parts is a pair.
-/

namespace SheetSchema.Json

/-- The entry of `key`, if the object has one; only objects can be asked. -/
def member (value : Json) (key : String) : Except Error (Option Json) :=
  match value with
  | .obj entries => .ok (Entries.get? entries key)
  | _ => .error .missingMember

/-- The entry of `key`, or `default` in its absence. -/
def memberD (value : Json) (key : String) (default : Json) : Except Error Json :=
  (value.member key).map (·.getD default)

/-- The entry of `key`, which must be there. -/
def entry (value : Json) (key : String) : Except Error Json :=
  match value with
  | .obj entries =>
    match Entries.get? entries key with
    | some v => .ok v
    | none => .error (.missingKey (.str key))
  | _ => .error .wrongKind

/-- The characters of a string as strings. -/
def characters (s : String) : List Json := s.toList.map fun c => .str (String.singleton c)

/-- The parts of a list, a string or an object. -/
def elements : Json → Except Error (List Json)
  | .arr items => .ok items
  | .str s => .ok (characters s)
  | .obj entries => .ok (entries.map fun (key, _) => .str key)
  | _ => .error .wrongKind

/-- The parts of a list or a string, which have positions. An object has none, and misses the first
key that it is asked for. -/
def sequence : Json → Except Error (List Json)
  | .arr items => .ok items
  | .str s => .ok (characters s)
  | .obj [] => .ok []
  | .obj (_ :: _) => .error (.missingKey (.int 0))
  | _ => .error .wrongKind

/-- The value, or an empty object when it does not count as given. -/
def orEmptyObject (value : Json) : Json := if value.truthy then value else .obj []

/-- The value, or an empty list when it does not count as given. -/
def orEmptyList (value : Json) : Json := if value.truthy then value else .arr []

/-- A value that has to be a text. -/
def asString : Json → Except Error String
  | .str s => .ok s
  | _ => .error .missingMember

/-- The value can be a key: anything but a list or an object. -/
def isKey : Json → Bool
  | .arr _ | .obj _ => false
  | _ => true

/-- The key that a value is. -/
def keyOf : Json → Except Error String
  | .str s => .ok s
  | .null => .ok "null"
  | .bool b => .ok (if b then "true" else "false")
  | .int n => .ok (toString n)
  | .float x => .ok (Decimal.text "NaN" "Infinity" x)
  | _ => .error .wrongKind

/-- The parts of the pairs from `position` on. -/
def pairsFrom : (position : Nat) → List Json → Except Error (List (Json × Json))
  | _, [] => .ok []
  | position, pair :: rest => do
    match ← pair.elements with
    | [key, value] => return (key, value) :: (← pairsFrom (position + 1) rest)
    | parts => throw (.pairLength position parts.length)

/-- The keys and values of an object or of a list of pairs, in order. -/
def pairsOf : Json → Except Error (List (Json × Json))
  | .obj entries => .ok (entries.map fun (key, value) => (.str key, value))
  | value => do pairsFrom 0 (← value.elements)

/-- The entries of an object or of a list of pairs, of which the last of a key counts. -/
def pairs (value : Json) : Except Error (Entries Json) := do
  let found ← (← value.pairsOf).mapM fun (key, value) => do return (← keyOf key, value)
  return Entries.putAll [] found

@[simp] theorem elements_arr (items : List Json) : elements (.arr items) = .ok items := rfl

end SheetSchema.Json
