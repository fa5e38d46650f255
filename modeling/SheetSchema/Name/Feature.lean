import SheetSchema.Text.Case

/-!
# Feature names

A feature has one name in several casings: types begin with a capital (`pascal`), values with a
small letter (`camel`), and the constant of its data range is written in capitals. Only the first
character changes between the first two; it may become several characters.
-/

namespace SheetSchema

/-- A feature name in the casings of the generated code. -/
structure FeatureName where
  pascal : String
  camel : String
deriving DecidableEq, Repr, Inhabited

namespace FeatureName

/-- The casings of a name. -/
def ofString (name : String) : FeatureName :=
  ⟨String.ofList (Text.capitalize name.toList), String.ofList (Text.uncapitalize name.toList)⟩

/-- The name in capitals. -/
def upper (n : FeatureName) : String := String.ofList (Text.upper n.pascal.toList)

/-- The name of the data range where none is given. -/
def rangeName (n : FeatureName) : String := n.upper ++ "_RANGE"

end FeatureName

end SheetSchema
