/-!
# Declarations

A declaration gives a property a value and may be marked as important.
-/

namespace ViewportScaling.Css

/-- A property with its value. -/
structure Declaration where
  /-- The name of the property. -/
  property : String
  /-- The value, without the mark of importance. -/
  value : String
  /-- Whether the declaration is marked as important. -/
  important : Bool := false
deriving DecidableEq, Repr

/-- The declaration as text, without the semicolon. -/
def Declaration.text (declaration : Declaration) : List Char :=
  declaration.property.toList ++ ':' :: ' ' :: declaration.value.toList ++
    if declaration.important then " !important".toList else []

end ViewportScaling.Css
