/-!
# Stored values

The shape in which states, tokens and settings are stored and exchanged: numbers, truth values,
texts, lists and records with named fields.
-/

set_option autoImplicit false

namespace EditorMode

/-- A stored value. -/
inductive Value where
  | null
  | bool (b : Bool)
  | nat (n : Nat)
  /-- A number that is no natural number. -/
  | otherNumber
  | string (s : String)
  | array (items : List Value)
  | object (fields : List (String × Value))
  deriving Repr, Inhabited

end EditorMode
