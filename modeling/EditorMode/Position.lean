/-!
# Positions in a document

A line number together with a visual column, both counted from zero and ordered by line first.
-/

set_option autoImplicit false

namespace EditorMode

/-- A place in a document. -/
structure Position where
  line : Nat
  column : Nat
  deriving DecidableEq, Repr, Inhabited

namespace Position

/-- Whether `p` comes before `q` or is equal to it. -/
def le (p q : Position) : Bool :=
  decide (p.line < q.line) || (p.line == q.line && decide (p.column ≤ q.column))

/-- The positions in ascending order. -/
def sort (positions : List Position) : List Position := positions.mergeSort le

end Position

end EditorMode
