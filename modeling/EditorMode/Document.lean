import EditorMode.Fault

/-!
# The state of a document

What the tokens before a place say about the indentation at that place: how many blocks are open,
the column that the lines of each open block align to, and whether the logical line goes on.

`Document.Consistent` is the condition that every level has a column.
-/

set_option autoImplicit false

namespace EditorMode

/-- The indentation state of a document. -/
structure Document where
  /-- The number of open blocks. -/
  level : Nat
  /-- The columns that the levels align to, the outermost first. -/
  columns : List Nat
  /-- Whether the current logical line opened a block. -/
  openedBlock : Bool
  /-- Whether the last token was an end of line. -/
  atLineEnd : Bool
  /-- Whether the logical line is continued. -/
  continued : Bool
  /-- Where a continuation line aligns, relative to the column of its block. -/
  anchor : Nat
  deriving DecidableEq, Repr, Inhabited

namespace Document

/-- The state before the first token. -/
def start : Document := ⟨0, [0], false, false, false, 0⟩

/-- Every level up to the current one has a column, and no other level has. -/
def Consistent (d : Document) : Prop := d.columns.length = d.level + 1

instance (d : Document) : Decidable d.Consistent := by
  unfold Consistent
  infer_instance

theorem consistent_start : start.Consistent := rfl

/-- Whether the state is consistent; asked of a level that has no successor this has no answer. -/
def isConsistent (d : Document) : Except Fault Bool :=
  (addBelow columnBound d.level 1).map (d.columns.length == ·)

/-- The column of a level. -/
def columnAt (d : Document) (level : Nat) : Except Fault Nat :=
  match d.columns[level]? with
  | some column => .ok column
  | none => .error .missingLevel

/-- The column that lines of the current level align to. -/
def column (d : Document) : Except Fault Nat := d.columnAt d.level

/-- The state in which the current level aligns to `column`. -/
def setColumn (d : Document) (column : Nat) : Except Fault Document :=
  if d.level < d.columns.length then .ok { d with columns := d.columns.set d.level column }
  else .error .missingLevel

end Document

end EditorMode
