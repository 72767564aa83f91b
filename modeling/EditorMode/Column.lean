import EditorMode.Text.Blank
import EditorMode.Text.Bytes
import EditorMode.Text.Width

/-!
# Visual columns

The visual column of a place in a line is the column at which the screen shows it: every character
before it counts its display width, and a tab moves to the next tab stop.  Columns are computed by
one fold, `columnAfter`, from the left; `visualColumn` and `indentationWidth` run it over a part of
a line that starts at column zero.

A tab stop distance of zero is read as one.
-/

set_option autoImplicit false

namespace EditorMode

open Text

/-- The column after the character `c`, which itself stands at `column`.  A tab moves to the least
multiple of `tab` above `column`. -/
def columnNext (tab column : Nat) (c : Char) : Except Fault Nat :=
  if c = '\t' then
    (addBelow columnBound column tab).map (· - column % tab)
  else
    addBelow columnBound column (width c)

/-- The column after the characters of `text`, the first of which stands at `column`. -/
def columnAfter (tab column : Nat) (text : List Char) : Except Fault Nat :=
  text.foldlM (columnNext tab) column

@[simp]
theorem columnAfter_nil (tab column : Nat) : columnAfter tab column [] = .ok column := rfl

theorem columnAfter_cons (tab column : Nat) (c : Char) (text : List Char) :
    columnAfter tab column (c :: text) = columnNext tab column c >>= (columnAfter tab · text) := rfl

theorem columnAfter_append (tab column : Nat) (s t : List Char) :
    columnAfter tab column (s ++ t) = columnAfter tab column s >>= (columnAfter tab · t) := by
  simp [columnAfter, List.foldlM_append]

/-- The visual column of the byte offset `offset` in `line`. -/
def visualColumn (line : List Char) (offset tab : Nat) : Except Fault Nat := do
  columnAfter (max tab 1) 0 (← takeBytes line offset)

/-- The visual width of the leading spaces and tabs of `line`. -/
def indentationWidth (line : List Char) (tab : Nat) : Except Fault Nat :=
  columnAfter (max tab 1) 0 (line.takeWhile isIndent)

end EditorMode
