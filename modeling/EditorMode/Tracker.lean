import EditorMode.Document
import EditorMode.Text.Blank
import EditorMode.Token

/-!
# Tracking indentation

A tracker moves the state of a document along its tokens (`Tracker.step`) and says at which column
the next line should start (`Tracker.suggest`).

The column of a block follows the author: at a line continuation, and at the end of a line that is
not continued from the line before, the indentation of the physical line becomes the column of the
current level, unless the logical line opened a block.  So all lines of a continued statement count
but its last one.  Closing a block that was never opened changes nothing.
-/

set_option autoImplicit false

namespace EditorMode

open Text

/-- The settings of a tracker. -/
structure Tracker where
  /-- The columns that a block adds to the line that opens it. -/
  indentUnit : Nat
  /-- What is added to the column of a function marker to align a continuation line. -/
  anchorOffset : Nat
  /-- A line that starts with this text closes a block. -/
  closeMarker : String
  deriving DecidableEq, Repr, Inhabited

namespace Tracker

/-- The settings if nothing else is said. -/
def standard : Tracker := ⟨2, 8, Kind.blockClose.name⟩

/-! ## The four parts of a step -/

/-- A token after the end of a line starts a new line. -/
def leaveLine (d : Document) : Document :=
  if d.atLineEnd then { d with atLineEnd := false, openedBlock := false } else d

/-- Records what the token says about the logical line. -/
def note (t : Tracker) (d : Document) (token : Token) (indentation : Nat) :
    Except Fault Document :=
  match token.kind with
  | .blockOpen => .ok { d with openedBlock := true }
  | .lineContinuation => .ok { d with continued := true }
  | .function =>
    (addBelow columnBound (token.column - indentation) t.anchorOffset).map
      ({ d with anchor := · })
  | _ => .ok d

/-- Whether a token of this kind ends a physical line whose indentation counts. -/
def settles (d : Document) : Kind → Bool
  | .endOfLine => !d.continued
  | .lineContinuation => true
  | _ => false

/-- At the end of a line its indentation becomes the column of its block, unless the line opened
that block. -/
def adopt (d : Document) (kind : Kind) (indentation : Nat) : Except Fault Document :=
  if settles d kind && !d.openedBlock then d.setColumn indentation else .ok d

/-- Ends the logical line, or opens or closes a block. -/
def nest (t : Tracker) (d : Document) (kind : Kind) (indentation : Nat) :
    Except Fault Document :=
  match kind with
  | .endOfLine => .ok { d with atLineEnd := true, continued := false, anchor := 0 }
  | .blockOpen => do
    let column ← addBelow columnBound indentation t.indentUnit
    let level ← addBelow columnBound d.level 1
    return { d with columns := d.columns ++ [column], level }
  | .blockClose =>
    if d.level = 0 then .ok d
    else .ok { d with columns := d.columns.dropLast, level := d.level - 1 }
  | _ => .ok d

/-! ## Steps and suggestions -/

/-- The state after a token on a line with the given indentation. -/
def step (t : Tracker) (d : Document) (token : Token) (indentation : Nat) :
    Except Fault Document := do
  let d ← t.note (leaveLine d) token indentation
  let d ← adopt d token.kind indentation
  t.nest d token.kind indentation

/-- Whether a token closes a block that was never opened. -/
def ignoresClose (d : Document) (token : Token) : Bool :=
  token.kind == .blockClose && d.level == 0

/-- Whether a line with this text closes a block. -/
def closesBlock (t : Tracker) (text : List Char) : Bool :=
  !t.closeMarker.toList.isEmpty && t.closeMarker.toList.isPrefixOf (skipBlank text)

/-- The column at which a line with this text should start. -/
def suggest (t : Tracker) (d : Document) (text : List Char) : Except Fault Nat :=
  if t.closesBlock text then d.columnAt (d.level - 1)
  else do
    let column ← d.column
    if d.continued then addBelow columnBound column d.anchor else return column

end Tracker

end EditorMode
