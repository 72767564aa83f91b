import EditorMode.Column
import EditorMode.Rule
import EditorMode.Text.Lines

/-!
# Reading a line

A cursor stands in a line between the text already read and the rest.  `Cursor.next` reads the next
token by the rules of a grammar; where no rule matches it reports the place and does not move.
-/

set_option autoImplicit false

namespace EditorMode

open Text

/-- No rule matches at this place. -/
structure LexError where
  line : Nat
  /-- The byte offset in the line. -/
  position : Nat
  deriving DecidableEq, Repr, Inhabited

/-- The wording of the report. -/
def LexError.message (e : LexError) : String :=
  "no rule matches at line " ++ toString e.line ++ ", byte " ++ toString e.position

/-- A place in a line, with its byte offset and its visual column. -/
structure Cursor where
  line : Nat
  tabSize : Nat
  /-- The text that has been read, the last character first. -/
  behind : List Char
  /-- The text that has not been read. -/
  rest : List Char
  /-- The number of bytes that have been read. -/
  position : Nat
  /-- The visual column of the cursor. -/
  column : Except Fault Nat
  position_eq : position = byteLength behind.reverse
  column_eq : column = columnAfter (max tabSize 1) 0 behind.reverse

namespace Cursor

/-- The distance of tab stops if nothing else is said. -/
def defaultTabSize : Nat := 4

/-- The start of a line, without its line ending. -/
def start (text : List Char) (line tabSize : Nat) : Cursor :=
  ⟨line, max tabSize 1, [], trimEnding text, 0, .ok 0, rfl, rfl⟩

/-- The text that has been read. -/
def before (c : Cursor) : List Char := c.behind.reverse

/-- The whole line. -/
def text (c : Cursor) : List Char := c.before ++ c.rest

/-- The position as tokens store it. -/
def offset (c : Cursor) : Nat := c.position % offsetBound

/-- Whether the whole line has been read. -/
def atEnd (c : Cursor) : Bool := c.rest.isEmpty

/-- Whether nothing has been read. -/
def atStart (c : Cursor) : Bool := c.behind.isEmpty

/-- The visual width of the leading spaces and tabs of the line. -/
def indentation (c : Cursor) : Except Fault Nat := indentationWidth c.text c.tabSize

/-- The cursor after `count` more characters. -/
def advance (c : Cursor) (count : Nat) : Cursor where
  line := c.line
  tabSize := c.tabSize
  behind := (c.rest.take count).reverse ++ c.behind
  rest := c.rest.drop count
  position := c.position + byteLength (c.rest.take count)
  column := c.column >>= (columnAfter (max c.tabSize 1) · (c.rest.take count))
  position_eq := by simp [c.position_eq]
  column_eq := by simp [c.column_eq, columnAfter_append]

@[simp]
theorem before_advance (c : Cursor) (count : Nat) :
    (c.advance count).before = c.before ++ c.rest.take count := by
  simp [advance, before]

@[simp]
theorem text_advance (c : Cursor) (count : Nat) : (c.advance count).text = c.text := by
  simp [text, advance, before]

/-- The column of the cursor is that of its byte offset. -/
theorem column_eq_visualColumn (c : Cursor) :
    c.column = visualColumn c.text c.position c.tabSize := by
  rw [visualColumn, c.position_eq, text, before, takeBytes_byteLength, c.column_eq]
  rfl

/-- The report that no rule matches here. -/
def unmatched (c : Cursor) : LexError := ⟨c.line, c.position⟩

/-- A token that has been read: the rule that applied, and the cursor after it. -/
structure Reading where
  selection : Selection
  token : Token
  after : Cursor

/-- Reads the next token. -/
def next (rules : List Rule) (c : Cursor) : Except Fault (Except LexError Reading) :=
  match select rules c.rest with
  | none => .ok (.error c.unmatched)
  | some s => do
    let column ← c.column
    let token := (s.rule.action s.text c.line).placed c.offset column
    return .ok ⟨s, token, c.advance s.text.length⟩

end Cursor

end EditorMode
