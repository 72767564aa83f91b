import EditorMode.Kind
import EditorMode.Position
import EditorMode.Text.Bytes

/-!
# Tokens

A piece of a line with its kind and its place: the byte offset in the line and the visual column.
-/

set_option autoImplicit false

namespace EditorMode

/-- A piece of a line. -/
structure Token where
  kind : Kind
  text : List Char
  line : Nat
  /-- The byte offset of the token in its line. -/
  offset : Nat
  /-- The visual column of the token. -/
  column : Nat
  deriving DecidableEq, Repr, Inhabited

namespace Token

/-- A token at the start of its line. -/
def new (kind : Kind) (text : List Char) (line : Nat) : Token := ⟨kind, text, line, 0, 0⟩

/-- The token at another place of its line. -/
def placed (t : Token) (offset column : Nat) : Token := { t with offset, column }

/-- The token that ends a line. -/
def endOfLine (line offset column : Nat) : Token := (new .endOfLine [] line).placed offset column

/-- The byte offsets at which the token starts and ends. -/
def range (t : Token) : Except Fault (Nat × Nat) :=
  (addBelow offsetBound t.offset (Text.byteLength t.text)).map (t.offset, ·)

/-- The place of the token in its document. -/
def position (t : Token) : Position := ⟨t.line, t.column⟩

/-- Whether the token has no text. -/
def isEmpty (t : Token) : Bool := t.text.isEmpty

end Token

end EditorMode
