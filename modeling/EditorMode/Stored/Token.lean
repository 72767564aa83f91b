import EditorMode.Stored.Record
import EditorMode.Token

/-!
# Stored kinds, positions and tokens

A kind is stored as the name of its case, a `named` one as a record with its name; on reading, any
case may be written as such a record.  Positions and tokens are records; on reading they may also be
written as the list of their fields.
-/

set_option autoImplicit false

namespace EditorMode

namespace Kind

/-- The stored form of a kind. -/
def toValue : Kind → Value
  | .blockOpen => .string "BlockOpen"
  | .blockClose => .string "BlockClose"
  | .function => .string "Function"
  | .endOfLine => .string "Eol"
  | .lineContinuation => .string "LineCont"
  | .error => .string "Error"
  | .named name => .object [("Named", .string name)]

/-- The case with a given name that has no parts. -/
def ofCase? : String → Option Kind
  | "BlockOpen" => some .blockOpen
  | "BlockClose" => some .blockClose
  | "Function" => some .function
  | "Eol" => some .endOfLine
  | "LineCont" => some .lineContinuation
  | "Error" => some .error
  | _ => none

/-- Reads a kind. -/
def ofValue? : Value → Option Kind
  | .string s => ofCase? s
  | .object [("Named", .string name)] => some (.named name)
  | .object [(s, .null)] => ofCase? s
  | _ => none

end Kind

namespace Position

/-- The stored form of a position, as fields. -/
def toFields (p : Position) : Fields := [("line", .nat p.line), ("column", .nat p.column)]

/-- The stored form of a position. -/
def toValue (p : Position) : Value := .object p.toFields

/-- Reads a position. -/
def ofValue : Value → Except ReadError Position
  | .object (fields : Fields) => do
    let line ← fields.get? "line" Value.offset?
    let column ← fields.get? "column" Value.column?
    return ⟨← Fields.require "line" line, ← Fields.require "column" column⟩
  | .array [line, column] => do
    return ⟨← line.item Value.offset?, ← column.item Value.column?⟩
  | _ => .error .malformed

end Position

namespace Token

/-- The stored form of a token, as fields. -/
def toFields (t : Token) : Fields :=
  [("kind", t.kind.toValue), ("text", .string (String.ofList t.text)), ("line", .nat t.line),
    ("offset", .nat t.offset), ("column", .nat t.column)]

/-- The stored form of a token. -/
def toValue (t : Token) : Value := .object t.toFields

/-- Reads a token. -/
def ofValue : Value → Except ReadError Token
  | .object (fields : Fields) => do
    let kind ← fields.get? "kind" Kind.ofValue?
    let text ← fields.get? "text" Value.string?
    let line ← fields.get? "line" Value.offset?
    let offset ← fields.get? "offset" Value.offset?
    let column ← fields.get? "column" Value.column?
    return ⟨← Fields.require "kind" kind, (← Fields.require "text" text).toList,
      ← Fields.require "line" line, ← Fields.require "offset" offset,
      ← Fields.require "column" column⟩
  | .array [kind, text, line, offset, column] => do
    return ⟨← kind.item Kind.ofValue?, (← text.item Value.string?).toList,
      ← line.item Value.offset?, ← offset.item Value.offset?, ← column.item Value.column?⟩
  | _ => .error .malformed

end Token

end EditorMode
