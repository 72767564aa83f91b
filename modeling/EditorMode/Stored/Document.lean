import EditorMode.Document
import EditorMode.Stored.Record

/-!
# Stored document states

A document state is stored as a record of its fields.  A state that is read back has to be
consistent: every level up to the current one has a column, and no other level has.
-/

set_option autoImplicit false

namespace EditorMode.Document

/-- The stored form of a state, as fields. -/
def toFields (d : Document) : Fields :=
  [("block_level", .nat d.level), ("block_indent", .array (d.columns.map .nat)),
    ("line_contained_block_start", .bool d.openedBlock), ("at_eol", .bool d.atLineEnd),
    ("continued_line", .bool d.continued), ("function_token_column", .nat d.anchor)]

/-- The stored form of a state. -/
def toValue (d : Document) : Value := .object d.toFields

/-- The state, provided it is consistent. -/
def checked (d : Document) : Except ReadError Document :=
  match d.isConsistent with
  | .error f => .error (.fault f)
  | .ok true => .ok d
  | .ok false => .error (.inconsistent d.level d.columns.length)

/-- Reads a state, consistent or not. -/
def ofValueUnchecked : Value → Except ReadError Document
  | .object (fields : Fields) => do
    let level ← fields.get? "block_level" Value.column?
    let columns ← fields.get? "block_indent" Value.columns?
    let openedBlock ← fields.get? "line_contained_block_start" Value.bool?
    let atLineEnd ← fields.get? "at_eol" Value.bool?
    let continued ← fields.get? "continued_line" Value.bool?
    let anchor ← fields.get? "function_token_column" Value.column?
    return ⟨← Fields.require "block_level" level, ← Fields.require "block_indent" columns,
      ← Fields.require "line_contained_block_start" openedBlock,
      ← Fields.require "at_eol" atLineEnd, ← Fields.require "continued_line" continued,
      ← Fields.require "function_token_column" anchor⟩
  | .array [level, columns, openedBlock, atLineEnd, continued, anchor] => do
    return ⟨← level.item Value.column?, ← columns.item Value.columns?,
      ← openedBlock.item Value.bool?, ← atLineEnd.item Value.bool?,
      ← continued.item Value.bool?, ← anchor.item Value.column?⟩
  | _ => .error .malformed

/-- Reads a state. -/
def ofValue (v : Value) : Except ReadError Document := do (← ofValueUnchecked v).checked

end EditorMode.Document
