import EditorMode.Config
import EditorMode.Stored.Record

/-!
# Stored settings

Settings are stored as a record.  On reading, a missing field has its default, and the list form may
end early.
-/

set_option autoImplicit false

namespace EditorMode.Config

/-- The stored form of settings, as fields. -/
def toFields (c : Config) : Fields :=
  [("indent_unit", .nat c.indentUnit), ("tab_size", .nat c.tabSize),
    ("function_anchor_offset", .nat c.anchorOffset),
    ("continuation_marker", .string c.continuationMarker),
    ("block_close_marker", .string c.closeMarker)]

/-- The stored form of settings. -/
def toValue (c : Config) : Value := .object c.toFields

/-- The names of the fields, in the order of the list form. -/
def fieldNames : List String :=
  ["indent_unit", "tab_size", "function_anchor_offset", "continuation_marker",
    "block_close_marker"]

/-- Reads settings from the fields that are there. -/
def ofFields (fields : Fields) : Except ReadError Config := do
  let indentUnit ← fields.get? "indent_unit" Value.column?
  let tabSize ← fields.get? "tab_size" Value.column?
  let anchorOffset ← fields.get? "function_anchor_offset" Value.column?
  let continuationMarker ← fields.get? "continuation_marker" Value.string?
  let closeMarker ← fields.get? "block_close_marker" Value.string?
  return ⟨indentUnit.getD standard.indentUnit, tabSize.getD standard.tabSize,
    anchorOffset.getD standard.anchorOffset, continuationMarker.getD standard.continuationMarker,
    closeMarker.getD standard.closeMarker⟩

/-- Reads settings. -/
def ofValue : Value → Except ReadError Config
  | .object fields => ofFields fields
  | .array items =>
    if items.length ≤ fieldNames.length then ofFields (fieldNames.zip items)
    else .error .malformed
  | _ => .error .malformed

end EditorMode.Config
