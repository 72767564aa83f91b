import EditorMode.Cursor
import EditorMode.Line
import EditorMode.Tracker

/-!
# Settings of a mode

The settings an editor can choose, with their defaults and the conditions that they have to meet.
-/

set_option autoImplicit false

namespace EditorMode

/-- The settings of a mode. -/
structure Config where
  /-- The columns that a block adds. -/
  indentUnit : Nat
  /-- The distance of tab stops. -/
  tabSize : Nat
  /-- What is added to the column of a function marker to align a continuation line. -/
  anchorOffset : Nat
  /-- A token that starts with this text continues the logical line. -/
  continuationMarker : String
  /-- A line that starts with this text closes a block. -/
  closeMarker : String
  deriving DecidableEq, Repr, Inhabited

/-- The settings that can be wrong. -/
inductive ConfigError where
  | tabSizeZero
  | continuationMarkerEmpty
  | closeMarkerEmpty
  deriving DecidableEq, Repr

namespace ConfigError

/-- The name of the wrong setting. -/
def field : ConfigError → String
  | .tabSizeZero => "tab_size"
  | .continuationMarkerEmpty => "continuation_marker"
  | .closeMarkerEmpty => "block_close_marker"

/-- What the setting has to be. -/
def requirement : ConfigError → String
  | .tabSizeZero => "must be at least 1"
  | .continuationMarkerEmpty => "must not be empty"
  | .closeMarkerEmpty => "must not be empty"

/-- The wording of the error. -/
def message (e : ConfigError) : String :=
  "invalid configuration: " ++ e.field ++ " " ++ e.requirement

end ConfigError

namespace Config

/-- The settings if nothing else is said. -/
def standard : Config :=
  ⟨Tracker.standard.indentUnit, Cursor.defaultTabSize, Tracker.standard.anchorOffset,
    LineScan.defaultMarker, Tracker.standard.closeMarker⟩

/-- The first setting that is wrong, if there is one. -/
def error? (c : Config) : Option ConfigError :=
  if c.tabSize = 0 then some .tabSizeZero
  else if c.continuationMarker = "" then some .continuationMarkerEmpty
  else if c.closeMarker = "" then some .closeMarkerEmpty
  else none

/-- The tracker with these settings. -/
def tracker (c : Config) : Tracker := ⟨c.indentUnit, c.anchorOffset, c.closeMarker⟩

/-- The settings as messages show them. -/
def describe (c : Config) : String :=
  "ModeConfig \x7b indent_unit: " ++ toString c.indentUnit
    ++ ", tab_size: " ++ toString c.tabSize
    ++ ", function_anchor_offset: " ++ toString c.anchorOffset
    ++ ", continuation_marker: " ++ String.ofList (Text.quoted c.continuationMarker.toList)
    ++ ", block_close_marker: " ++ String.ofList (Text.quoted c.closeMarker.toList)
    ++ " \x7d"

end Config

end EditorMode
