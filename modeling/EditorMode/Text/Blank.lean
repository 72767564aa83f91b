import EditorMode.Text.Ranges

/-!
# Blank characters

The white space of all scripts.  `skipBlank` removes it from the start of a text; indentation, in
contrast, counts spaces and tabs only.
-/

set_option autoImplicit false

namespace EditorMode.Text

/-- The white space characters. -/
def blankTable : Table where
  ranges :=
    [(0x9, 0xD), (0x20, 0x20), (0x85, 0x85), (0xA0, 0xA0), (0x1680, 0x1680), (0x2000, 0x200A),
     (0x2028, 0x2029), (0x202F, 0x202F), (0x205F, 0x205F), (0x3000, 0x3000)]
  ascending := by decide

/-- Whether `c` is white space. -/
def isBlank (c : Char) : Bool := blankTable.holds c.toNat

/-- The text without its leading white space. -/
def skipBlank (text : List Char) : List Char := text.dropWhile isBlank

/-- Whether `c` counts as indentation: a space or a tab. -/
def isIndent (c : Char) : Bool := c == ' ' || c == '\t'

theorem isBlank_of_isIndent {c : Char} (h : isIndent c = true) : isBlank c = true := by
  unfold isIndent at h
  rcases Bool.or_eq_true _ _ ▸ h with h | h
  · rw [eq_of_beq h]; decide
  · rw [eq_of_beq h]; decide

end EditorMode.Text
