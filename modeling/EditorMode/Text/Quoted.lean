import EditorMode.Text.Printable

/-!
# Quoted texts

Messages show a text in double quotes.  The quote and the backslash get a backslash before them, the
tab, the carriage return, the newline and the zero character have short names, and every other
character that cannot be shown as it is is written by its number in braces.
-/

set_option autoImplicit false

namespace EditorMode.Text

/-- A character by its number, in lower-case hexadecimal digits. -/
def codeEscape (c : Char) : List Char :=
  "\\u\x7b".toList ++ Nat.toDigits 16 c.toNat ++ ['\x7d']

/-- A character as it stands between quotes. -/
def quoteChar (c : Char) : List Char :=
  if c == '"' then ['\\', '"']
  else if c == '\\' then ['\\', '\\']
  else if c == '\t' then ['\\', 't']
  else if c == '\r' then ['\\', 'r']
  else if c == '\n' then ['\\', 'n']
  else if c == '\x00' then ['\\', '0']
  else if isPrintable c then [c]
  else codeEscape c

/-- The text in double quotes. -/
def quoted (text : List Char) : List Char := '"' :: text.flatMap quoteChar ++ ['"']

end EditorMode.Text
