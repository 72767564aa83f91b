/-!
# The lines of a document

A document is cut at its newlines.  A carriage return directly before a newline belongs to the line
ending; a last piece that is empty is no line.  `trimEnding` takes the line ending off a single
line, however many carriage returns and newlines it consists of.
-/

set_option autoImplicit false

namespace EditorMode.Text

/-- The pieces between newlines, a last empty one included. -/
def newlinePieces : List Char → List (List Char)
  | [] => [[]]
  | c :: rest =>
    match c == '\n', newlinePieces rest with
    | true, ps => [] :: ps
    | false, p :: ps => (c :: p) :: ps
    | false, [] => [[c]]

/-- A piece without the one carriage return at its end, if it has one. -/
def dropReturn (piece : List Char) : List Char :=
  if piece.getLast? = some '\r' then piece.dropLast else piece

/-- The lines that the pieces stand for: every piece but the last is followed by a newline. -/
def linesOfPieces : List (List Char) → List (List Char)
  | [] => []
  | [last] => if last.isEmpty then [] else [last]
  | piece :: next :: rest => dropReturn piece :: linesOfPieces (next :: rest)

/-- The lines of a document. -/
def lines (text : List Char) : List (List Char) := linesOfPieces (newlinePieces text)

/-- Whether `c` belongs to a line ending. -/
def isEnding (c : Char) : Bool := c == '\n' || c == '\r'

/-- A line without the carriage returns and newlines at its end. -/
def trimEnding (line : List Char) : List Char := (line.reverse.dropWhile isEnding).reverse

end EditorMode.Text
