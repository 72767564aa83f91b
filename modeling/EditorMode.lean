import EditorMode.Column
import EditorMode.Config
import EditorMode.Cursor
import EditorMode.Document
import EditorMode.Equelle
import EditorMode.Event
import EditorMode.Fault
import EditorMode.Kind
import EditorMode.Line
import EditorMode.Logged
import EditorMode.Mode
import EditorMode.Pattern
import EditorMode.Position
import EditorMode.Regex
import EditorMode.Regex.Atom
import EditorMode.Regex.Bracket
import EditorMode.Regex.CharSet
import EditorMode.Regex.Encoding
import EditorMode.Regex.Expr
import EditorMode.Regex.Footprint
import EditorMode.Regex.Made
import EditorMode.Regex.Parse
import EditorMode.Regex.Piece
import EditorMode.Regex.Plan
import EditorMode.Regex.Property
import EditorMode.Regex.Search
import EditorMode.Regex.SetExpr
import EditorMode.Regex.Simplify
import EditorMode.Rule
import EditorMode.Stored.Config
import EditorMode.Stored.Document
import EditorMode.Stored.Record
import EditorMode.Stored.Token
import EditorMode.Stored.Value
import EditorMode.Style
import EditorMode.Text.Blank
import EditorMode.Text.Bytes
import EditorMode.Text.CaseFold
import EditorMode.Text.Letter
import EditorMode.Text.Lines
import EditorMode.Text.Printable
import EditorMode.Text.Quoted
import EditorMode.Text.Ranges
import EditorMode.Text.Width
import EditorMode.Text.Word
import EditorMode.Token
import EditorMode.Tracker
import EditorMode.Proofs.Tracking
import EditorMode.Proofs.Tracking.Levels
import EditorMode.Proofs.Tracking.Alike
import EditorMode.Proofs.Regex.Ways
import EditorMode.Proofs.Regex.Wiring
import EditorMode.Proofs.Regex.Steps
import EditorMode.Proofs.Regex.Search
import EditorMode.Proofs.Equelle.Patterns
import EditorMode.Proofs.Equelle.Lexeme
import EditorMode.Proofs.Line
import EditorMode.Proofs.Line.Tiling
import EditorMode.Proofs.Line.Ending
import EditorMode.Proofs.Text.Lines
import EditorMode.Proofs.Mode
import EditorMode.Proofs.Mode.Reparse
import EditorMode.Proofs.Mode.Content
import EditorMode.Proofs.Mode.Convergence
import EditorMode.Proofs.Mode.Boundary
import EditorMode.Proofs.Tracking.LogicalLine
import EditorMode.Proofs.Equelle.Code
import EditorMode.Proofs.Equelle.Braces
import EditorMode.Proofs.Line.Columns
import EditorMode.Proofs.Mode.Bounds
import EditorMode.Proofs.Equelle.Continuation
import EditorMode.Proofs.Tracking.Adoption
import EditorMode.Proofs.Tracking.OuterLevels
import EditorMode.Proofs.Equelle.Statement
import EditorMode.Proofs.Equelle.Closing
import EditorMode.Proofs.Equelle.Nesting
import EditorMode.Proofs.Equelle.Balance
import EditorMode.Proofs.Stored
import EditorMode.Proofs.Line.Reading
import EditorMode.Proofs.Equelle.Alignment
import EditorMode.Proofs.Mode.Reach
import EditorMode.Proofs.Equelle.Tracked
import EditorMode.Proofs.Equelle.Trailer
import EditorMode.Proofs.Equelle.Expansion
import EditorMode.Proofs.Stored.Restored
import EditorMode.Proofs.Line.Marks
import EditorMode.Proofs.Equelle.Leading
import EditorMode.Proofs.Regex.Reading
import EditorMode.Proofs.Regex.Tidy
import EditorMode.Proofs.Regex.Framed
import EditorMode.Proofs.Regex.Anchoring
