import EditorMode.Logged
import EditorMode.Style

/-!
# Editor modes

A mode joins a grammar, a style table and settings.  It cuts lines into tokens, gives the tokens
their display classes, moves the state of a document along and suggests indentation.

The state of a document is the caller's: feed every line in order to `highlightLine` or
`advanceLine`.  `reparse` computes the same state from the start of the document, and `indentLines`
suggests a column for every line from the lines before it as they are written.
-/

set_option autoImplicit false

namespace EditorMode

/-- A grammar with styles and settings.  `Mode.create` checks the settings. -/
structure Mode where
  rules : List Rule
  styles : StyleTable
  config : Config

/-- Why a mode could not be made. -/
inductive ModeError where
  | pattern (e : InvalidPattern)
  | config (e : ConfigError)
  deriving DecidableEq, Repr

namespace Mode

/-- The mode with the given parts, provided its settings are right. -/
def create (rules : List Rule) (styles : StyleTable) (config : Config) : Except ConfigError Mode :=
  match config.error? with
  | some e => .error e
  | none => .ok ⟨rules, styles, config⟩

/-- The event of the creation of a mode. -/
def created (m : Mode) : Event := .modeCreated m.rules.length m.styles.size m.config

/-- The tracker of the mode. -/
def tracker (m : Mode) : Tracker := m.config.tracker

/-- The scan of a line. -/
def scan (m : Mode) (line : Nat) (text : List Char) : LineScan :=
  .start (.start text line m.config.tabSize) m.rules m.config.continuationMarker

/-- The tokens of a line. -/
def tokens (m : Mode) (line : Nat) (text : List Char) : Logged (List Token) :=
  let scanned := (m.scan line text).scan
  ⟨scanned.steps.flatMap Step.events, scanned.outcome.map fun _ => scanned.steps.map Step.token⟩

/-- Moves the state of a document along the tokens of a scan. -/
def trackSteps (m : Mode) (indentation : Nat) (d : Document) : List Step → Logged Document
  | [] => pure d
  | s :: rest => do
    Logged.emit s.events
    let d ← m.tracker.track d s.token indentation
    m.trackSteps indentation d rest

/-- Moves the state of a document along a line, and gives its tokens. -/
def scanLine (m : Mode) (d : Document) (line : Nat) (text : List Char) :
    Logged (Document × List Token) := do
  let s := m.scan line text
  let indentation ← Logged.ofExcept s.cursor.indentation
  let scanned := s.scan
  let d ← m.trackSteps indentation d scanned.steps
  let _ ← Logged.ofExcept scanned.outcome
  return (d, scanned.steps.map Step.token)

/-- A token with its display class. -/
def style (m : Mode) (token : Token) : StyledToken := ⟨token, m.styles.classOf token.kind⟩

/-- Moves the state of a document along a line, and gives its tokens with their classes. -/
def highlightLine (m : Mode) (d : Document) (line : Nat) (text : List Char) :
    Logged (Document × List StyledToken) := do
  let (d, tokens) ← m.scanLine d line text
  return (d, tokens.map m.style)

/-- Moves the state of a document along a line. -/
def advanceLine (m : Mode) (d : Document) (line : Nat) (text : List Char) : Logged Document := do
  let (d, _) ← m.scanLine d line text
  return d

/-- The column at which a line with this text should start. -/
def indent (m : Mode) (d : Document) (text : List Char) : Except Fault Nat :=
  m.tracker.suggest d text

/-- Moves the state of a document along lines, the first of which has the number `line`. -/
def advanceLines (m : Mode) (d : Document) (line : Nat) : List (List Char) → Logged Document
  | [] => pure d
  | text :: rest => do
    let d ← m.advanceLine d (line % offsetBound) text
    m.advanceLines d (line + 1) rest

/-- The state of a document after its last line. -/
def reparse (m : Mode) (text : List Char) : Logged Document :=
  m.advanceLines .start 0 (Text.lines text)

/-- The suggested columns of lines, the first of which has the number `line`. -/
def indentLinesFrom (m : Mode) (d : Document) (line : Nat) :
    List (List Char) → Logged (List Nat)
  | [] => pure []
  | text :: rest => do
    let column ← Logged.ofExcept (m.indent d text)
    let d ← m.advanceLine d (line % offsetBound) text
    let columns ← m.indentLinesFrom d (line + 1) rest
    return column :: columns

/-- The suggested column of every line of a document. -/
def indentLines (m : Mode) (text : List Char) : Logged (List Nat) :=
  m.indentLinesFrom .start 0 (Text.lines text)

end Mode

end EditorMode
