import EditorMode.Cursor

/-!
# The tokens of a line

`LineScan` reads a whole line, one token at a time.  On top of reading by rules it

* makes a line continuation of every token that a rule gives before the end of the line and that
  starts with the continuation marker,
* makes an error token of a character that no rule matches, whether or not the marker starts with
  it, and goes on after it,
* does the same with the character after a token without text, so that every line comes to its end,
* ends the line with an end-of-line token, unless its last token ends the line already.

An empty line has no tokens.

Each `Step` of the scan says where its token comes from.
-/

set_option autoImplicit false

namespace EditorMode

/-- Where a token of a line comes from. -/
inductive Origin where
  /-- From a rule.  The kind that the rule gave it is recorded if the token became a line
  continuation. -/
  | rule (selection : Selection) (was : Option Kind)
  /-- From a character that no rule matches. -/
  | unmatched (error : LexError)
  /-- From the end of the line, where a rule may have matched the empty rest. -/
  | lineEnd (selection : Option Selection)

/-- A token of a line, with its origin and the number of bytes read after it. -/
structure Step where
  token : Token
  origin : Origin
  position : Nat

/-- A line that is being scanned. -/
structure LineScan where
  cursor : Cursor
  rules : List Rule
  /-- The continuation marker. -/
  marker : String
  /-- The position of the last token, if it had no text and did not end the line. -/
  stalledAt : Option Nat
  /-- Whether the last token ends the line. -/
  terminated : Bool
  /-- Whether the end of the line has been reported. -/
  finished : Bool

namespace LineScan

/-- The continuation marker if nothing else is said. -/
def defaultMarker : String := "..."

/-- The start of a scan. -/
def start (cursor : Cursor) (rules : List Rule) (marker : String) : LineScan :=
  ⟨cursor, rules, marker, none, false, cursor.text.isEmpty⟩

/-- Whether the token is to become a line continuation. -/
def continues (s : LineScan) (token : Token) : Bool :=
  !s.marker.toList.isEmpty && s.marker.toList.isPrefixOf token.text
    && token.kind != .lineContinuation

/-- The token, as a line continuation if it starts with the marker. -/
def reclassify (s : LineScan) (token : Token) : Token :=
  if s.continues token then { token with kind := .lineContinuation } else token

/-- The scan after a token that starts at the cursor of `s` and is followed by `after`. -/
def moved (s : LineScan) (token : Token) (after : Cursor) : LineScan :=
  { s with
    cursor := after
    stalledAt := if token.isEmpty && !after.atEnd then some s.cursor.position else none
    terminated := token.kind.endsLine }

/-- The token that a rule reads. -/
def matchedStep (s : LineScan) (r : Cursor.Reading) : Step × LineScan :=
  let token := s.reclassify r.token
  let was := if s.continues r.token then some r.token.kind else none
  (⟨token, .rule r.selection was, r.after.position⟩, s.moved token r.after)

/-- The error token of a single character. -/
def recover (s : LineScan) (error : LexError) : Except Fault (Step × LineScan) := do
  let column ← s.cursor.column
  let text := s.cursor.rest.take 1
  let token := (Token.new .error text s.cursor.line).placed s.cursor.offset column
  let after := s.cursor.advance 1
  return (⟨token, .unmatched error, after.position⟩, s.moved token after)

/-- The token that ends the line: that of a rule for the empty rest, if it has the right kind. -/
def lineEnd (s : LineScan) : Except Fault (Step × LineScan) := do
  let column ← s.cursor.column
  let default := Token.endOfLine s.cursor.line s.cursor.offset column
  let (token, selection) := match ← s.cursor.next s.rules with
    | .error _ => (default, none)
    | .ok r => (if r.token.kind = .endOfLine then r.token else default, some r.selection)
  return (⟨token, .lineEnd selection, s.cursor.position⟩, { s with finished := true })

/-- The next token of the line and the scan after it; nothing once the line has ended. -/
def next (s : LineScan) : Except Fault (Option (Step × LineScan)) :=
  if s.finished then .ok none
  else if s.cursor.atEnd then
    if s.terminated then .ok none else some <$> s.lineEnd
  else if s.stalledAt = some s.cursor.position then some <$> s.recover s.cursor.unmatched
  else do
    match ← s.cursor.next s.rules with
    | .ok r => return some (s.matchedStep r)
    | .error e => some <$> s.recover e

/-- The tokens of a line, as far as they could be read, and the scan after the last of them or the
fault that it ran into. -/
structure Scanned where
  steps : List Step
  outcome : Except Fault LineScan

/-- The tokens of the line, at most `count` of them. -/
def run : Nat → LineScan → Scanned
  | 0, _ => ⟨[], .error .noProgress⟩
  | count + 1, s =>
    match s.next with
    | .error f => ⟨[], .error f⟩
    | .ok none => ⟨[], .ok s⟩
    | .ok (some (step, s)) =>
      let more := run count s
      ⟨step :: more.steps, more.outcome⟩

/-- All tokens of the line.  A character gives at most one token with text and one without. -/
def scan (s : LineScan) : Scanned := s.run (2 * s.cursor.rest.length + 2)

end LineScan

end EditorMode
