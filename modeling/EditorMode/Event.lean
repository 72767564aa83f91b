import EditorMode.Config
import EditorMode.Stored.Value

/-!
# Events

What happens while a mode works on a document, as a list of events.  An event knows its severity,
its message and its fields.

Events are not recorded on the way but read off the results: `Step.events` says what a token of a
line was made of, and `Tracker.events` compares the state of the document before a token with the
state after it.
-/

set_option autoImplicit false

namespace EditorMode

/-- How much an event matters. -/
inductive Severity where
  | trace
  | debug
  deriving DecidableEq, Repr

/-- The name of a severity. -/
def Severity.name : Severity → String
  | .trace => "TRACE"
  | .debug => "DEBUG"

/-- Something that happened. -/
inductive Event where
  | modeCreated (rules styles : Nat) (config : Config)
  /-- A rule was chosen for a text of `length` bytes. -/
  | ruleSelected (rule length : Nat) (text : List Char)
  /-- A token of this kind became a line continuation. -/
  | reclassified (kind : Kind)
  | unmatched (error : LexError) (text : List Char)
  | closeIgnored (line : Nat)
  /-- A token was tracked; the state after it follows. -/
  | advanced (kind : Kind) (level column : Nat) (continued : Bool)
  deriving DecidableEq, Repr

namespace Event

/-- The severity of an event. -/
def severity : Event → Severity
  | .modeCreated .. => .debug
  | .ruleSelected .. => .trace
  | .reclassified .. => .trace
  | .unmatched .. => .debug
  | .closeIgnored .. => .debug
  | .advanced .. => .trace

/-- The message of an event. -/
def message : Event → String
  | .modeCreated .. => "mode created"
  | .ruleSelected .. => "rule selected"
  | .reclassified .. => "reclassified as line continuation"
  | .unmatched .. => "unmatched input marked as error"
  | .closeIgnored .. => "block close without matching open ignored"
  | .advanced .. => "advanced"

/-- The fields of an event. -/
def fields : Event → List (String × Value)
  | .modeCreated rules styles config =>
    [("rules", .nat rules), ("styles", .nat styles), ("config", .string config.describe)]
  | .ruleSelected rule length text =>
    [("rule", .nat rule), ("len", .nat length), ("text", .string (String.ofList text))]
  | .reclassified kind => [("kind", .string kind.name)]
  | .unmatched error text =>
    [("err", .string error.message), ("text", .string (String.ofList text))]
  | .closeIgnored line => [("line", .nat line)]
  | .advanced kind level column continued =>
    [("kind", .string kind.name), ("level", .nat level), ("indent", .nat column),
      ("continued", .bool continued)]

end Event

/-! ## Events of tokens and steps -/

/-- The event of a rule that was chosen. -/
def Selection.event (s : Selection) : Event :=
  .ruleSelected s.index (Text.byteLength s.text) s.text

/-- The events of a token on its way out of a line. -/
def Step.events (s : Step) : List Event :=
  match s.origin with
  | .rule selection was => selection.event :: was.toList.map .reclassified
  | .unmatched error => [.unmatched error s.token.text]
  | .lineEnd selection => selection.toList.map (·.event)

/-- The events of a token that moves the document from `d` to `e`. -/
def Tracker.events (d e : Document) (token : Token) : List Event :=
  (if ignoresClose d token then [.closeIgnored token.line] else [])
    ++ [.advanced token.kind e.level (e.columns.getD e.level 0) e.continued]

end EditorMode
