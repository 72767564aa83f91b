import EditorMode.Regex
import EditorMode.Text.Bytes
import EditorMode.Text.Quoted

/-!
# Patterns

What a rule looks for at the start of the remaining line: a fixed text, or a regular expression.

A regular expression is anchored by the text put around it, `^(?:` and `)`.  A pattern with
unbalanced parentheses can leave this frame, so the match of the framed expression may start later;
what counts is where it stops.
-/

set_option autoImplicit false

namespace EditorMode

/-- What a rule looks for. -/
inductive Pattern where
  | literal (text : String)
  | regex (expr : Regex)
  deriving DecidableEq, Repr

/-- A pattern text that is no regular expression. -/
structure InvalidPattern where
  pattern : String
  cause : Regex.Error
  deriving DecidableEq, Repr

namespace Pattern

/-- The pattern text in the frame that anchors it. -/
def anchored (source : String) : String := "^(?:" ++ source ++ ")"

/-- The pattern that looks for a regular expression, which is read with the given engine. -/
def ofRegexWith (engine : Regex.Engine) (source : String) : Except InvalidPattern Pattern :=
  match Regex.compileWith engine (anchored source) with
  | .ok compiled => .ok (.regex compiled)
  | .error cause => .error ⟨source, cause⟩

/-- The pattern that looks for a regular expression. -/
def ofRegex (source : String) : Except InvalidPattern Pattern := ofRegexWith .standard source

/-- The number of characters of `text` up to the end of the match. -/
def matchChars (text : List Char) : Pattern → Option Nat
  | .literal wanted => if wanted.toList.isPrefixOf text then some wanted.toList.length else none
  | .regex expr => (expr.find? text).map (·.stop)

/-- The part of `text` up to the end of the match. -/
def matched? (p : Pattern) (text : List Char) : Option (List Char) :=
  (p.matchChars text).map text.take

/-- A match is the start of the text. -/
theorem append_drop_of_matched? {p : Pattern} {text found : List Char}
    (h : p.matched? text = some found) : found ++ text.drop found.length = text := by
  rw [matched?, Option.map_eq_some_iff] at h
  obtain ⟨n, _, rfl⟩ := h
  rw [List.length_take]
  rcases Nat.le_total n text.length with hn | hn
  · rw [Nat.min_eq_left hn, List.take_append_drop]
  · rw [Nat.min_eq_right hn, List.drop_length, List.append_nil, List.take_of_length_le hn]

/-- The number of bytes of `text` up to the end of the match. -/
def matchLength (p : Pattern) (text : List Char) : Option Nat :=
  (p.matched? text).map Text.byteLength

/-- A fixed text in quotes, or a regular expression between slashes. -/
def display : Pattern → String
  | .literal text => String.ofList (Text.quoted text.toList)
  | .regex expr => "/" ++ expr.source ++ "/"

/-- The pattern with the name of its form. -/
def describe : Pattern → String
  | .literal text => "Literal(" ++ String.ofList (Text.quoted text.toList) ++ ")"
  | .regex expr => "Regex(Regex(" ++ String.ofList (Text.quoted expr.source.toList) ++ "))"

end Pattern

end EditorMode
