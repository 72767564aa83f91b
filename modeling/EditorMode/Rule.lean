import EditorMode.Pattern
import EditorMode.Token

/-!
# Rules

A grammar is a list of rules, each of which says what to look for and which token to make of it.
`select` tries all rules on the remaining text: the longest match wins, and among matches of equal
length the earliest rule.  A match without characters is a match.
-/

set_option autoImplicit false

namespace EditorMode

/-- A pattern, and the token to make of a match from its text and its line number. -/
structure Rule where
  pattern : Pattern
  action : List Char → Nat → Token

namespace Rule

/-- The rule that makes tokens of one kind. -/
def ofKind (pattern : Pattern) (kind : Kind) : Rule := ⟨pattern, Token.new kind⟩

/-- The rule that looks for a fixed text. -/
def literal (text : String) (kind : Kind) : Rule := ofKind (.literal text) kind

/-- The rule that looks for a regular expression. -/
def regex (source : String) (kind : Kind) : Except InvalidPattern Rule :=
  (Pattern.ofRegex source).map (ofKind · kind)

/-- The rule as messages show it: its action has no text. -/
def describe (r : Rule) : String := "Rule \x7b pattern: " ++ r.pattern.describe ++ ", .. \x7d"

end Rule

/-- A rule that matches, with its place in the grammar and the text that it matches. -/
structure Selection where
  index : Nat
  rule : Rule
  text : List Char

/-- The rules that match at the start of `rest`, in the order of the grammar; `index` is the place
of the first rule. -/
def candidates (rest : List Char) : List Rule → Nat → List Selection
  | [], _ => []
  | rule :: rules, index =>
    match rule.pattern.matched? rest with
    | some text => ⟨index, rule, text⟩ :: candidates rest rules (index + 1)
    | none => candidates rest rules (index + 1)

/-- The first of the longest selections. -/
def firstLongest : List Selection → Option Selection
  | [] => none
  | s :: rest =>
    match firstLongest rest with
    | none => some s
    | some t => if s.text.length < t.text.length then some t else some s

/-- The rule that applies at the start of `rest`. -/
def select (rules : List Rule) (rest : List Char) : Option Selection :=
  firstLongest (candidates rest rules 0)

end EditorMode
