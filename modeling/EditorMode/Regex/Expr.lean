import EditorMode.Regex.CharSet
import EditorMode.Text.Bytes

/-!
# Regular expressions

The tree of a pattern, after its flags have been resolved: each set of characters says whether it
ignores case by the characters that it has, each repetition whether it prefers more or fewer rounds,
each anchor whether it means the text or a line and what ends a line, each condition on words which
characters can be part of a word.

Of the groups only the numbered ones leave a trace.  Nothing asks for what they match, but two of
them are never the same expression.  Nor are a set that was limited to ASCII and one that was not,
even if they have the same characters.

A sequence of several items is written `seq a (seq b c)`, and alternatives likewise; no item of a
sequence is itself a sequence or empty, and no two literals stand side by side.  The functions of
`EditorMode.Regex.Simplify` keep to this form.
-/

set_option autoImplicit false

namespace EditorMode.Regex

open Text

/-! ## Assertions -/

/-- The characters that classes and words are made of. -/
inductive Scope where
  | allScripts
  | ascii
  deriving DecidableEq, Repr

/-- Whether `c` can be part of a word. -/
def Scope.isWord : Scope → Char → Bool
  | .allScripts, c => Text.isWord c
  | .ascii, c => c.isAlphanum || c == '_'

/-- A condition on the word characters at a place. -/
inductive WordCheck where
  /-- A word character on exactly one side. -/
  | boundary
  | notBoundary
  /-- A word starts here. -/
  | wordStart
  /-- A word ends here. -/
  | wordEnd
  /-- No word character before. -/
  | notAfterWord
  /-- No word character after. -/
  | notBeforeWord
  deriving DecidableEq, Repr

/-- Whether the condition holds, given whether a word character is before and after the place. -/
def WordCheck.holds (before after : Bool) : WordCheck → Bool
  | .boundary => before != after
  | .notBoundary => before == after
  | .wordStart => !before && after
  | .wordEnd => before && !after
  | .notAfterWord => !before
  | .notBeforeWord => !after

/-- A condition on the place between two characters. -/
inductive Assertion where
  | textStart
  | textEnd
  /-- A line starts here.  Lines end with a newline or, with `crlf`, with a carriage return, a
  newline or both. -/
  | lineStart (crlf : Bool)
  /-- A line ends here. -/
  | lineEnd (crlf : Bool)
  | word (scope : Scope) (check : WordCheck)
  deriving DecidableEq, Repr

/-- Whether the assertion holds between the two neighbours, which are missing at the ends of the
text. -/
def Assertion.holds (previous next : Option Char) : Assertion → Bool
  | .textStart => previous.isNone
  | .textEnd => next.isNone
  | .lineStart false => previous.all (· == '\n')
  -- There is no line between a carriage return and the newline that follows it.
  | .lineStart true => previous.all fun c => c == '\n' || (c == '\r' && next != some '\n')
  | .lineEnd false => next.all (· == '\n')
  | .lineEnd true => next.all fun c => c == '\r' || (c == '\n' && previous != some '\r')
  | .word scope check => check.holds (previous.any scope.isWord) (next.any scope.isWord)

/-! ## Expressions -/

/-- A regular expression. -/
inductive Expr where
  /-- Matches the empty text. -/
  | empty
  /-- Matches just this text. -/
  | literal (text : List Char)
  /-- Matches one character of the set. -/
  | chars (set : CharSet)
  /-- Matches one character of the set, which was limited to ASCII. -/
  | asciiChars (set : CharSet)
  /-- Matches the empty text where the assertion holds. -/
  | check (assertion : Assertion)
  /-- A numbered group. -/
  | group (index : Nat) (body : Expr)
  /-- Matches `least` up to `most` rounds of `body`, without limit if `most` is missing. -/
  | times (body : Expr) (least : Nat) (most : Option Nat) (greedy : Bool)
  | seq (a b : Expr)
  /-- Matches as `a` does or, failing that, as `b` does. -/
  | alt (a b : Expr)
  deriving DecidableEq, Repr

/-! ## The length of a match -/

/-- The number of bytes of a code point in UTF-8. -/
def codeLength (n : Nat) : Nat :=
  if n < 0x80 then 1 else if n < 0x800 then 2 else if n < 0x10000 then 3 else 4

namespace Expr

/-- The least number of bytes that a match has; missing if a part cannot match at all. -/
def minLength : Expr → Option Nat
  | .empty => some 0
  | .literal text => some (byteLength text)
  | .chars set | .asciiChars set => set.ranges.head?.map fun r => codeLength r.1
  | .check _ => some 0
  | .group _ body => body.minLength
  | .times body least _ _ => body.minLength.map (least * ·)
  | .seq a b => do return (← a.minLength) + (← b.minLength)
  | .alt a b => do return min (← a.minLength) (← b.minLength)

/-- The greatest number of bytes that a match can have; missing if there is none, or if a part
cannot match at all. -/
def maxLength : Expr → Option Nat
  | .empty => some 0
  | .literal text => some (byteLength text)
  | .chars set | .asciiChars set => set.ranges.getLast?.map fun r => codeLength r.2
  | .check _ => some 0
  | .group _ body => body.maxLength
  | .times body _ most _ => do return (← most) * (← body.maxLength)
  | .seq a b => do return (← a.maxLength) + (← b.maxLength)
  | .alt a b => do return max (← a.maxLength) (← b.maxLength)

/-- Whether every match is known to have a character. -/
def consumes (e : Expr) : Bool := e.minLength.any (0 < ·)

/-- Whether no match has a character. -/
def alwaysEmpty (e : Expr) : Bool := e.maxLength == some 0

/-! ## Anchors -/

/-- Whether every match is known to begin at the start of the text. -/
def atTextStart : Expr → Bool
  | .check a => a == .textStart
  | .group _ body => body.atTextStart
  | .times body least _ _ => decide (0 < least) && body.atTextStart
  | .seq a b => a.atTextStart || (a.alwaysEmpty && b.atTextStart)
  | .alt a b => a.atTextStart && b.atTextStart
  | _ => false

/-- Whether every match is known to stop at the end of the text. -/
def atTextEnd : Expr → Bool
  | .check a => a == .textEnd
  | .group _ body => body.atTextEnd
  | .times body least _ _ => decide (0 < least) && body.atTextEnd
  | .seq a b => b.atTextEnd || (b.alwaysEmpty && a.atTextEnd)
  | .alt a b => a.atTextEnd && b.atTextEnd
  | _ => false

end Expr

end EditorMode.Regex
