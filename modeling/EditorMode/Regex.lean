import EditorMode.Regex.Footprint
import EditorMode.Regex.Parse
import EditorMode.Regex.Search

/-!
# Regular expressions with their text

`Regex.compile` reads a pattern text and makes it ready for matching; `Regex.find?` looks for its
leftmost match.

Two things about patterns are conventions that could be others: which classes of characters have a
name, and how large an expression may be.  They are collected in an `Engine`; `Regex.compile` uses
the standard one.
-/

set_option autoImplicit false

namespace EditorMode

open Regex

/-- A pattern text together with its matcher. -/
structure Regex where
  source : String
  matcher : Matcher
  deriving DecidableEq, Repr

namespace Regex

/-- What is known when a pattern is read. -/
structure Engine where
  /-- The characters of a class by Unicode property. -/
  known : Property → Option CharSet
  /-- Whether an expression is small enough. -/
  fits : Expr → Bool

/-- The classes that have a table, and the limit on the size of the automata. -/
def Engine.standard : Engine := ⟨Property.find?, Expr.fits⟩

/-- Reads a pattern with the given engine. -/
def compileWith (engine : Engine) (source : String) : Except Regex.Error Regex := do
  let expr ← Expr.parse engine.known source.toList
  if ¬ engine.fits expr then throw .tooLarge
  return ⟨source, expr.matcher⟩

/-- Reads a pattern. -/
def compile (source : String) : Except Regex.Error Regex := compileWith .standard source

/-- The leftmost match in the text. -/
def find? (regex : Regex) (text : List Char) : Option Span := regex.matcher.search text

end Regex

end EditorMode
