import EditorMode.Regex.SetExpr

/-!
# Atoms and escapes

An atom is a place of a pattern that matches by itself: a character, the dot, an anchor, a set.  A
backslash makes an atom of the text after it: a character by its name or its number, a class, an
assertion, or a punctuation mark that would otherwise mean something else.

References back to a group are not known.
-/

set_option autoImplicit false

namespace EditorMode.Regex

/-- A place of the pattern that matches by itself. -/
inductive Atom where
  | char (c : Char)
  /-- A character that is written by two hexadecimal digits. -/
  | byte (c : Char)
  | dot
  | caret
  | dollar
  /-- The start of the text. -/
  | textStart
  /-- The end of the text. -/
  | textEnd
  | word (check : WordCheck)
  | named (cls : CharClass) (negated : Bool)
  | property (p : Property) (negated : Bool)
  /-- A set in brackets, with the depth of the brackets and operators in it. -/
  | set (s : SetExpr) (depth : Nat)
  deriving DecidableEq, Repr

/-! ## Characters by number -/

/-- The value of a hexadecimal digit. -/
def hexValue? (c : Char) : Option Nat :=
  if '0' ≤ c ∧ c ≤ '9' then some (c.toNat - '0'.toNat)
  else if 'a' ≤ c ∧ c ≤ 'f' then some (c.toNat - 'a'.toNat + 10)
  else if 'A' ≤ c ∧ c ≤ 'F' then some (c.toNat - 'A'.toNat + 10)
  else none

/-- The character whose code point the hexadecimal digits give. -/
def hexChar (digits : List Char) : Except Error Char := do
  let values ← (digits.mapM hexValue?).elim (.error .badCodePoint) .ok
  let n := values.foldl (fun n d => n * 16 + d) 0
  if digits ≠ [] ∧ n.isValidChar then return Char.ofNat n else throw .badCodePoint

/-- A code point after `\x`, `\u` or `\U`: `count` digits, or any number of them in braces. -/
def readCodePoint (count : Nat) : List Char → Except Error (Char × List Char)
  | '{' :: text =>
    let digits := text.takeWhile (· != '}')
    match text.dropWhile (· != '}') with
    | [] => .error .badCodePoint
    | _ :: rest => (hexChar digits).map (·, rest)
  | text =>
    if text.length < count then .error .badCodePoint
    else (hexChar (text.take count)).map (·, text.drop count)

/-! ## Escapes -/

/-- The characters that keep their meaning as text when a backslash stands before them: all of
ASCII but letters, digits and the angle brackets. -/
def isEscapable (c : Char) : Bool :=
  decide (c.toNat < 128) && !c.isAlphanum && c != '<' && c != '>'

/-- A class by Unicode property, after `\p` or `\P`. -/
def readProperty (negated : Bool) : List Char → Except Error (Atom × List Char)
  | [] => .error .danglingEscape
  | '{' :: text =>
    match text.dropWhile (· != '}') with
    | [] => .error .danglingEscape
    | _ :: rest =>
      let (property, differs) := Property.ofBraces (text.takeWhile (· != '}'))
      .ok (.property property (negated != differs), rest)
  | '\\' :: _ => .error .unknownProperty
  | c :: rest => .ok (.property (.letter c) negated, rest)

/-- A word boundary in braces, after `\b` and the opening brace. -/
def readBoundary (text : List Char) : Except Error (Atom × List Char) :=
  let isName (c : Char) : Bool := c.isAlpha || c == '-'
  match String.ofList (text.takeWhile isName), text.dropWhile isName with
  | "start", '}' :: rest => .ok (.word .wordStart, rest)
  | "end", '}' :: rest => .ok (.word .wordEnd, rest)
  | "start-half", '}' :: rest => .ok (.word .notAfterWord, rest)
  | "end-half", '}' :: rest => .ok (.word .notBeforeWord, rest)
  | _, _ => .error .unknownEscape

/-- The atom that a backslash makes of a single character. -/
def escaped? (c : Char) : Option Atom :=
  match c with
  | 'd' => some (.named .digit false)
  | 'D' => some (.named .digit true)
  | 's' => some (.named .space false)
  | 'S' => some (.named .space true)
  | 'w' => some (.named .word false)
  | 'W' => some (.named .word true)
  | 'a' => some (.char '\x07')
  | 'f' => some (.char '\x0c')
  | 't' => some (.char '\t')
  | 'n' => some (.char '\n')
  | 'r' => some (.char '\r')
  | 'v' => some (.char '\x0b')
  | 'A' => some .textStart
  | 'z' => some .textEnd
  | 'b' => some (.word .boundary)
  | 'B' => some (.word .notBoundary)
  | '<' => some (.word .wordStart)
  | '>' => some (.word .wordEnd)
  | c => if isEscapable c then some (.char c) else none

/-- What a backslash makes of the text after it.  A brace after `\b` that no name follows is a
repetition mark. -/
def readEscape : List Char → Except Error (Atom × List Char)
  | [] => .error .danglingEscape
  | 'x' :: '{' :: rest => (readCodePoint 2 ('{' :: rest)).map fun (c, rest) => (.char c, rest)
  | 'x' :: rest => (readCodePoint 2 rest).map fun (c, rest) => (.byte c, rest)
  | 'u' :: rest => (readCodePoint 4 rest).map fun (c, rest) => (.char c, rest)
  | 'U' :: rest => (readCodePoint 8 rest).map fun (c, rest) => (.char c, rest)
  | 'p' :: rest => readProperty false rest
  | 'P' :: rest => readProperty true rest
  | 'b' :: '{' :: rest =>
    if rest.isEmpty || rest.head?.any (fun c => c.isAlpha || c == '-') then readBoundary rest
    else .ok (.word .boundary, '{' :: rest)
  | c :: rest => (escaped? c).elim (.error .unknownEscape) fun a => .ok (a, rest)

end EditorMode.Regex
