import EditorMode.Regex.Bracket
import EditorMode.Text.Letter

/-!
# The pieces of a pattern text

A pattern is read in two stages.  This file cuts the text into pieces — an atom, an opening or
closing parenthesis, a bar, a repetition mark, a change of flags — each of which can be read without
knowing what stands around it.  A bracketed set, however deeply nested, is one piece.

The flags are `i` (ignore case), `m` (anchors mean lines), `s` (the dot means every character), `R`
(lines end with carriage returns as well), `U` (repetitions prefer fewer rounds), `u` (classes hold
characters of all scripts, which is so unless it is switched off) and `x` (blanks and comments may
stand in the pattern).  There are no patterns with blanks and comments here: `x` can be switched
off, but not on.
-/

set_option autoImplicit false

namespace EditorMode.Regex

open Text

/-- A setting that a pattern can change on its way. -/
inductive Flag where
  | ignoreCase
  | multiLine
  | dotAll
  | crlf
  | swapGreed
  | allScripts
  | verbose
  deriving DecidableEq, Repr

/-- A list of flags, each with the value that it gets. -/
abbrev FlagChange := List (Flag × Bool)

/-- The start of a group. -/
inductive Opening where
  /-- A group that is counted, and may have a name. -/
  | numbered (name : Option (List Char))
  /-- A group without a number, in which flags may be changed. -/
  | plain (change : FlagChange)
  deriving DecidableEq, Repr

/-- A piece of a pattern text. -/
inductive Piece where
  | atom (a : Atom)
  | openGroup (opening : Opening)
  | closeGroup
  | setFlags (change : FlagChange)
  | bar
  | times (least : Nat) (most : Option Nat) (lazy : Bool)
  deriving DecidableEq, Repr

/-! ## Repetition marks -/

/-- Counts of repetitions lie below this bound. -/
def countBound : Nat := Nat.pow 2 32

/-- A decimal number with optional white space around it. -/
def readCount (text : List Char) : Except Error (Nat × List Char) :=
  let text := skipBlank text
  let digits := text.takeWhile Char.isDigit
  let n := digits.foldl (fun n d => n * 10 + (d.toNat - '0'.toNat)) 0
  if digits = [] ∨ countBound ≤ n then .error .badCount
  else .ok (n, skipBlank (text.dropWhile Char.isDigit))

/-- A repetition mark, with the question mark after it that makes it prefer fewer rounds. -/
def readLazy (least : Nat) (most : Option Nat) : List Char → Piece × List Char
  | '?' :: rest => (.times least most true, rest)
  | rest => (.times least most false, rest)

/-- A counted repetition, after its opening brace. -/
def readCounted (text : List Char) : Except Error (Piece × List Char) := do
  match ← readCount text with
  | (n, '}' :: rest) => return readLazy n (some n) rest
  | (n, ',' :: '}' :: rest) => return readLazy n none rest
  | (n, ',' :: rest) =>
    match ← readCount rest with
    | (m, '}' :: rest) => if n ≤ m then return readLazy n (some m) rest else throw .badCount
    | _ => throw .badCount
  | _ => throw .badCount

/-! ## Groups -/

/-- Whether `c` can stand in the name of a group. -/
def isNameChar (first : Bool) (c : Char) : Bool :=
  c == '_' || isLetter c || (!first && (isNumber c || c == '.' || c == '[' || c == ']'))

/-- The name of a group up to its closing angle bracket. -/
def readName (text : List Char) : Except Error (Piece × List Char) :=
  match text.takeWhile (· != '>'), text.dropWhile (· != '>') with
  | first :: more, _ :: rest =>
    if isNameChar true first && more.all (isNameChar false) then
      .ok (.openGroup (.numbered (some (first :: more))), rest)
    else .error .badGroupName
  | _, _ => .error .badGroupName

/-- The flag with a given letter. -/
def Flag.ofChar? : Char → Option Flag
  | 'i' => some .ignoreCase
  | 'm' => some .multiLine
  | 's' => some .dotAll
  | 'R' => some .crlf
  | 'U' => some .swapGreed
  | 'u' => some .allScripts
  | 'x' => some .verbose
  | _ => none

/-- The letters of a change of flags: those after a dash are switched off, no letter occurs twice,
and at least one follows a dash. -/
def readFlags (letters : List Char) : Except Error FlagChange := do
  let set := letters.takeWhile (· != '-')
  let cleared := (letters.dropWhile (· != '-')).drop 1
  let flags ← ((set ++ cleared).mapM Flag.ofChar?).elim (.error .badFlags) .ok
  let change := flags.zip (set.map (fun _ => true) ++ cleared.map (fun _ => false))
  if ¬ flags.Nodup ∨ (letters.contains '-' ∧ cleared = []) ∨ (Flag.verbose, true) ∈ change then
    throw .badFlags
  return change

/-- What follows an opening parenthesis. -/
def readGroup : List Char → Except Error (Piece × List Char)
  | '?' :: '=' :: _ => .error .lookAround
  | '?' :: '!' :: _ => .error .lookAround
  | '?' :: '<' :: '=' :: _ => .error .lookAround
  | '?' :: '<' :: '!' :: _ => .error .lookAround
  | '?' :: 'P' :: '<' :: rest => readName rest
  | '?' :: '<' :: rest => readName rest
  | '?' :: rest =>
    let isLetter (c : Char) : Bool := c != ':' && c != ')'
    match rest.takeWhile isLetter, rest.dropWhile isLetter with
    | letters, ':' :: rest =>
      (readFlags letters).map fun change => (.openGroup (.plain change), rest)
    | [], _ => .error .badFlags
    | letters, ')' :: rest => (readFlags letters).map fun change => (.setFlags change, rest)
    | _, _ => .error .unclosedGroup
  | rest => .ok (.openGroup (.numbered none), rest)

/-! ## The whole pattern -/

/-- The piece that starts with the character `c`, and the text after it. -/
def readPiece (c : Char) (rest : List Char) : Except Error (Piece × List Char) :=
  match c with
  | '(' => readGroup rest
  | ')' => .ok (.closeGroup, rest)
  | '|' => .ok (.bar, rest)
  | '?' => .ok (readLazy 0 (some 1) rest)
  | '*' => .ok (readLazy 0 none rest)
  | '+' => .ok (readLazy 1 none rest)
  | '{' => readCounted rest
  | '[' => (readBracket rest).map fun (set, rest) => (.atom set, rest)
  | '\\' => (readEscape rest).map fun (a, rest) => (.atom a, rest)
  | '.' => .ok (.atom .dot, rest)
  | '^' => .ok (.atom .caret, rest)
  | '$' => .ok (.atom .dollar, rest)
  | c => .ok (.atom (.char c), rest)

/-- The first `steps` pieces of a text.  Every piece uses up a character, so that the length of the
text is enough for all of them. -/
def readPieces : Nat → List Char → Except Error (List Piece)
  | _, [] => .ok []
  | 0, _ :: _ => .error .tooLarge
  | steps + 1, c :: rest => do
    let (piece, rest) ← readPiece c rest
    return piece :: (← readPieces steps rest)

/-- The pieces of a pattern text. -/
def pieces (text : List Char) : Except Error (List Piece) := readPieces text.length text

end EditorMode.Regex
