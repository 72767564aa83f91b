import EditorMode.Regex.Atom

/-!
# Bracketed sets

A set in brackets lists characters, ranges, classes and further sets in brackets.  The operators
`&&`, `--` and `~~` bind weaker than listing and are applied from left to right.

The set is read in one pass with a stack of the brackets that are still open.
-/

set_option autoImplicit false

namespace EditorMode.Regex

/-- Whether a caret at the start of a text negates what follows, and the text after the caret. -/
def negation : List Char → Bool × List Char
  | '^' :: rest => (true, rest)
  | text => (false, text)

/-- A part of a bracketed set, with the depth of the brackets, lists and operators in it. -/
structure SetPart where
  set : SetExpr
  depth : Nat := 0
  deriving DecidableEq, Repr

/-- A bracketed set that is still open: whether it is negated, what stands before its last operator,
and the items after it. -/
structure OpenSet where
  negated : Bool
  left : Option (SetOp × SetPart) := none
  items : SetExpr := .empty
  /-- The number of the items. -/
  count : Nat := 0
  /-- The depth of the deepest item. -/
  depth : Nat := 0

namespace OpenSet

/-- The items after the last operator.  Two or more of them are one level deeper than each. -/
def listed (s : OpenSet) : SetPart := ⟨s.items, if s.count < 2 then s.depth else s.depth + 1⟩

/-- The set as far as it has been read. -/
def content (s : OpenSet) : SetPart :=
  match s.left with
  | none => s.listed
  | some (op, left) =>
    ⟨.combine op left.set s.listed.set, max left.depth s.listed.depth + 1⟩

/-- The whole set. -/
def close (s : OpenSet) : SetPart := ⟨.bracket s.negated s.content.set, s.content.depth + 1⟩

/-- The set with one more item. -/
def add (s : OpenSet) (item : SetPart) : OpenSet :=
  { s with items := s.items.union item.set, count := s.count + 1, depth := max s.depth item.depth }

/-- The set after an operator. -/
def operator (s : OpenSet) (op : SetOp) : OpenSet :=
  { negated := s.negated, left := some (op, s.content) }

/-- The start of a set, after its caret: dashes there stand for themselves, and so does a closing
bracket if it comes first. -/
def literalStart (negated : Bool) (text : List Char) : OpenSet × List Char :=
  let dashes := text.takeWhile (· == '-')
  let new := dashes.foldl (fun s c => s.add ⟨.char c, 0⟩) { negated : OpenSet }
  match dashes, text.dropWhile (· == '-') with
  | [], ']' :: rest => (new.add ⟨.char ']', 0⟩, rest)
  | _, rest => (new, rest)

/-- The start of a set, after its opening bracket. -/
def start (text : List Char) : OpenSet × List Char :=
  literalStart (negation text).1 (negation text).2

end OpenSet

/-- A class with a name, as in `[:alpha:]`, after its caret. -/
def namedClass? (negated : Bool) (text : List Char) : Option (SetExpr × List Char) :=
  match text.dropWhile (· != ':') with
  | ':' :: ']' :: rest =>
    (CharSet.asciiClass? (String.ofList (text.takeWhile (· != ':')))).map fun ranges =>
      (.bracket negated (.ofRanges ranges), rest)
  | _ => none

/-- A class with a name, after its opening bracket and colon. -/
def readAsciiClass? (text : List Char) : Option (SetExpr × List Char) :=
  namedClass? (negation text).1 (negation text).2

/-- A single character or an escape inside a set. -/
def readSetAtom : List Char → Except Error (Atom × List Char)
  | [] => .error .unclosedSet
  | '\\' :: rest => readEscape rest
  | c :: rest => .ok (.char c, rest)

/-- The character that an atom stands for, if it is one. -/
def Atom.char? : Atom → Option Char
  | .char c | .byte c => some c
  | _ => none

/-- The item of a set that an atom stands for. -/
def Atom.toItem : Atom → Except Error SetExpr
  | .char c | .byte c => .ok (.char c)
  | .named cls negated => .ok (.named cls negated)
  | .property p negated => .ok (.property p negated)
  | _ => .error .assertionInSet

/-- An item of a set: an atom, or a range between two characters.  A dash before a closing bracket
or before another dash makes no range. -/
def readSetItem (text : List Char) : Except Error (SetExpr × List Char) := do
  let (first, rest) ← readSetAtom text
  match rest with
  | '-' :: ']' :: _ => return (← first.toItem, rest)
  | '-' :: '-' :: _ => return (← first.toItem, rest)
  | '-' :: rest =>
    let (last, rest) ← readSetAtom rest
    match first.char?, last.char? with
    | some a, some b => if a ≤ b then return (.range a b, rest) else throw .badRange
    | _, _ => throw .badRange
  | _ => return (← first.toItem, rest)

/-- The rest of a set inside the open sets `outer`.  Every step uses up a character of the text, so
that its length is enough as the number of steps. -/
def readSet : Nat → OpenSet → List OpenSet → List Char → Except Error (SetPart × List Char)
  | 0, _, _, _ => .error .unclosedSet
  | _ + 1, _, _, [] => .error .unclosedSet
  | steps + 1, s, outer, ']' :: rest =>
    match outer with
    | [] => .ok (s.close, rest)
    | parent :: outer => readSet steps (parent.add s.close) outer rest
  | steps + 1, s, outer, '[' :: rest =>
    let nested := OpenSet.start rest
    match rest with
    | ':' :: name =>
      match readAsciiClass? name with
      | some (cls, rest) => readSet steps (s.add ⟨cls, 0⟩) outer rest
      | none => readSet steps nested.1 (s :: outer) nested.2
    | _ => readSet steps nested.1 (s :: outer) nested.2
  | steps + 1, s, outer, '&' :: '&' :: rest => readSet steps (s.operator .intersection) outer rest
  | steps + 1, s, outer, '-' :: '-' :: rest => readSet steps (s.operator .difference) outer rest
  | steps + 1, s, outer, '~' :: '~' :: rest =>
    readSet steps (s.operator .symmetricDifference) outer rest
  | steps + 1, s, outer, text => do
    let (item, rest) ← readSetItem text
    readSet steps (s.add ⟨item, 0⟩) outer rest

/-- A bracketed set, after its opening bracket. -/
def readBracket (text : List Char) : Except Error (Atom × List Char) := do
  let (s, rest) := OpenSet.start text
  let (part, rest) ← readSet (rest.length + 1) s [] rest
  return (.set part.set part.depth, rest)

end EditorMode.Regex
