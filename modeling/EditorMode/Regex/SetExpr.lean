import EditorMode.Regex.Expr
import EditorMode.Regex.Property

/-!
# Sets as a pattern writes them

A set in brackets lists characters, ranges, classes and further sets in brackets, and may combine
two such lists by an operator.  `SetExpr.toSet` gives the set of characters that is meant.

Where case is ignored, a set in brackets, a class by Unicode property and each operand of an
operator also has the characters that differ from its own by case only; a negated set is negated
after that.

Where sets are limited to ASCII, the classes have their ASCII characters only.  Whatever reaches
beyond ASCII cannot be written there, and this includes all negated sets.
-/

set_option autoImplicit false

namespace EditorMode.Regex

/-- What is wrong with a pattern. -/
inductive Error where
  | unclosedGroup
  | unopenedGroup
  | nothingToRepeat
  | badCount
  | unclosedSet
  | badRange
  | assertionInSet
  | danglingEscape
  | unknownEscape
  | badCodePoint
  | unknownProperty
  | beyondAscii
  | lookAround
  | badFlags
  | badGroupName
  | duplicateGroupName
  | tooDeep
  | tooLarge
  deriving DecidableEq, Repr, Inhabited

/-- The classes of characters that an escape such as `\d` names. -/
inductive CharClass where
  | digit
  | space
  | word
  deriving DecidableEq, Repr

/-- The characters of the class. -/
def CharClass.toSet : Scope → CharClass → CharSet
  | .allScripts, .digit => .digits
  | .allScripts, .space => .blanks
  | .allScripts, .word => .wordChars
  | .ascii, .digit => .range '0' '9'
  | .ascii, .space => .ofRanges [(0x09, 0x0D), (0x20, 0x20)]
  | .ascii, .word => .ofRanges [(0x30, 0x39), (0x41, 0x5A), (0x5F, 0x5F), (0x61, 0x7A)]

/-- The set, unless it reaches beyond the characters that sets are limited to. -/
def Scope.admit (scope : Scope) (s : CharSet) : Except Error CharSet :=
  match scope with
  | .allScripts => .ok s
  | .ascii => if s.isAscii then .ok s else .error .beyondAscii

/-- The ways to combine two sets inside brackets. -/
inductive SetOp where
  | intersection
  | difference
  | symmetricDifference
  deriving DecidableEq, Repr

/-- The combined set. -/
def SetOp.combine : SetOp → CharSet → CharSet → CharSet
  | .intersection => .intersection
  | .difference => .difference
  | .symmetricDifference => .symmetricDifference

/-- A set of characters as a pattern writes it. -/
inductive SetExpr where
  /-- The set without characters. -/
  | empty
  | char (c : Char)
  /-- The characters from `first` to `last`, both included. -/
  | range (first last : Char)
  | named (cls : CharClass) (negated : Bool)
  | property (p : Property) (negated : Bool)
  | union (a b : SetExpr)
  | combine (op : SetOp) (a b : SetExpr)
  /-- A set in brackets. -/
  | bracket (negated : Bool) (a : SetExpr)
  deriving DecidableEq, Repr

namespace SetExpr

/-- The set, with the characters that differ by case only if case is ignored. -/
def caseClosed (scope : Scope) (ignoreCase : Bool) (s : CharSet) : CharSet :=
  match ignoreCase, scope with
  | false, _ => s
  | true, .allScripts => s.ignoringCase
  | true, .ascii => s.ignoringCase.intersection .ascii

/-- The set, or the characters outside it. -/
def orComplement (negated : Bool) (s : CharSet) : CharSet := if negated then s.complement else s

/-- The characters that are meant, where `known` looks up a class by Unicode property. -/
def toSet (known : Property → Option CharSet) (scope : Scope) (ignoreCase : Bool) :
    SetExpr → Except Error CharSet
  | .empty => .ok .empty
  | .char c => scope.admit (.single c)
  | .range first last => scope.admit (.range first last)
  | .named cls negated => scope.admit (orComplement negated (cls.toSet scope))
  | .property p negated =>
    match scope, known p with
    | .ascii, _ => .error .beyondAscii
    | .allScripts, none => .error .unknownProperty
    | .allScripts, some s => .ok (orComplement negated (caseClosed scope ignoreCase s))
  | .union a b => do
    return (← a.toSet known scope ignoreCase).union (← b.toSet known scope ignoreCase)
  | .combine op a b => do
    let s ← a.toSet known scope ignoreCase
    let t ← b.toSet known scope ignoreCase
    return op.combine (caseClosed scope ignoreCase s) (caseClosed scope ignoreCase t)
  | .bracket negated a => do
    let s ← a.toSet known scope ignoreCase
    scope.admit (orComplement negated (caseClosed scope ignoreCase s))

/-- The set of a list of ranges. -/
def ofRanges (ranges : List (Char × Char)) : SetExpr :=
  ranges.foldl (fun set r => set.union (.range r.1 r.2)) .empty

end SetExpr

end EditorMode.Regex
