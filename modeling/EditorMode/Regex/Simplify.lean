import EditorMode.Regex.Expr

/-!
# Simplified expressions

The functions by which the expressions of a pattern are put together.  They do not change what an
expression matches, with one exception: where an alternative is followed by something that may match
in several ways, taking out what all alternatives start with changes which way is preferred, as in
`a?a|a?b`, which is read as `a?[ab]`.

* `ofSet`, `ofAsciiSet` — a set of a single character is a literal, and there is one empty set.
* `sequence` — items that are sequences are spelled out, empty items are left out and neighbouring
  literals are joined.
* `alternatives` — alternatives that are alternatives are spelled out, several sets or single
  characters become one set, and sequences that start with the same items share these.
* `repeated` — rounds that match nothing are not repeated, and a single round is just the body.
-/

set_option autoImplicit false

namespace EditorMode.Regex

namespace Expr

/-- The expression that matches a character of the set. -/
def ofSet (set : CharSet) : Expr :=
  match set.single? with
  | some c => .literal [c]
  | none => .chars set

/-- The expression that matches a character of the set, which is limited to ASCII. -/
def ofAsciiSet (set : CharSet) : Expr :=
  match set.single? with
  | some c => .literal [c]
  | none => if set = .empty then .chars set else .asciiChars set

/-! ## Sequences -/

/-- The items of a sequence. -/
def items : Expr → List Expr
  | .empty => []
  | .seq a b => a :: b.items
  | e => [e]

/-- The list with neighbouring literals joined. -/
def joinLiterals : List Expr → List Expr
  | [] => []
  | .literal s :: rest =>
    match joinLiterals rest with
    | .literal t :: more => .literal (s ++ t) :: more
    | rest => .literal s :: rest
  | e :: rest => e :: joinLiterals rest

/-- The sequence with the given items. -/
def ofItems : List Expr → Expr
  | [] => .empty
  | [e] => e
  | e :: rest => .seq e (ofItems rest)

/-- One part after the other. -/
def sequence (parts : List Expr) : Expr := ofItems (joinLiterals (parts.flatMap items))

/-! ## Alternatives -/

/-- The single alternatives of an expression. -/
def branches : Expr → List Expr
  | .alt a b => a :: b.branches
  | e => [e]

/-- The choice between the given alternatives. -/
def ofBranches : List Expr → Expr
  | [] => .chars .empty
  | [e] => e
  | e :: rest => .alt e (ofBranches rest)

/-- The set of a single character that is written as a literal. -/
def letterSet? : Expr → Option CharSet
  | .literal [c] => some (.single c)
  | _ => none

/-- The set of an expression that is one. -/
def set? : Expr → Option CharSet
  | .chars set | .asciiChars set => some set
  | _ => none

/-- One set for alternatives that are all single characters, or all sets. -/
def merged? (parts : List Expr) : Option CharSet :=
  ((parts.mapM letterSet?).or (parts.mapM set?)).map fun sets => sets.foldl .union .empty

/-- The alternatives one after the other, as one set if possible. -/
def choose (parts : List Expr) : Expr :=
  match parts.flatMap branches with
  | [e] => e
  | parts =>
    match merged? parts with
    | some set => ofSet set
    | none => ofBranches parts

/-- The longest list that both lists start with. -/
def commonStart : List Expr → List Expr → List Expr
  | a :: as, b :: bs => if a = b then a :: commonStart as bs else []
  | _, _ => []

/-- Whether the expression has several items. -/
def isSequence : Expr → Bool
  | .seq _ _ => true
  | _ => false

/-- The items that all alternatives start with, provided each of them has several items. -/
def sharedStart : List Expr → List Expr
  | [] => []
  | e :: rest =>
    if (e :: rest).all isSequence then rest.foldl (fun start e => commonStart start e.items) e.items
    else []

/-- The parts as alternatives. -/
def alternatives (parts : List Expr) : Expr :=
  match choose parts with
  | .alt a b =>
    match sharedStart (a :: b.branches) with
    | [] => .alt a b
    | start =>
      let rests := (a :: b.branches).map fun e => ofItems (e.items.drop start.length)
      sequence (start ++ [choose rests])
  | e => e

/-! ## Repetitions -/

/-- `least` up to `most` rounds of the body. -/
def repeated (body : Expr) (least : Nat) (most : Option Nat) (greedy : Bool) : Expr :=
  let once := body.alwaysEmpty
  let least := if once then min least 1 else least
  let most := if once then some (min (most.getD 1) 1) else most
  if least = 0 ∧ most = some 0 then .empty
  else if least = 1 ∧ most = some 1 then body
  else .times body least most greedy

end Expr

end EditorMode.Regex
