import EditorMode.Regex.Expr

/-!
# Matching plans

A plan is an expression made ready for matching: each place at which a match has a choice — between
two alternatives, or between another round and going on — has a number of its own.

A repetition without limit is a loop.  One whose body needs at least one character is entered at the
choice (`star`); one whose body may match nothing is a first round followed by the choice (`plus`),
and skipping it altogether is a choice of its own.

The rounds of a counted repetition are not written out.  Every round has choices of its own, though:
those of the next round are the same with all numbers moved on by `stride`, which leaves room for
one choice beside those of the body.
-/

set_option autoImplicit false

namespace EditorMode.Regex

/-- An expression made ready for matching. -/
inductive Plan where
  | empty
  | literal (text : List Char)
  | chars (set : CharSet)
  | check (assertion : Assertion)
  | seq (a b : Plan)
  /-- Tries `first`, then `second`. -/
  | choice (id : Nat) (first second : Plan)
  /-- The choice between another round of `body` and going on, tried in this order if greedy. -/
  | star (id : Nat) (greedy : Bool) (body : Plan)
  /-- One round of `body`, then the choice as in `star`. -/
  | plus (id : Nat) (greedy : Bool) (body : Plan)
  /-- `count` rounds of `body`, then `plus`. -/
  | atLeast (id count stride : Nat) (greedy : Bool) (body : Plan)
  /-- `count` rounds of `body`, then up to `more` rounds, each after the choice between it and going
  on. -/
  | counted (id count more stride : Nat) (greedy : Bool) (body : Plan)
  deriving DecidableEq, Repr

namespace Plan

/-- The choice between `a` and nothing, `a` first if greedy. -/
def maybe (id : Nat) (greedy : Bool) (a : Plan) : Plan :=
  if greedy then .choice id a .empty else .choice id .empty a

/-- The number of parts of the plan once its counted repetitions are written out. -/
def size : Plan → Nat
  | .empty => 1
  | .literal _ => 1
  | .chars _ => 1
  | .check _ => 1
  | .seq a b => a.size + b.size + 1
  | .choice _ a b => a.size + b.size + 1
  | .star _ _ body => body.size + 1
  | .plus _ _ body => body.size + 2
  | .atLeast _ count _ _ body => (count + 1) * (body.size + 1) + 2
  | .counted _ count more _ _ body => (count + more) * (body.size + 1) + 1

end Plan

/-- The plan of an expression, numbered from `id` on, and the next free number. -/
def Expr.number : Expr → Nat → Plan × Nat
  | .empty, id => (.empty, id)
  | .literal text, id => (.literal text, id)
  | .chars set, id => (.chars set, id)
  | .asciiChars set, id => (.chars set, id)
  | .check assertion, id => (.check assertion, id)
  | .group _ body, id => body.number id
  | .seq a b, id =>
    let first := a.number id
    let second := b.number first.2
    (.seq first.1 second.1, second.2)
  | .alt a b, id =>
    let first := a.number (id + 1)
    let second := b.number first.2
    (.choice id first.1 second.1, second.2)
  | .times body 0 none greedy, id =>
    let round := body.number id
    if body.consumes then (.star round.2 greedy round.1, round.2 + 1)
    else (Plan.maybe round.2 greedy (.plus (round.2 + 1) greedy round.1), round.2 + 2)
  | .times body (least + 1) none greedy, id =>
    let round := body.number id
    let stride := round.2 + 1 - id
    (.atLeast round.2 least stride greedy round.1, id + (least + 1) * stride)
  | .times body least (some most) greedy, id =>
    let round := body.number id
    let stride := round.2 + 1 - id
    (.counted round.2 least (most - least) stride greedy round.1, id + most * stride)

/-- The plan of an expression. -/
def Expr.plan (e : Expr) : Plan := (e.number 0).1

/-- The number of choices that a match of the expression can meet. -/
def Expr.choices (e : Expr) : Nat := (e.number 0).2

end EditorMode.Regex
