import EditorMode.Regex.Made
import EditorMode.Regex.Plan

/-!
# Matching

A match is found by trying choices in the order in which the pattern writes them: the first way
through the plan that succeeds is the match, whether or not another way would reach further, and of
all places to start the leftmost one that has a way through is taken.

The search keeps a list of tasks.  A task is a place in the text with the plans that are still to be
followed from there; a choice turns one task into two, the preferred one first.  No choice is made
twice at the same place: a second task that arrives there cannot do better than the first, and this
is also what keeps a loop around an empty round from going on for ever.  So the number of tasks is
bounded by the number of choices times that of places.
-/

set_option autoImplicit false

namespace EditorMode.Regex

/-- A place in a text. -/
structure Spot where
  /-- The number of characters before the place. -/
  index : Nat
  /-- The character right before the place. -/
  previous : Option Char
  /-- The characters after the place. -/
  rest : List Char
  deriving DecidableEq, Repr

namespace Spot

/-- The place after the next character, if the set has that character. -/
def read (s : Spot) (set : CharSet) : Option Spot :=
  match s.rest with
  | [] => none
  | c :: rest => if set.holds c then some ⟨s.index + 1, some c, rest⟩ else none

/-- The place after the given characters, if they are the next ones. -/
def readText (s : Spot) : List Char → Option Spot
  | [] => some s
  | c :: text =>
    match s.rest with
    | [] => none
    | d :: rest => if c = d then readText ⟨s.index + 1, some d, rest⟩ text else none

end Spot

/-- A place with the plans to follow from there, in which the numbers of choices are moved on. -/
structure Task where
  spot : Spot
  todo : List (Plan × Nat)

namespace Task

/-- The tasks after the choice between two ways to go on, unless it has been made before. -/
@[inline]
def choose (id : Nat) (made : Made) (spot : Spot) (first second : List (Plan × Nat))
    (tasks : List Task) : List Task × Made :=
  if made.contains spot.index id then (tasks, made)
  else (⟨spot, first⟩ :: ⟨spot, second⟩ :: tasks, made.insert spot.index id)

/-- The tasks after the choice between another round and going on. -/
@[inline]
def chooseRound (id : Nat) (greedy : Bool) (made : Made) (spot : Spot)
    (round next : List (Plan × Nat)) (tasks : List Task) : List Task × Made :=
  if greedy then choose id made spot round next tasks else choose id made spot next round tasks

/-- The tasks after the first one has followed its first plan, with its numbers moved on by `shift`;
`todo` are the other plans of this task, and `tasks` the other tasks. -/
@[inline]
def step (made : Made) (spot : Spot) (shift : Nat) (todo : List (Plan × Nat)) (tasks : List Task) :
    Plan → List Task × Made
  | .empty => (⟨spot, todo⟩ :: tasks, made)
  | .literal text =>
    match spot.readText text with
    | some spot => (⟨spot, todo⟩ :: tasks, made)
    | none => (tasks, made)
  | .chars set =>
    match spot.read set with
    | some spot => (⟨spot, todo⟩ :: tasks, made)
    | none => (tasks, made)
  | .check a =>
    if a.holds spot.previous spot.rest.head? then (⟨spot, todo⟩ :: tasks, made) else (tasks, made)
  | .seq a b => (⟨spot, (a, shift) :: (b, shift) :: todo⟩ :: tasks, made)
  | .choice id a b => choose (id + shift) made spot ((a, shift) :: todo) ((b, shift) :: todo) tasks
  | .star id greedy body =>
    chooseRound (id + shift) greedy made spot
      ((body, shift) :: (.star id greedy body, shift) :: todo) todo tasks
  | .plus id greedy body =>
    (⟨spot, (body, shift) :: (.star id greedy body, shift) :: todo⟩ :: tasks, made)
  | .atLeast id 0 _ greedy body =>
    (⟨spot, (.plus id greedy body, shift) :: todo⟩ :: tasks, made)
  | .atLeast id (count + 1) stride greedy body =>
    let more : Plan := .atLeast id count stride greedy body
    (⟨spot, (body, shift) :: (more, shift + stride) :: todo⟩ :: tasks, made)
  | .counted id (count + 1) more stride greedy body =>
    let more : Plan := .counted id count more stride greedy body
    (⟨spot, (body, shift) :: (more, shift + stride) :: todo⟩ :: tasks, made)
  | .counted _ 0 0 _ _ _ => (⟨spot, todo⟩ :: tasks, made)
  | .counted id 0 (more + 1) stride greedy body =>
    let more : Plan := .counted id 0 more stride greedy body
    chooseRound (id + shift) greedy made spot
      ((body, shift) :: (more, shift + stride) :: todo) todo tasks

end Task

/-- Where the first of the tasks to come to its end stops, and the choices made on the way. -/
def runTasks : Nat → Made → List Task → Option Nat × Made
  | 0, made, _ => (none, made)
  | _ + 1, made, [] => (none, made)
  | _ + 1, made, ⟨spot, []⟩ :: _ => (some spot.index, made)
  | steps + 1, made, ⟨spot, (plan, shift) :: todo⟩ :: tasks =>
    let (tasks, made) := Task.step made spot shift todo tasks plan
    runTasks steps made tasks

/-- The part of a text that a match covers, in characters. -/
structure Span where
  start : Nat
  stop : Nat
  deriving DecidableEq, Repr

/-- A plan with what the search needs to know about it. -/
structure Matcher where
  plan : Plan
  /-- The number of choices that a match can meet. -/
  choices : Nat
  /-- Whether a match can only begin at the start of the text. -/
  anchored : Bool
  deriving DecidableEq, Repr

/-- The matcher of an expression. -/
def Expr.matcher (e : Expr) : Matcher := ⟨e.plan, e.choices, e.atTextStart⟩

namespace Matcher

/-- A number of steps that is enough with `length` characters left: each choice is made at most once
at each place and leaves two tasks, none of which takes more steps than the plan has parts before it
comes to another choice. -/
def enoughSteps (m : Matcher) (length : Nat) : Nat :=
  (2 * m.choices * (length + 1) + 1) * (m.plan.size + 2)

/-- Where the match that starts at the spot stops, if there is one, and the choices made. -/
def matchAt (m : Matcher) (made : Made) (s : Spot) : Option Nat × Made :=
  runTasks (m.enoughSteps s.rest.length) made [⟨s, [(m.plan, 0)]⟩]

/-- The leftmost match that starts at the place after `index` characters, of which `previous` is the
last, or later. -/
def searchFrom (m : Matcher) (made : Made) (index : Nat) (previous : Option Char) :
    List Char → Option Span
  | [] => (m.matchAt made ⟨index, previous, []⟩).1.map (⟨index, ·⟩)
  | c :: rest =>
    match m.matchAt made ⟨index, previous, c :: rest⟩ with
    | (some stop, _) => some ⟨index, stop⟩
    | (none, made) => m.searchFrom made (index + 1) (some c) rest

/-- The leftmost match in a text. -/
def search (m : Matcher) (text : List Char) : Option Span :=
  if m.anchored then (m.matchAt .none ⟨0, none, text⟩).1.map (⟨0, ·⟩)
  else m.searchFrom .none 0 none text

end Matcher

end EditorMode.Regex
