import EditorMode.Regex.Piece
import EditorMode.Regex.Simplify

/-!
# From pieces to expressions

The second stage of reading a pattern: one pass over its pieces with a stack of the groups that are
still open.  Each open group keeps the alternatives before its last bar, the sequence after it, and
the flags in force, so that a change of flags lasts until its group is closed.

A pattern must not be nested too deeply.  How deep it is depends on how it is written: parts that
are simplified away count as well.
-/

set_option autoImplicit false

namespace EditorMode.Regex

/-- The settings under which a place of the pattern is read. -/
structure Flags where
  ignoreCase : Bool := false
  multiLine : Bool := false
  dotAll : Bool := false
  crlf : Bool := false
  swapGreed : Bool := false
  scope : Scope := .allScripts
  deriving DecidableEq, Repr

namespace Flags

/-- The settings with one flag changed. -/
def set (flags : Flags) : Flag → Bool → Flags
  | .ignoreCase, value => { flags with ignoreCase := value }
  | .multiLine, value => { flags with multiLine := value }
  | .dotAll, value => { flags with dotAll := value }
  | .crlf, value => { flags with crlf := value }
  | .swapGreed, value => { flags with swapGreed := value }
  | .allScripts, value => { flags with scope := if value then .allScripts else .ascii }
  | .verbose, _ => flags

/-- The settings after a change. -/
def apply (flags : Flags) (change : FlagChange) : Flags :=
  change.foldl (fun flags c => flags.set c.1 c.2) flags

end Flags

/-- A part of a pattern that has been read, with the depth of its parts: an atom has none, and a set
in brackets, a group, a repetition, a sequence and a choice each are one level deeper than what they
are made of. -/
structure Part where
  expr : Expr
  depth : Nat := 0
  deriving DecidableEq, Repr

/-- The greatest depth that a pattern may have. -/
def depthLimit : Nat := 250

/-- The depth of parts that are put together. -/
def jointDepth (parts : List Part) : Nat :=
  let deepest := parts.foldl (fun depth part => max depth part.depth) 0
  if parts.length < 2 then deepest else deepest + 1

namespace Part

/-- The parts one after the other. -/
def sequence (parts : List Part) : Part := ⟨.sequence (parts.map expr), jointDepth parts⟩

/-- The parts as alternatives. -/
def alternatives (parts : List Part) : Part := ⟨.alternatives (parts.map expr), jointDepth parts⟩

/-- The part repeated. -/
def repeated (part : Part) (least : Nat) (most : Option Nat) (greedy : Bool) : Part :=
  ⟨part.expr.repeated least most greedy, part.depth + 1⟩

/-- The part in parentheses. -/
def grouped (part : Part) (index : Option Nat) : Part :=
  ⟨index.elim part.expr (.group · part.expr), part.depth + 1⟩

end Part

namespace Flags

/-- The expression that matches a character of the set. -/
def setExpr (flags : Flags) (s : CharSet) : Expr :=
  match flags.scope with
  | .allScripts => .ofSet s
  | .ascii => .ofAsciiSet s

/-- The expression that matches the character.  One beyond ASCII still stands for itself where sets
are limited to ASCII. -/
def charExpr (flags : Flags) (c : Char) : Expr :=
  let s := CharSet.single c
  if flags.scope = .ascii ∧ ¬ s.isAscii then .literal [c]
  else flags.setExpr (SetExpr.caseClosed flags.scope flags.ignoreCase s)

/-- The characters that the dot means. -/
def dotSet (flags : Flags) : CharSet :=
  if flags.dotAll then .all else if flags.crlf then .notLineEnd else .notNewline

end Flags

/-- The part that an atom stands for, where `known` looks up a class by Unicode property.  Bytes
beyond ASCII are no characters by themselves, so they cannot be written where classes are limited to
ASCII, and neither can the dot. -/
def Atom.toPart (known : Property → Option CharSet) (flags : Flags) : Atom → Except Error Part
  | .char c => .ok ⟨flags.charExpr c, 0⟩
  | .byte c => do
    let _ ← flags.scope.admit (.single c)
    return ⟨flags.charExpr c, 0⟩
  | .dot => do
    let s ← flags.scope.admit flags.dotSet
    return ⟨.chars s, 0⟩
  | .caret => .ok ⟨.check (if flags.multiLine then .lineStart flags.crlf else .textStart), 0⟩
  | .dollar => .ok ⟨.check (if flags.multiLine then .lineEnd flags.crlf else .textEnd), 0⟩
  | .textStart => .ok ⟨.check .textStart, 0⟩
  | .textEnd => .ok ⟨.check .textEnd, 0⟩
  | .word check => .ok ⟨.check (.word flags.scope check), 0⟩
  | .named cls negated => do
    let s ← SetExpr.toSet known flags.scope flags.ignoreCase (.named cls negated)
    return ⟨flags.setExpr s, 0⟩
  | .property p negated => do
    let s ← SetExpr.toSet known flags.scope flags.ignoreCase (.property p negated)
    return ⟨flags.setExpr s, 0⟩
  | .set s depth => do
    let s ← s.toSet known flags.scope flags.ignoreCase
    return ⟨flags.setExpr s, depth⟩

/-- A group that is still open. -/
structure OpenGroup where
  /-- The number of the group, if it has one. -/
  index : Option Nat := none
  /-- The alternatives before the last bar, the last one first. -/
  done : List Part := []
  /-- The sequence after the last bar without its last item, backwards. -/
  front : List Part := []
  /-- The last item, which a repetition mark would repeat. -/
  last : Option Part := none
  flags : Flags
  deriving DecidableEq, Repr

namespace OpenGroup

/-- The items after the last bar, backwards. -/
def items (g : OpenGroup) : List Part := g.last.toList ++ g.front

/-- The alternatives as far as they have been read, the last one first. -/
def branches (g : OpenGroup) : List Part := .sequence g.items.reverse :: g.done

/-- The content of the group as far as it has been read. -/
def content (g : OpenGroup) : Part := .alternatives g.branches.reverse

/-- The group with one more item. -/
def push (g : OpenGroup) (item : Part) : OpenGroup :=
  { g with front := g.items, last := some item }

/-- The group after a bar. -/
def bar (g : OpenGroup) : OpenGroup := { g with done := g.branches, front := [], last := none }

/-- The group after a change of flags, which is an empty item that cannot be repeated. -/
def setFlags (g : OpenGroup) (change : FlagChange) : OpenGroup :=
  { g with front := ⟨.empty, 0⟩ :: g.items, last := none, flags := g.flags.apply change }

end OpenGroup

/-- The stack of open groups, innermost first, the number of groups with a number and the group
names used so far. -/
structure Parsing where
  current : OpenGroup
  outer : List OpenGroup := []
  groups : Nat := 0
  names : List (List Char) := []
  deriving DecidableEq, Repr

namespace Parsing

/-- The start of a pattern. -/
def start : Parsing := { current := { flags := {} } }

/-- The state after one more piece. -/
def step (known : Property → Option CharSet) (p : Parsing) : Piece → Except Error Parsing
  | .atom a => do
    let part ← a.toPart known p.current.flags
    return { p with current := p.current.push part }
  | .bar => .ok { p with current := p.current.bar }
  | .setFlags change => .ok { p with current := p.current.setFlags change }
  | .times least most lazy =>
    match p.current.last with
    | none => .error .nothingToRepeat
    | some item =>
      let item := item.repeated least most (lazy == p.current.flags.swapGreed)
      .ok { p with current := { p.current with last := some item } }
  | .openGroup (.plain change) =>
    .ok { p with
      current := { flags := p.current.flags.apply change }
      outer := p.current :: p.outer }
  | .openGroup (.numbered name) =>
    let names := name.toList ++ p.names
    if names.Nodup then
      .ok { p with
        current := { index := some (p.groups + 1), flags := p.current.flags }
        outer := p.current :: p.outer
        groups := p.groups + 1
        names }
    else .error .duplicateGroupName
  | .closeGroup =>
    match p.outer with
    | [] => .error .unopenedGroup
    | parent :: outer =>
      .ok { p with current := parent.push (p.current.content.grouped p.current.index), outer }

/-- The expression of a pattern that has been read to its end. -/
def finish (p : Parsing) : Except Error Expr :=
  if ¬ p.outer.isEmpty then .error .unclosedGroup
  else if depthLimit < p.current.content.depth then .error .tooDeep
  else .ok p.current.content.expr

end Parsing

/-- The expression that a pattern text stands for, where `known` looks up a class by Unicode
property. -/
def Expr.parse (known : Property → Option CharSet) (text : List Char) : Except Error Expr := do
  let parsing ← (← pieces text).foldlM (Parsing.step known) .start
  parsing.finish

end EditorMode.Regex
