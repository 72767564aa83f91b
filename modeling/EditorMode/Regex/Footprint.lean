import EditorMode.Regex.Encoding
import EditorMode.Regex.Expr
import Std.Data.TreeMap

/-!
# The size of an expression

An expression stands for two automata that read a text byte by byte, one forwards and one backwards.
Neither must take more than ten mebibytes, by the following measure: a state takes 32 bytes, an edge
of a state with several edges for bytes 8 and one of a choice 4.

* A literal has a state for each byte, an empty expression and an assertion have one state.
* A set of ASCII characters has one state with an edge for each range, and one where these meet.
  Any other set is a small automaton of its own, in which states with the same edges are shared.
* A numbered group has two states, in the forward automaton only.
* A choice has two states of its own.  If all alternatives are literals, those that start alike
  share states.
* The rounds of a repetition are written out; a loop and an option have a choice.

What is shared is found by a table with a fixed number of places, in which a new entry replaces the
old one of the same place.  So the size of a set depends on the numbers of its states.

`Expr.roughBytes` bounds the size from above and spares most expressions the exact measure.
-/

set_option autoImplicit false

namespace EditorMode.Regex

/-- The states of an automaton that have been made, and the bytes of their edges. -/
structure Tally where
  states : Nat := 0
  edgeBytes : Nat := 0
  deriving DecidableEq, Repr

namespace Tally

/-- The largest size of an automaton, in bytes. -/
def limit : Nat := 10 * Nat.pow 2 20

/-- The size in bytes. -/
def bytes (t : Tally) : Nat := 32 * t.states + t.edgeBytes

/-- The tally with more states and edges. -/
def add (t : Tally) (states edgeBytes : Nat) : Tally :=
  ⟨t.states + states, t.edgeBytes + edgeBytes⟩

/-- The tally after `count` rounds of `round`, or as many as it takes to pass the limit. -/
def rounds (round : Tally → Tally) : Nat → Tally → Tally
  | 0, t => t
  | count + 1, t => if limit < t.bytes then t else rounds round count (round t)

end Tally

/-! ## Sets of characters -/

/-- The place in a table of `places` places that belongs to the numbers. -/
def place (numbers : List Nat) (places : UInt64) : UInt64 :=
  numbers.foldl (fun h n => (h ^^^ n.toUInt64) * 1099511628211) 14695981039346656037 % places

/-- An edge for the bytes from `first` to `last`, to the state `next`. -/
structure Edge where
  first : Nat
  last : Nat
  next : Nat
  deriving DecidableEq, Repr

/-- A state whose edges are not all known: those that are, and the bytes of the last one. -/
structure OpenState where
  edges : List Edge := []
  last : Option (Nat × Nat)

/-- The edges of the state, the last of which leads to `next`. -/
def OpenState.close (s : OpenState) (next : Nat) : List Edge :=
  s.edges ++ s.last.toList.map fun r => ⟨r.1, r.2, next⟩

/-- An automaton for a set that is being made, with the states that can be shared. -/
structure SetBuild where
  tally : Tally
  shared : Std.TreeMap UInt64 (List Edge × Nat) := ∅

namespace SetBuild

/-- The state with the given edges, which is a known one if possible. -/
def state (b : SetBuild) (edges : List Edge) : Nat × SetBuild :=
  let key := place (edges.flatMap fun e => [e.first, e.last, e.next]) 10000
  let id := b.tally.states
  let new := (id, ⟨b.tally.add 1 (8 * edges.length), b.shared.insert key (edges, id)⟩)
  match b.shared[key]? with
  | some (known, id) => if known = edges then (id, b) else new
  | none => new

/-- The states of a chain, from the last one on; that leads to `target`. -/
def closeAll (b : SetBuild) (target : Nat) : List OpenState → Nat × SetBuild
  | [] => (target, b)
  | s :: deeper =>
    let (next, b) := b.closeAll target deeper
    b.state (s.close next)

/-- The chain for the next encoding, which keeps the states for the bytes that it shares with the
encoding before it. -/
def addEncoding (b : SetBuild) (target : Nat) :
    List OpenState → ByteRanges → List OpenState × SetBuild
  | s :: deeper, r :: rest =>
    if s.last = some r then
      let (deeper, b) := b.addEncoding target deeper rest
      (s :: deeper, b)
    else
      let (next, b) := b.closeAll target deeper
      (⟨s.close next, some r⟩ :: rest.map fun r => ⟨[], some r⟩, b)
  | chain, _ => (chain, b)

/-- The forward automaton of a set with these encodings. -/
def forward (t : Tally) (encodings : List ByteRanges) : Tally :=
  let target := t.states
  let (chain, b) := encodings.foldl (fun (chain, b) e => b.addEncoding target chain e)
    ([⟨[], none⟩], (⟨t.add 1 0, ∅⟩ : SetBuild))
  (b.closeAll target chain).2.tally

end SetBuild

/-- The backward automaton of a set with these encodings: a choice between them all. -/
def backwardSet (t : Tally) (encodings : List ByteRanges) : Tally :=
  let target := t.states + 1
  let step (acc : Nat × Tally × Std.TreeMap UInt64 (List Nat × Nat)) (r : Nat × Nat) :=
    let (next, t, shared) := acc
    let numbers := [next, r.1, r.2]
    let key := place numbers 1000
    let new := (t.states, t.add 1 0, shared.insert key (numbers, t.states))
    match shared[key]? with
    | some (known, id) => if known = numbers then (id, t, shared) else new
    | none => new
  let addEncoding (acc : Tally × Std.TreeMap UInt64 (List Nat × Nat)) (e : ByteRanges) :=
    let (_, t, shared) := e.foldl step (target, acc.1, acc.2)
    (t.add 0 4, shared)
  (encodings.foldl addEncoding (t.add 2 0, ∅)).1

/-- The automaton of a set. -/
def CharSet.tally (backward : Bool) (s : CharSet) (t : Tally) : Tally :=
  if s.isAscii then t.add 2 (8 * s.ranges.length)
  else if backward then backwardSet t s.encodings
  else SetBuild.forward t s.encodings

/-! ## Choices between literals -/

/-- The bytes of a text. -/
def encodeText (text : List Char) : List Nat := text.flatMap fun c => encodeCode c.toNat

/-- The words of the list in groups: each empty word ends a group and is left out. -/
def groupWords : List (List Nat) → List (List (List Nat))
  | [] => [[]]
  | [] :: rest => [] :: groupWords rest
  | word :: rest =>
    match groupWords rest with
    | [] => [[word]]
    | group :: groups => (word :: group) :: groups

/-- What follows the byte in the words that start with it. -/
def afterByte (byte : Nat) (words : List (List Nat)) : List (List Nat) :=
  words.filterMap fun word => if word.head? = some byte then some word.tail else none

/-- The states after a common start of words, of which the rests are given: a choice between the
groups of rests and, after each group but the last, the end of a word.  Only the first one of empty
rests at the start counts.  `steps` is above the length of the longest rest. -/
def wordTally : Nat → List (List Nat) → Tally → Tally
  | 0, _, t => t
  | steps + 1, rests, t =>
    let rests := if rests.head? = some [] then [] :: rests.dropWhile (· = []) else rests
    let groups := groupWords rests
    let addByte (group : List (List Nat)) (t : Tally) (byte : Nat) : Tally :=
      let rests := afterByte byte group
      if rests.all List.isEmpty then t else wordTally steps rests t
    let addGroup (t : Tally) (group : List (List Nat)) : Tally :=
      let firsts := (group.filterMap List.head?).eraseDups
      let t := firsts.foldl (addByte group) t
      match firsts with
      | [] => t
      | [_] => t.add 1 4
      | _ => t.add 1 (8 * firsts.length + 4)
    (groups.foldl addGroup t).add 1 (4 * (groups.length - 1))

/-- The automaton of a choice between literals. -/
def literalsTally (backward : Bool) (texts : List (List Char)) (t : Tally) : Tally :=
  let words := texts.map fun text =>
    if backward then (encodeText text).reverse else encodeText text
  wordTally ((words.map List.length).foldl max 0 + 1) words (t.add 1 0)

/-! ## Expressions -/

namespace Expr

/-- The texts of an expression that is a choice between literals. -/
def literals? : Expr → Option (List (List Char))
  | .literal text => some [text]
  | .alt (.literal text) b => b.literals?.map (text :: ·)
  | _ => none

/-- A choice between automata. -/
def choiceTally : List (Tally → Tally) → Tally → Tally
  | [], t => t
  | [only], t => only t
  | first :: second :: rest, t =>
    rest.foldl (fun t branch => (branch t).add 0 4) ((second (first t)).add 2 8)

/-- The automaton of an expression, given those of its alternatives. -/
def joinTally (backward : Bool) (e : Expr) (branches : List (Tally → Tally)) : Tally → Tally :=
  match e.literals? with
  | some (a :: b :: rest) => literalsTally backward (a :: b :: rest)
  | _ => choiceTally branches

/-- The automaton of a repetition whose body has the automaton `body`; `consumes` says whether a
round always has a character. -/
def timesTally (body : Tally → Tally) (consumes : Bool) (least : Nat) (most : Option Nat)
    (t : Tally) : Tally :=
  let exactly (count : Nat) (t : Tally) : Tally :=
    if count = 0 then t.add 1 0 else Tally.rounds body count t
  match least, most with
  | 0, some 1 => (body (t.add 1 8)).add 1 0
  | 0, none => if consumes then body (t.add 1 8) else (body t).add 3 16
  | least, none => (Tally.rounds body least t).add 1 8
  | least, some most =>
    if least = most then exactly least t
    else Tally.rounds (fun t => body (t.add 1 8)) (most - least) ((exactly least t).add 1 0)

/-- The automata of the alternatives of an expression. -/
def tallies (backward : Bool) : Expr → List (Tally → Tally)
  | .empty => [fun t => t.add 1 0]
  | .literal text => [fun t => t.add (Text.byteLength text) 0]
  | .chars set | .asciiChars set => [fun t => set.tally backward t]
  | .check _ => [fun t => t.add 1 0]
  | .group _ body =>
    let inner := joinTally backward body (body.tallies backward)
    if backward then [inner] else [fun t => (inner (t.add 1 0)).add 1 0]
  | .times body least most _ =>
    [timesTally (joinTally backward body (body.tallies backward)) body.consumes least most]
  | .seq a b =>
    let first := joinTally backward a (a.tallies backward)
    let second := joinTally backward b (b.tallies backward)
    [fun t => if backward then first (second t) else second (first t)]
  | .alt a b => joinTally backward a (a.tallies backward) :: b.tallies backward

/-- The size of the automaton of an expression.  Unless all its matches lie at the end from which it
reads, it starts with a loop over all bytes. -/
def footprint (backward : Bool) (e : Expr) : Nat :=
  let start : Tally :=
    if (if backward then e.atTextEnd else e.atTextStart) then ⟨1, 0⟩ else ⟨3, 16⟩
  let whole := joinTally backward e (e.tallies backward)
  let t := if backward then whole start else (whole (start.add 1 0)).add 1 0
  (t.add 1 0).bytes

/-- A bound of the size of both automata. -/
def roughBytes : Expr → Nat
  | .empty => 64
  | .literal text => 400 * text.length + 100
  | .chars set | .asciiChars set => 4096 * set.ranges.length + 100
  | .check _ => 64
  | .group _ body => body.roughBytes + 64
  | .times body least most _ => most.getD (least + 1) * (body.roughBytes + 64) + 200
  | .seq a b => a.roughBytes + b.roughBytes
  | .alt a b => a.roughBytes + b.roughBytes + 100

/-- Whether both automata of the expression are small enough. -/
def fits (e : Expr) : Bool :=
  decide (e.roughBytes + 300 ≤ Tally.limit)
    || (decide (e.footprint false ≤ Tally.limit) && decide (e.footprint true ≤ Tally.limit))

end Expr

end EditorMode.Regex
