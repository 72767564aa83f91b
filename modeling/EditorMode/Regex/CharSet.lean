import EditorMode.Text.Blank
import EditorMode.Text.CaseFold
import EditorMode.Text.Word

/-!
# Sets of characters

What a single place of a regular expression accepts, as ascending ranges of code points that neither
overlap nor touch.  Every operation gives ranges of this form again, so that sets with the same
characters are written the same way and can be compared.

A range may reach across the surrogates, which are no characters: the code point after U+D7FF is
U+E000.
-/

set_option autoImplicit false

namespace EditorMode.Regex

open Text

/-- A set of characters. -/
structure CharSet where
  ranges : Ranges
  deriving DecidableEq, Repr

namespace CharSet

/-- Whether the set has the character. -/
def holds (s : CharSet) (c : Char) : Bool := s.ranges.holds c.toNat

/-- Whether all characters of the set are ASCII. -/
def isAscii (s : CharSet) : Bool := s.ranges.all (·.2 < 0x80)

/-! ## Building sets -/

/-- The ranges with one more, which takes in those that it overlaps or touches. -/
def insertRange (r : Nat × Nat) : Ranges → Ranges
  | [] => [r]
  | s :: rest =>
    if r.2 + 1 < s.1 then r :: s :: rest
    else if s.2 + 1 < r.1 then s :: insertRange r rest
    else insertRange (min r.1 s.1, max r.2 s.2) rest

/-- The set without characters. -/
def empty : CharSet := ⟨[]⟩

/-- The set of the characters in the ranges, which may come in any order. -/
def ofRanges (ranges : Ranges) : CharSet := ⟨ranges.foldl (fun s r => insertRange r s) []⟩

/-- The set of a single character. -/
def single (c : Char) : CharSet := ⟨[(c.toNat, c.toNat)]⟩

/-- The characters from `first` to `last`, both included. -/
def range (first last : Char) : CharSet := ⟨[(first.toNat, last.toNat)]⟩

/-- The only character of the set, if it has just one. -/
def single? : CharSet → Option Char
  | ⟨[(first, last)]⟩ => if first = last then some (Char.ofNat first) else none
  | _ => none

/-! ## Operations -/

/-- The characters of either set. -/
def union (s t : CharSet) : CharSet := ⟨t.ranges.foldl (fun s r => insertRange r s) s.ranges⟩

/-- The part of two ranges that they share. -/
def overlap? (r s : Nat × Nat) : Option (Nat × Nat) :=
  if max r.1 s.1 ≤ min r.2 s.2 then some (max r.1 s.1, min r.2 s.2) else none

/-- The characters of both sets. -/
def intersection (s t : CharSet) : CharSet :=
  ⟨s.ranges.flatMap fun r => t.ranges.filterMap (overlap? r)⟩

/-- The code point after `n`. -/
def following (n : Nat) : Nat := if n = 0xD7FF then 0xE000 else n + 1

/-- The code point before `n`. -/
def preceding (n : Nat) : Nat := if n = 0xE000 then 0xD7FF else n - 1

/-- What `cut` leaves of the range `r`. -/
def cutRange (cut r : Nat × Nat) : Ranges :=
  if r.2 < cut.1 ∨ cut.2 < r.1 then [r]
  else
    (if r.1 < cut.1 then [(r.1, preceding cut.1)] else [])
      ++ (if cut.2 < r.2 then [(following cut.2, r.2)] else [])

/-- The characters of `s` that `t` does not have. -/
def difference (s t : CharSet) : CharSet :=
  ⟨t.ranges.foldl (fun s cut => s.flatMap (cutRange cut)) s.ranges⟩

/-- The characters of exactly one of the sets. -/
def symmetricDifference (s t : CharSet) : CharSet := (s.union t).difference (s.intersection t)

/-- The largest code point. -/
def lastCode : Nat := 0x10FFFF

/-- The range between two code points, its ends in ascending order. -/
def between (last first : Nat) : Nat × Nat :=
  (min (following last) (preceding first), max (following last) (preceding first))

/-- The ranges that the given ones leave out after the code point `last`. -/
def gapsAfter (last : Nat) : Ranges → Ranges
  | [] => if last < lastCode then [(following last, lastCode)] else []
  | r :: rest => between last r.1 :: gapsAfter r.2 rest

/-- The characters that are not in the set. -/
def complement : CharSet → CharSet
  | ⟨[]⟩ => ⟨[(0, lastCode)]⟩
  | ⟨r :: rest⟩ => ⟨(if 0 < r.1 then [(0, preceding r.1)] else []) ++ gapsAfter r.2 rest⟩

/-- The characters that differ from one of the set at most by case. -/
def ignoringCase (s : CharSet) : CharSet :=
  let folded := ofRanges <| casePairs.filterMap fun (n, m) =>
    if s.ranges.holds n || s.ranges.holds m then some (m, m) else none
  let unfolded := ofRanges <| casePairs.filterMap fun (n, m) =>
    if folded.ranges.holds m then some (n, n) else none
  (s.union folded).union unfolded

/-! ## Particular sets -/

/-- Every character. -/
def all : CharSet := empty.complement

/-- Every character but the newline. -/
def notNewline : CharSet := (single '\n').complement

/-- Every character but the newline and the carriage return. -/
def notLineEnd : CharSet := ((single '\n').union (single '\r')).complement

/-- The ASCII characters. -/
def ascii : CharSet := range '\x00' '\x7f'

/-- The decimal digits. -/
def digits : CharSet := ⟨digitTable.ranges⟩

/-- White space. -/
def blanks : CharSet := ⟨blankTable.ranges⟩

/-- The characters of words. -/
def wordChars : CharSet := ⟨wordTable.ranges⟩

/-- The ASCII classes that a set in brackets may name, as in `[[:alpha:]]`. -/
def asciiClass? (name : String) : Option (List (Char × Char)) :=
  match name with
  | "alnum" => some [('0', '9'), ('A', 'Z'), ('a', 'z')]
  | "alpha" => some [('A', 'Z'), ('a', 'z')]
  | "ascii" => some [('\x00', '\x7f')]
  | "blank" => some [('\t', '\t'), (' ', ' ')]
  | "cntrl" => some [('\x00', '\x1f'), ('\x7f', '\x7f')]
  | "digit" => some [('0', '9')]
  | "graph" => some [('!', '~')]
  | "lower" => some [('a', 'z')]
  | "print" => some [(' ', '~')]
  | "punct" => some [('!', '/'), (':', '@'), ('[', '\x60'), ('\x7b', '~')]
  | "space" => some [('\t', '\r'), (' ', ' ')]
  | "upper" => some [('A', 'Z')]
  | "word" => some [('0', '9'), ('A', 'Z'), ('_', '_'), ('a', 'z')]
  | "xdigit" => some [('0', '9'), ('A', 'F'), ('a', 'f')]
  | _ => none

end CharSet

end EditorMode.Regex
