import EditorMode.Regex.CharSet

/-!
# Characters as bytes

A range of code points, cut into parts that are ranges byte by byte: within such a part the first
byte of the UTF-8 encoding varies over a range, whatever the others are, and so does each of the
other bytes.
-/

set_option autoImplicit false

namespace EditorMode.Regex

open Text

/-- Texts of equal length, byte by byte: each byte lies in its range. -/
abbrev ByteRanges := List (Nat × Nat)

/-- The bytes of a code point in UTF-8. -/
def encodeCode (n : Nat) : List Nat :=
  if n < 0x80 then [n]
  else if n < 0x800 then [0xC0 + n / 64, 0x80 + n % 64]
  else if n < 0x10000 then [0xE0 + n / 4096, 0x80 + n / 64 % 64, 0x80 + n % 64]
  else [0xF0 + n / 262144, 0x80 + n / 4096 % 64, 0x80 + n / 64 % 64, 0x80 + n % 64]

/-- The largest code points of one, two and three bytes. -/
def lengthBounds : List Nat := [0x7F, 0x7FF, 0xFFFF]

/-- The numbers of code points that share all bytes but the last one, two or three. -/
def blockSizes : List Nat := [64, 4096, 262144]

/-- Where to cut the code points from `first` to `last`, which have the same number of bytes, if
they do not fill blocks of this size. -/
def cutBlock? (first last block : Nat) : Option Nat :=
  if first / block = last / block then none
  else if first % block ≠ 0 then some ((first / block + 1) * block)
  else if last % block ≠ block - 1 then some (last / block * block)
  else none

/-- Two parts of a range, unless it is a range byte by byte. -/
def splitCodes? (r : Nat × Nat) : Option ((Nat × Nat) × (Nat × Nat)) :=
  if r.1 < 0xE000 ∧ 0xD7FF < r.2 then some ((r.1, 0xD7FF), (0xE000, r.2))
  else
    match lengthBounds.find? fun bound => decide (r.1 ≤ bound ∧ bound < r.2) with
    | some bound => some ((r.1, bound), (bound + 1, r.2))
    | none =>
      if r.2 ≤ 0x7F then none
      else (blockSizes.findSome? (cutBlock? r.1 r.2)).map fun cut => ((r.1, cut - 1), (cut, r.2))

/-- The ranges, cut into parts that are ranges byte by byte. -/
def splitRanges : Nat → Ranges → List ByteRanges
  | 0, _ => []
  | _ + 1, [] => []
  | steps + 1, r :: rest =>
    match splitCodes? r with
    | some (a, b) => splitRanges steps (a :: b :: rest)
    | none => (encodeCode r.1).zip (encodeCode r.2) :: splitRanges steps rest

/-- The encodings of the characters of a set, in ascending order.  A range has at most twenty-one
parts. -/
def CharSet.encodings (s : CharSet) : List ByteRanges :=
  splitRanges (64 * s.ranges.length + 1) s.ranges

end EditorMode.Regex
