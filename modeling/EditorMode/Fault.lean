/-!
# Faults and bounded addition

Columns, nesting levels and byte counts are natural numbers below `columnBound`; line numbers and
the offsets stored in tokens are natural numbers below `offsetBound`.  A sum that would pass its
bound is not wrapped or clamped: the computation breaks off with a `Fault`.

`Fault` also names the other ways in which a computation can break off.  A fault is not a property
of the text being edited — unmatched text is an ordinary token — but of a request that has no
answer: a byte offset that cuts a character in two, a nesting level without a column.
-/

set_option autoImplicit false

namespace EditorMode

/-- Why a computation broke off. -/
inductive Fault where
  /-- A sum passed the bound of its kind of number. -/
  | overflow
  /-- A byte offset falls inside a character. -/
  | insideCharacter
  /-- A nesting level has no column on the block stack. -/
  | missingLevel
  /-- A rule keeps answering with text although it matches nothing, so the line never ends. -/
  | noProgress
  deriving DecidableEq, Repr, Inhabited

/-- Columns, widths, nesting levels and byte counts lie below this bound. -/
def columnBound : Nat := Nat.pow 2 64

/-- Line numbers and token offsets lie below this bound. -/
def offsetBound : Nat := Nat.pow 2 32

/-- The sum of `a` and `b`, provided it lies below `bound`. -/
def addBelow (bound a b : Nat) : Except Fault Nat :=
  if a + b < bound then .ok (a + b) else .error .overflow

theorem addBelow_eq_ok_iff {bound a b n : Nat} :
    addBelow bound a b = .ok n ↔ a + b = n ∧ n < bound := by
  unfold addBelow
  split
  · simp only [Except.ok.injEq]
    omega
  · simp only [reduceCtorEq, false_iff]
    omega

theorem addBelow_of_lt {bound a b : Nat} (h : a + b < bound) : addBelow bound a b = .ok (a + b) :=
  if_pos h

theorem addBelow_of_le {bound a b : Nat} (h : bound ≤ a + b) :
    addBelow bound a b = .error .overflow :=
  if_neg (Nat.not_lt.2 h)

theorem addBelow_fault {bound a b : Nat} {fault : Fault}
    (h : addBelow bound a b = .error fault) : fault = .overflow := by
  unfold addBelow at h
  split at h
  · cases h
  · exact (Except.error.inj h).symm

end EditorMode
