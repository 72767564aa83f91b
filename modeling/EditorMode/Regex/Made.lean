/-!
# Choices that have been made

While a match is looked for, no choice is made twice at the same place of the text.  `Made` records
which ones have been made where; `Made.contains_none` and `Made.contains_insert` are all there is to
know about it.
-/

set_option autoImplicit false

namespace EditorMode.Regex

/-- The array with the element at `index` changed by `f`; up to there it is filled with `blank`. -/
@[inline]
def changeAt {α : Type} (xs : Array α) (index : Nat) (blank : α) (f : α → α) : Array α :=
  if index < xs.size then xs.modify index f
  else (xs ++ Array.replicate (index - xs.size) blank).push (f blank)

theorem getD_changeAt {α : Type} (xs : Array α) (i j : Nat) (blank : α) (f : α → α) :
    (changeAt xs i blank f).getD j blank =
      if i = j then f (xs.getD i blank) else xs.getD j blank := by
  unfold changeAt
  simp only [Array.getD_eq_getD_getElem?]
  split
  · rename_i h
    rw [Array.getElem?_modify]
    split
    · rename_i hij
      subst hij
      simp [h]
    · rfl
  · rename_i h
    rw [Array.getElem?_push, Array.size_append, Array.size_replicate]
    have hi : xs.size + (i - xs.size) = i := by omega
    rw [hi]
    split
    · rename_i hij
      subst hij
      simp [h]
    · rename_i hij
      rw [if_neg (fun e => hij e.symm), Array.getElem?_append]
      split
      · rfl
      · rename_i hj
        rw [Array.getElem?_replicate]
        split <;> simp [hj]

/-- The choices that have been made, for each place up to the furthest one at which there are any.
A row of choices is an array of numbers, each of which stands for sixty-two choices by its bits. -/
structure Made where
  rows : Array (Array Nat)

namespace Made

/-- No choice has been made. -/
def none : Made := ⟨#[]⟩

/-- Whether the choice has been made at the place after `index` characters. -/
@[inline]
def contains (made : Made) (index id : Nat) : Bool :=
  ((made.rows.getD index #[]).getD (id / 62) 0).testBit (id % 62)

/-- The choices with one more, at the place after `index` characters. -/
@[inline]
def insert (made : Made) (index id : Nat) : Made :=
  ⟨changeAt made.rows index #[] fun row => changeAt row (id / 62) 0 (· ||| 1 <<< (id % 62))⟩

@[simp]
theorem contains_none (index id : Nat) : none.contains index id = false := by
  simp [contains, none]

/-- A choice is recorded for its place, and nothing else is. -/
theorem contains_insert (made : Made) (i j a b : Nat) :
    (made.insert i a).contains j b = (decide (i = j ∧ a = b) || made.contains j b) := by
  unfold contains insert
  rw [getD_changeAt]
  split
  · rename_i hij
    subst hij
    rw [getD_changeAt]
    split
    · rename_i hw
      rw [Nat.testBit_or, Nat.one_shiftLeft, Nat.testBit_two_pow, hw, Bool.or_comm]
      congr 1
      exact decide_eq_decide.mpr ⟨fun h => ⟨rfl, by omega⟩, fun h => by rw [h.2]⟩
    · rename_i hw
      have hab : a ≠ b := fun h => hw (by rw [h])
      simp [hab]
  · rename_i hij
    simp [hij]

end Made

end EditorMode.Regex
