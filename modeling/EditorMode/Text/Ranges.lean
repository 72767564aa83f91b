/-!
# Tables of code points

A property of characters is given by a `Table`: the inclusive ranges of code points that have it, in
ascending order.  Because the ranges are ascending, `Ranges.holds` stops at the first one that
starts above the code point; `Table.holds_iff` says that nothing is missed by this.
-/

set_option autoImplicit false

namespace EditorMode.Text

/-- Inclusive ranges of code points. -/
abbrev Ranges := List (Nat × Nat)

namespace Ranges

/-- Whether one of the ranges holds the code point `n`. -/
def holds : Ranges → Nat → Bool
  | [], _ => false
  | (first, last) :: rest, n => if n < first then false else decide (n ≤ last) || holds rest n

/-- Whether all ranges start at `bound` or above, each after the end of the one before it. -/
def ascendingFrom (bound : Nat) : Ranges → Bool
  | [] => true
  | (first, last) :: rest =>
    decide (bound ≤ first) && decide (first ≤ last) && ascendingFrom (last + 1) rest

/-- Whether each range starts after the end of the one before it. -/
def ascending (table : Ranges) : Bool := ascendingFrom 0 table

theorem first_ge_of_mem {table : Ranges} {bound : Nat} (h : ascendingFrom bound table = true)
    {r : Nat × Nat} (hr : r ∈ table) : bound ≤ r.1 := by
  induction table generalizing bound with
  | nil => simp at hr
  | cons p rest ih =>
    simp only [ascendingFrom, Bool.and_eq_true, decide_eq_true_eq] at h
    obtain ⟨⟨hfirst, hlast⟩, hrest⟩ := h
    rcases List.mem_cons.mp hr with rfl | hr
    · exact hfirst
    · have := ih hrest hr
      omega

theorem holds_iff_of_ascendingFrom {table : Ranges} {bound : Nat}
    (h : ascendingFrom bound table = true) (n : Nat) :
    holds table n = true ↔ ∃ r ∈ table, r.1 ≤ n ∧ n ≤ r.2 := by
  induction table generalizing bound with
  | nil => simp [holds]
  | cons p rest ih =>
    simp only [ascendingFrom, Bool.and_eq_true, decide_eq_true_eq] at h
    obtain ⟨⟨hfirst, hlast⟩, hrest⟩ := h
    rw [holds]
    split
    · rename_i hlt
      simp only [Bool.false_eq_true, false_iff]
      rintro ⟨r, hr, hle, _⟩
      rcases List.mem_cons.mp hr with rfl | hr
      · omega
      · have := first_ge_of_mem hrest hr
        omega
    · rename_i hge
      rw [Bool.or_eq_true, decide_eq_true_eq, ih hrest]
      simp only [List.mem_cons, exists_eq_or_imp]
      constructor
      · rintro (hle | hex)
        · exact .inl ⟨by omega, hle⟩
        · exact .inr hex
      · rintro (hle | hex)
        · exact .inl hle.2
        · exact .inr hex

/-- In ascending ranges the search finds all their code points. -/
theorem holds_iff {table : Ranges} (h : table.ascending = true) (n : Nat) :
    table.holds n = true ↔ ∃ r ∈ table, r.1 ≤ n ∧ n ≤ r.2 :=
  holds_iff_of_ascendingFrom h n

end Ranges

/-- The code points with some property, as ranges in ascending order. -/
structure Table where
  ranges : Ranges
  ascending : ranges.ascending = true

namespace Table

/-- Whether the code point `n` has the property. -/
def holds (table : Table) (n : Nat) : Bool := table.ranges.holds n

/-- The search in a table finds all its code points. -/
theorem holds_iff (table : Table) (n : Nat) :
    table.holds n = true ↔ ∃ r ∈ table.ranges, r.1 ≤ n ∧ n ≤ r.2 :=
  Ranges.holds_iff table.ascending n

end Table

end EditorMode.Text
