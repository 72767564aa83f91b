import EditorMode.Proofs.Stored
import EditorMode.Proofs.Tracking.Bounds

/-!
# Restored document states

The six fields of a document state may hold any numbers that can be stored, whether or not they fit
together.  `Document.ofValue_of_writtenAs` says what reading makes of them: the state with these
fields if every level has its column and no other level has, and otherwise an error that names the
level and the number of columns.  No question for a column goes amiss in a state that has been read.

The check computes the successor of the level, and the last level that can be stored has none: there
the reading breaks off (`Document.ofValue_fault_of_last_level`).
-/

set_option autoImplicit false

namespace EditorMode

open scoped List

namespace Document

/-- The ways to write the fields of a state: as a record, in any order, or as a list. -/
inductive WrittenAs (d : Document) : Value → Prop
  | record {fields : Fields} (h : fields ~ d.toFields) : d.WrittenAs (.object fields)
  | list : d.WrittenAs (.array (d.toFields.map Prod.snd))

variable {d : Document} {v : Value}

/-- The fields are read as they are written, whether or not they fit together. -/
theorem ofValueUnchecked_of_writtenAs (hd : d.Storable) (hv : d.WrittenAs v) :
    ofValueUnchecked v = .ok d := by
  cases hv with
  | record h => exact ofValueUnchecked_of_perm hd h
  | list =>
    simp only [toFields, List.map_cons, List.map_nil, ofValueUnchecked, Value.item, Value.column?,
      Value.natBelow?_nat hd.level, Value.natBelow?_nat hd.anchor, Value.columns?_array hd.columns,
      Value.bool?_bool]
    rfl

theorem checked_eq (h : d.level + 1 < columnBound) :
    d.checked = if d.columns.length = d.level + 1 then .ok d
      else .error (.inconsistent d.level d.columns.length) := by
  by_cases hc : d.columns.length = d.level + 1
  · rw [if_pos hc, checked_of_consistent h hc]
  · rw [if_neg hc, checked, isConsistent, addBelow_of_lt h]
    simp only [Except.map, beq_eq_false_iff_ne.2 hc]

theorem checked_of_last_level (h : d.level + 1 = columnBound) :
    d.checked = .error (.fault .overflow) := by
  rw [checked, isConsistent, addBelow_of_le (Nat.le_of_eq h.symm)]
  rfl

theorem eq_of_checked {e : Document} (h : d.checked = .ok e) : e = d := by
  rw [checked] at h
  split at h
  · cases h
  · exact (Except.ok.inj h).symm
  · cases h

/-- **Restoring a state is exact.**  From any six fields whose numbers can be stored, reading gives
the state with these fields if it has as many columns as levels, and otherwise the error that names
both numbers; only for the last level of all, which has no successor, it breaks off.  In a state
that has been read, the column of the current level and every suggestion, whatever the close marker
and the text are, come from one of the columns of the state. -/
theorem ofValue_of_writtenAs (hd : d.Storable) (hv : d.WrittenAs v) :
    (d.level + 1 < columnBound → ofValue v =
      if d.columns.length = d.level + 1 then .ok d
      else .error (.inconsistent d.level d.columns.length)) ∧
    (d.level + 1 = columnBound → ofValue v = .error (.fault .overflow)) ∧
    ∀ e, ofValue v = .ok e → e = d ∧ (∃ column ∈ d.columns, e.column = .ok column) ∧
      ∀ (t : Tracker) (text : List Char), ∃ column ∈ d.columns, t.suggest e text = .ok column ∨
        t.suggest e text = addBelow columnBound column d.anchor := by
  have hread : ofValue v = d.checked := by
    rw [ofValue, ofValueUnchecked_of_writtenAs hd hv]
    rfl
  rw [hread]
  refine ⟨checked_eq, checked_of_last_level, ?_⟩
  intro e he
  have hconsistent := Tracker.consistent_of_checked he
  obtain rfl := eq_of_checked he
  obtain ⟨column, hcolumn⟩ := Tracker.exists_columnAt_eq_ok hconsistent (Nat.le_refl _)
  exact ⟨rfl, ⟨column, Tracker.mem_of_columnAt hcolumn, hcolumn⟩, fun t text =>
    t.exists_suggest_eq hconsistent text⟩

/-- A list with as many columns as levels, a record with its fields in another order and a column
too few, and the largest level for which the number of columns can be checked. -/
theorem ofValue_of_writtenAs_edges :
    let d : Document := ⟨1, [0, 18446744073709551615], true, false, true, 8⟩
    let short : Document := ⟨2, [0], false, true, false, 0⟩
    let deep : Document := ⟨18446744073709551614, [0], false, true, false, 0⟩
    ofValue (.array (d.toFields.map Prod.snd)) = .ok d ∧
      (∃ column ∈ d.columns, Tracker.standard.suggest d [' ', '\x7d'] = .ok column ∨
        Tracker.standard.suggest d [' ', '\x7d'] = addBelow columnBound column d.anchor) ∧
      ofValue (.object short.toFields.reverse) = .error (.inconsistent 2 1) ∧
      (ReadError.inconsistent 2 1).message? =
        some "inconsistent document state: block level 2 with 1 indent entries" ∧
      ofValue deep.toValue = .error (.inconsistent 18446744073709551614 1) := by
  intro d short deep
  have hd : d.Storable := ⟨by decide, by decide, by decide⟩
  have hshort : short.Storable := ⟨by decide, by decide, by decide⟩
  have hdeep : deep.Storable := ⟨by decide, by decide, by decide⟩
  obtain ⟨hread, -, hrestored⟩ := ofValue_of_writtenAs hd .list
  have hok : ofValue (.array (d.toFields.map Prod.snd)) = .ok d := hread (by decide)
  refine ⟨hok, (hrestored d hok).2.2 _ _, ?_, rfl, ?_⟩
  · exact (ofValue_of_writtenAs hshort (.record (List.reverse_perm _))).1 (by decide)
  · exact (ofValue_of_writtenAs hdeep (.record .rfl)).1 (by decide)

/-- At the last level that can be stored the check has no answer: not even a state with a single
column is turned down. -/
theorem ofValue_fault_of_last_level :
    let d : Document := ⟨18446744073709551615, [0], false, true, false, 0⟩
    d.Storable ∧ d.columns.length ≠ d.level + 1 ∧
      ofValue d.toValue ≠ .error (.inconsistent d.level d.columns.length) ∧
      ofValue d.toValue = .error (.fault .overflow) := by
  intro d
  have hd : d.Storable := ⟨by decide, by decide, by decide⟩
  have hlast : d.level + 1 = columnBound := by decide
  have hfault : ofValue d.toValue = .error (.fault .overflow) := by
    rw [ofValue, toValue, ofValueUnchecked_of_perm hd .rfl]
    exact checked_of_last_level hlast
  refine ⟨hd, by decide, ?_, hfault⟩
  rw [hfault]
  intro h
  cases h

end Document

end EditorMode
