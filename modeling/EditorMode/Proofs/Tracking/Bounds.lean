import EditorMode.Proofs.Tracking.Levels

/-!
# How large the numbers of a document get

Let the tokens of a run and the indentations of their lines lie within `width` columns.  Then the
columns that a document keeps exceed `width` by the indent unit at most, and its alignment column by
the anchor offset at most (`Document.Within`).  A step preserves this (`Tracker.within_advanced`),
and so does a run (`Tracker.within_of_trackRun`).

As long as these sums and the levels lie below their bound, a run comes to its end
(`Tracker.exists_of_trackRun_within`) and a suggestion can be made (`Tracker.exists_suggest_eq_ok`).
-/

set_option autoImplicit false

namespace EditorMode

/-- The columns of the document are at most those of a block in a line of the given width, and its
alignment column is at most that of a function marker in such a line. -/
structure Document.Within (d : Document) (t : Tracker) (width : Nat) : Prop where
  columns : ∀ column ∈ d.columns, column ≤ width + t.indentUnit
  anchor : d.anchor ≤ width + t.anchorOffset

theorem Document.within_start (t : Tracker) (width : Nat) : start.Within t width :=
  ⟨List.forall_mem_singleton.2 (Nat.zero_le _), Nat.zero_le _⟩

namespace Tracker

variable (t : Tracker) {width : Nat}

/-! ## Steps -/

/-- The end of a line puts its indentation in the place of a column. -/
theorem forall_mem_settledColumns {p : Nat → Prop} {d : Document}
    (hd : ∀ column ∈ d.columns, p column) (kept : Bool) {indentation : Nat}
    (hindentation : p indentation) :
    ∀ column ∈ settledColumns d kept indentation, p column := by
  rw [settledColumns]
  split
  · exact hd
  · intro column hcolumn
    rcases List.mem_or_eq_of_mem_set hcolumn with h | rfl
    · exact hd column h
    · exact hindentation

theorem within_advanced {d : Document} (hd : d.Within t width) {token : Token}
    (hcolumn : token.column ≤ width) {indentation : Nat} (hindentation : indentation ≤ width) :
    (t.advanced d token indentation).Within t width := by
  have hl : (leaveLine d).Within t width :=
    ⟨by rw [columns_leaveLine]; exact hd.columns, by rw [anchor_leaveLine]; exact hd.anchor⟩
  have hsettled : indentation ≤ width + t.indentUnit := Nat.le_add_right_of_le hindentation
  rw [advanced]
  generalize leaveLine d = d at hl
  cases token.kind with
  | blockOpen =>
    refine ⟨List.forall_mem_append.2 ⟨hl.columns, List.forall_mem_singleton.2 ?_⟩, hl.anchor⟩
    exact Nat.add_le_add_right hindentation _
  | blockClose =>
    show (if d.level = 0 then _ else _ : Document).Within t width
    split
    · exact hl
    · exact ⟨fun column h => hl.columns column (List.dropLast_subset _ h), hl.anchor⟩
  | function => exact ⟨hl.columns, Nat.add_le_add_right (Nat.sub_le_of_le_add (by omega)) _⟩
  | endOfLine => exact ⟨forall_mem_settledColumns hl.columns _ hsettled, Nat.zero_le _⟩
  | lineContinuation => exact ⟨forall_mem_settledColumns hl.columns _ hsettled, hl.anchor⟩
  | error => exact hl
  | named name => exact hl

theorem levelAfter_le (level : Nat) (kind : Kind) :
    levelAfter level kind ≤ level + if kind == .blockOpen then 1 else 0 := by
  cases kind with
  | blockClose => exact Nat.sub_le level 1
  | _ => exact Nat.le_refl _

theorem clampedLevel_le (level : Nat) (run : List (Token × Nat)) :
    clampedLevel level (run.map (·.1.kind)) ≤ level + countKind .blockOpen run := by
  induction run generalizing level with
  | nil => exact Nat.le_refl _
  | cons x run ih =>
    obtain ⟨token, indentation⟩ := x
    have hfirst := levelAfter_le level token.kind
    have hrest := ih (levelAfter level token.kind)
    rw [countKind_cons]
    show clampedLevel (levelAfter level token.kind) _ ≤ _
    omega

/-! ## Runs -/

/-- The tokens of a run and the indentations of their lines lie within the width. -/
def RunWithin (width : Nat) (run : List (Token × Nat)) : Prop :=
  ∀ x ∈ run, x.1.column ≤ width ∧ x.2 ≤ width

theorem within_of_trackRun {d e : Document} (hd : d.Consistent) (hwithin : d.Within t width)
    {run : List (Token × Nat)} (hrun : RunWithin width run)
    (h : (t.trackRun d run).outcome = .ok e) : e.Within t width := by
  induction run using List.reverseRecOn generalizing e with
  | nil =>
    obtain rfl := Except.ok.inj h
    exact hwithin
  | append_singleton run x ih =>
    obtain ⟨before, hbefore, rfl⟩ := t.exists_of_trackRun_concat hd h
    obtain ⟨hearly, hlast⟩ := List.forall_mem_append.1 hrun
    obtain ⟨hcolumn, hindentation⟩ := hlast x (List.mem_singleton_self x)
    exact t.within_advanced (ih hearly hbefore) hcolumn hindentation

section Fits

variable (hunit : width + t.indentUnit < columnBound)
  (hoffset : width + t.anchorOffset < columnBound)

include hunit hoffset

theorem runFits_of_within {level : Nat} {run : List (Token × Nat)} (hrun : RunWithin width run)
    (hlevel : level + countKind .blockOpen run < columnBound) : t.RunFits level run := by
  induction run generalizing level with
  | nil => trivial
  | cons x run ih =>
    obtain ⟨token, indentation⟩ := x
    obtain ⟨⟨hcolumn, hindentation⟩, hrest⟩ := List.forall_mem_cons.1 hrun
    rw [countKind_cons] at hlevel
    have hafter := levelAfter_le level token.kind
    refine ⟨⟨fun _ => ?_, fun hkind => ⟨?_, ?_⟩⟩, ih hrest (by omega)⟩
    · simp only at hcolumn
      omega
    · simp only at hindentation
      omega
    · rw [hkind, beq_self_eq_true, if_pos rfl] at hlevel
      omega

/-- **A run within its bounds comes to its end**, if there is a level for each block that it
opens. -/
theorem exists_of_trackRun_within {d : Document} (hd : d.Consistent) {run : List (Token × Nat)}
    (hrun : RunWithin width run)
    (hlevel : d.level + countKind .blockOpen run < columnBound) :
    ∃ e, (t.trackRun d run).outcome = .ok e ∧ e.Consistent ∧
      e.level ≤ d.level + countKind .blockOpen run := by
  obtain ⟨e, hout, he, hclamped, -⟩ :=
    trackRun_of_runFits t hd (t.runFits_of_within hunit hoffset hrun hlevel)
  exact ⟨e, hout, he, hclamped ▸ clampedLevel_le d.level run⟩

end Fits

/-! ## Suggestions -/

theorem mem_of_columnAt {d : Document} {level column : Nat} (h : d.columnAt level = .ok column) :
    column ∈ d.columns := by
  rw [Document.columnAt] at h
  split at h
  · rename_i found hfound
    obtain rfl := Except.ok.inj h
    exact List.mem_of_getElem? hfound
  · cases h

/-- A suggestion is a column of the document, or the alignment column counted from there. -/
theorem exists_suggest_eq {d : Document} (hd : d.Consistent) (text : List Char) :
    ∃ column ∈ d.columns,
      t.suggest d text = .ok column ∨ t.suggest d text = addBelow columnBound column d.anchor := by
  rw [suggest]
  split
  · obtain ⟨column, hcolumn⟩ := exists_columnAt_eq_ok hd (Nat.sub_le d.level 1)
    exact ⟨column, mem_of_columnAt hcolumn, .inl hcolumn⟩
  · obtain ⟨column, hcolumn⟩ := exists_columnAt_eq_ok hd (Nat.le_refl d.level)
    refine ⟨column, mem_of_columnAt hcolumn, ?_⟩
    rw [Document.column, hcolumn, ok_bind]
    split
    · exact .inr rfl
    · exact .inl rfl

/-- Suggestions break off for one reason only. -/
theorem suggest_fault {d : Document} (hd : d.Consistent) {text : List Char} {fault : Fault}
    (h : t.suggest d text = .error fault) : fault = .overflow := by
  obtain ⟨column, -, hok | hsum⟩ := t.exists_suggest_eq hd text
  · rw [hok] at h
    cases h
  · exact addBelow_fault (hsum.symm.trans h)

theorem exists_suggest_eq_ok {d : Document} (hd : d.Consistent) (hwithin : d.Within t width)
    (hsum : width + t.indentUnit + (width + t.anchorOffset) < columnBound) (text : List Char) :
    ∃ column, t.suggest d text = .ok column := by
  obtain ⟨column, hmem, hok | hadd⟩ := t.exists_suggest_eq hd text
  · exact ⟨column, hok⟩
  · have hcolumn := hwithin.columns column hmem
    have hanchor := hwithin.anchor
    exact ⟨column + d.anchor, hadd.trans (addBelow_of_lt (by omega))⟩

/-- A suggestion adds at most one indent unit and one anchor offset to twice the width. -/
theorem suggest_le {d : Document} (hd : d.Consistent) (hwithin : d.Within t width)
    {text : List Char} {column : Nat} (h : t.suggest d text = .ok column) :
    column ≤ 2 * width + t.indentUnit + t.anchorOffset := by
  obtain ⟨block, hmem, hok | hadd⟩ := t.exists_suggest_eq hd text
  · obtain rfl := Except.ok.inj (hok.symm.trans h)
    have hblock := hwithin.columns block hmem
    omega
  · obtain ⟨rfl, -⟩ := addBelow_eq_ok_iff.1 (hadd.symm.trans h)
    have hblock := hwithin.columns block hmem
    have hanchor := hwithin.anchor
    omega

end Tracker

end EditorMode
