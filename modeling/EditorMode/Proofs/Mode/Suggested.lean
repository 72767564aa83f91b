import EditorMode.Proofs.Mode.Bounds
import EditorMode.Proofs.Mode.Content
import EditorMode.Proofs.Tracking.Adoption

/-!
# Documents written as suggested

A document is written as suggested if each of its lines that is not blank stands at the column that
the mode suggests for it (`Mode.AsSuggested`).  What is suggested depends on the lines before, so
that nothing is said here about which columns these are.

For such documents there are two inductions, one inside the other: along the lines
(`Mode.asSuggested_induction`), and along the tokens of a line (`Mode.SuggestedLine.induction`).
The second needs a grammar in which no token but the last one ends a line.
-/

set_option autoImplicit false

namespace EditorMode

open Text

/-- The line ending does not count as indentation. -/
theorem indentationWidth_trimEnding (line : List Char) (tab : Nat) :
    indentationWidth (trimEnding line) tab = indentationWidth line tab := by
  have hsplit : trimEnding line ++ line.rtakeWhile isEnding = line :=
    List.rdropWhile_append_rtakeWhile ..
  have hending : ∀ c ∈ (line.rtakeWhile isEnding).head?, isIndent c = false := by
    intro c hc
    have hends : isEnding c = true := List.mem_rtakeWhile_imp (List.mem_of_mem_head? hc)
    by_contra hindent
    rw [isEnding_eq_false (Bool.eq_true_of_not_eq_false hindent)] at hends
    exact Bool.false_ne_true hends
  rw [indentationWidth, indentationWidth]
  conv_rhs => rw [← hsplit, takeWhile_append_left hending]

theorem indentationWidth_max_one (line : List Char) (tab : Nat) :
    indentationWidth line (max tab 1) = indentationWidth line tab := by
  rw [indentationWidth, indentationWidth, Nat.max_assoc, Nat.max_self]

/-- What a suggestion is made of. -/
theorem Tracker.eq_of_suggest {t : Tracker} {d : Document} {line : List Char} {column : Nat}
    (h : t.suggest d line = .ok column) :
    if t.closesBlock line then d.columns[d.level - 1]? = some column
    else ∃ block, d.columns[d.level]? = some block ∧
      column = block + if d.continued then d.anchor else 0 := by
  have hcolumnAt : ∀ {level column}, d.columnAt level = .ok column →
      d.columns[level]? = some column := by
    intro level column h
    rw [Document.columnAt] at h
    split at h
    · rename_i found hfound
      rw [hfound, Except.ok.inj h]
    · cases h
  rw [suggest] at h
  split at h
  · rename_i hcloses
    rw [if_pos hcloses]
    exact hcolumnAt h
  · rename_i hcloses
    obtain ⟨block, hblock, hsum⟩ := bind_eq_ok_iff.1 h
    rw [if_neg hcloses]
    refine ⟨block, hcolumnAt hblock, ?_⟩
    split at hsum
    · rename_i hcontinued
      rw [if_pos hcontinued, (addBelow_eq_ok_iff.1 hsum).1]
    · rename_i hcontinued
      rw [if_neg hcontinued, Nat.add_zero, Except.ok.inj hsum]

namespace Mode

/-! ## The tokens of a line -/

/-- The kinds of the tokens of a line. -/
def kinds (m : Mode) (line : List Char) : List Kind := (m.scan 0 line).scan.steps.map (·.token.kind)

theorem map_kind_scan (m : Mode) (line : List Char) :
    ((m.scan 0 line).scan.steps.map Step.token).map Token.kind = m.kinds line :=
  List.map_map

theorem kinds_of_blank (m : Mode) {line : List Char} (h : trimEnding line = []) :
    m.kinds line = [] := by
  rw [kinds, m.scan_of_blank 0 h, List.map_nil]

theorem indentation_scan (m : Mode) (number : Nat) (line : List Char) :
    (m.scan number line).cursor.indentation = indentationWidth line m.config.tabSize := by
  rw [← indentationWidth_trimEnding, ← indentationWidth_max_one]
  rfl

section Line

variable {m : Mode} {d e : Document} {number : Nat} {line : List Char}
  (h : (m.advanceLine d number line).outcome = .ok e)

include h

theorem exists_indentationWidth :
    ∃ indentation, indentationWidth line m.config.tabSize = .ok indentation := by
  obtain ⟨-, indentation, -, hindentation, -⟩ := (m.outcome_advanceLine_eq_ok_iff d number).1 h
  exact ⟨indentation, m.indentation_scan number line ▸ hindentation⟩

variable (hrules : KeepText m.rules)

include hrules

/-- A line is tracked along its tokens, with its indentation. -/
theorem outcome_trackRun_of_advanceLine {indentation : Nat}
    (hindentation : indentationWidth line m.config.tabSize = .ok indentation) :
    (m.tracker.trackRun d
      (((m.scan 0 line).scan.steps.map Step.token).map (·, indentation))).outcome = .ok e := by
  rw [outcome_advanceLine_onLine hrules d number 0] at h
  obtain ⟨tokens, found, htokens, hfound, hrun⟩ := (m.outcome_advanceLine_eq_ok_iff d 0).1 h
  obtain ⟨stop, -, rfl⟩ := map_eq_ok_iff.1 htokens
  rw [indentation_scan, hindentation] at hfound
  obtain rfl := Except.ok.inj hfound
  exact hrun

/-- The last kind of a line decides about the state after it. -/
theorem endedBy_of_getLast?_kinds (hd : d.Consistent) {kind : Kind}
    (hkind : (m.kinds line).getLast? = some kind) : e.EndedBy kind := by
  have hline : trimEnding line ≠ [] := by
    intro hblank
    rw [m.kinds_of_blank hblank] at hkind
    cases hkind
  rw [outcome_advanceLine_onLine hrules d number 0] at h
  obtain ⟨tokens, last, htokens, hlast, hended⟩ :=
    endedBy_of_advanceLine hrules.keepEmpty hd hline h
  obtain ⟨stop, -, rfl⟩ := map_eq_ok_iff.1 htokens
  have hkinds : (m.kinds line).getLast? = some last.kind := by
    rw [← map_kind_scan, List.getLast?_map, hlast, Option.map_some]
  obtain rfl := Option.some.inj (hkind.symm.trans hkinds)
  exact hended

/-- **Induction along the tokens of a line**, where none but the last one ends it. -/
theorem advanceLine_induction (hends : EndsOnlyAtEnd m.rules) (hd : d.Consistent)
    {indentation : Nat} (hindentation : indentationWidth line m.config.tabSize = .ok indentation)
    {motive : List Kind → Document → Prop} (nil : motive [] d)
    (concat : ∀ early token late before, m.kinds line = early ++ token.kind :: late →
      Tracker.Midline d early before → motive early before →
      motive (early ++ [token.kind]) (m.tracker.advanced before token indentation)) :
    motive (m.kinds line) e := by
  rw [← map_kind_scan] at concat ⊢
  refine m.tracker.line_induction hd ?_ (outcome_trackRun_of_advanceLine h hrules hindentation) nil
    concat
  exact LineScan.endOfLine_not_mem_dropLast_scan_start hrules.keepEmpty hends _ _

end Line

/-- The number of a line does not matter, so that the last of several lines may have any. -/
theorem exists_of_advanceLines_concat {m : Mode} (hrules : KeepText m.rules) {d e : Document}
    {number : Nat} {early : List (List Char)} {line : List Char}
    (h : (m.advanceLines d number (early ++ [line])).outcome = .ok e) :
    ∃ before, (m.advanceLines d number early).outcome = .ok before ∧
      (m.advanceLine before 0 line).outcome = .ok e := by
  rw [advanceLines_append, Logged.outcome_bind, bind_eq_ok_iff] at h
  obtain ⟨before, hbefore, hline⟩ := h
  refine ⟨before, hbefore, ?_⟩
  simpa [advanceLines, outcome_advanceLine_onLine hrules before _ 0] using hline

/-! ## Documents -/

/-- Each line of the text that is not blank stands at the column that is suggested for it. -/
def AsSuggested (m : Mode) (text : List Char) : Prop :=
  ∀ columns, (m.indentLines text).outcome = .ok columns →
    ∀ x ∈ (lines text).zip columns, trimEnding x.1 ≠ [] →
      indentationWidth x.1 m.config.tabSize = .ok x.2

theorem asSuggested_of_indentLines {m : Mode} {text : List Char} {columns : List Nat}
    (h : (m.indentLines text).outcome = .ok columns)
    (hall : ∀ x ∈ (lines text).zip columns, trimEnding x.1 ≠ [] →
      indentationWidth x.1 m.config.tabSize = .ok x.2) : m.AsSuggested text := by
  intro others hothers
  obtain rfl := Except.ok.inj (h.symm.trans hothers)
  exact hall

/-- A line that stands at the column suggested for it, between the states `d` and `e`. -/
structure SuggestedLine (m : Mode) (d : Document) (line : List Char) (column : Nat) (e : Document) :
    Prop where
  consistent : d.Consistent
  suggest : m.tracker.suggest d line = .ok column
  written : trimEnding line ≠ [] → indentationWidth line m.config.tabSize = .ok column
  advance : (m.advanceLine d 0 line).outcome = .ok e

/-- A blank line has no tokens, so that its indentation does not matter. -/
theorem SuggestedLine.induction {m : Mode} (hrules : KeepText m.rules)
    (hends : EndsOnlyAtEnd m.rules) {d e : Document} {line : List Char} {column : Nat}
    (h : m.SuggestedLine d line column e) {motive : List Kind → Document → Prop}
    (nil : motive [] d)
    (concat : ∀ early token late before, m.kinds line = early ++ token.kind :: late →
      Tracker.Midline d early before → motive early before →
      motive (early ++ [token.kind]) (m.tracker.advanced before token column)) :
    motive (m.kinds line) e := by
  by_cases hline : trimEnding line = []
  · have hadvance := h.advance
    rw [m.advanceLine_of_blank _ _ hline] at hadvance
    obtain rfl := Except.ok.inj hadvance
    rwa [m.kinds_of_blank hline]
  · exact advanceLine_induction h.advance hrules hends h.consistent (h.written hline) nil concat

section Documents

variable {m : Mode} {text : List Char}

theorem length_of_indentLines {columns : List Nat}
    (h : (m.indentLines text).outcome = .ok columns) : columns.length = (lines text).length := by
  have hall := congrArg List.length ((m.outcome_indentLinesFrom_eq_ok_iff .start 0).1 h).2
  rwa [length_suggestions, List.length_map, eq_comm] at hall

/-- The suggestions for a document are those for each of its lines. -/
theorem exists_getElem?_of_indentLines {columns : List Nat}
    (h : (m.indentLines text).outcome = .ok columns) {count : Nat} {line : List Char}
    (hline : (lines text)[count]? = some line) {d : Document}
    (hd : (m.advanceLines .start 0 ((lines text).take count)).outcome = .ok d) :
    ∃ column, columns[count]? = some column ∧ m.indent d line = .ok column := by
  have hall := congrArg (·[count]?) ((m.outcome_indentLinesFrom_eq_ok_iff .start 0).1 h).2
  simp only [suggestions, List.getElem?_mapIdx, hline, hd, ok_bind, List.getElem?_map,
    Option.map_some] at hall
  obtain ⟨column, hcolumn, heq⟩ := Option.map_eq_some_iff.1 hall.symm
  exact ⟨column, hcolumn, heq.symm⟩

/-- **Induction along the lines of a document that is written as suggested.** -/
theorem asSuggested_induction (hrules : KeepText m.rules)
    (hfits : (m.indentLines text).outcome ≠ .error .overflow)
    (hwritten : m.AsSuggested text) {motive : Nat → Document → Prop} (start : motive 0 .start)
    (next : ∀ count d line column e, (lines text)[count]? = some line →
      (m.advanceLines .start 0 ((lines text).take count)).outcome = .ok d → motive count d →
      m.SuggestedLine d line column e → motive (count + 1) e)
    {count : Nat} (hcount : count ≤ (lines text).length) :
    ∃ d, (m.advanceLines .start 0 ((lines text).take count)).outcome = .ok d ∧ motive count d := by
  obtain ⟨columns, last, hcolumns, -, hlast⟩ := exists_of_indentLines_ne hrules.keepEmpty hfits
  induction count with
  | zero => exact ⟨.start, rfl, start⟩
  | succ count ih =>
    obtain ⟨d, hd, hmotive⟩ := ih (Nat.le_of_succ_le hcount)
    have hline := List.getElem?_eq_getElem hcount
    obtain ⟨column, hcolumn, hsuggest⟩ := exists_getElem?_of_indentLines hcolumns hline hd
    have hsafe := safe_advanceLines hrules.keepEmpty Document.consistent_start 0
      ((lines text).take (count + 1))
    obtain ⟨e, he, -⟩ := hsafe.exists_eq_ok
      (outcome_advanceLines_take_ne (hlast.trans_ne (by simp)) (count + 1))
    refine ⟨e, he, next count d _ column e hline hd hmotive ⟨?_, hsuggest, ?_, ?_⟩⟩
    · exact consistent_of_advanceLines hrules.keepEmpty hd
    · refine hwritten columns hcolumns ((lines text)[count], column) ?_
      refine List.mem_of_getElem? (i := count) ?_
      rw [List.getElem?_zip_eq_some]
      exact ⟨hline, hcolumn⟩
    · rw [List.take_add_one, hline, Option.toList_some] at he
      obtain ⟨before, hbefore, hadvance⟩ := exists_of_advanceLines_concat hrules he
      obtain rfl := Except.ok.inj (hd.symm.trans hbefore)
      exact hadvance

end Documents

end Mode

end EditorMode
