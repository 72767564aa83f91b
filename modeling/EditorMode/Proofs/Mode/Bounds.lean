import EditorMode.Proofs.Line.Columns
import EditorMode.Proofs.Mode.Boundary
import EditorMode.Proofs.Mode.Reparse
import EditorMode.Proofs.Tracking.Bounds

/-!
# Where the numbers of a mode stay in their bounds

Whatever the text is, a mode breaks off for one reason only: a sum of columns, or a level, passes
its bound.  Levels are missing for no document, no character is cut in two, and every line comes to
its end (`Mode.completesIf_fits`).

The settings of a mode have no upper bounds, so that a short text may be enough
(`Mode.overflow_of_settings`).  It is not where the lines are short for the settings: with at most
`length` characters in a line, all columns lie within `m.charColumns * length`, the columns of
blocks exceed this by one indent unit, alignment columns by the anchor offset, and a suggestion adds
one of each.  `Mode.Narrow` says that this largest sum lies below the bound.  `Mode.InBounds` is
what a document keeps from line to line.
-/

set_option autoImplicit false

namespace EditorMode

open Text

namespace Mode

open LineScan (KeepEmpty)

/-! ## One line -/

/-- The most columns that a character can take up. -/
def charColumns (m : Mode) : Nat := max m.config.tabSize maxWidth

/-- Lines of this length are so short that no sum of columns passes its bound. -/
def Narrow (m : Mode) (length : Nat) : Prop :=
  2 * (m.charColumns * length) + m.config.indentUnit + m.config.anchorOffset < columnBound

instance (m : Mode) (length : Nat) : Decidable (m.Narrow length) :=
  inferInstanceAs (Decidable (_ < _))

theorem Narrow.sum_lt {m : Mode} {length : Nat} (h : m.Narrow length) :
    m.charColumns * length + m.tracker.indentUnit +
      (m.charColumns * length + m.tracker.anchorOffset) < columnBound := by
  have hsum : 2 * (m.charColumns * length) + m.tracker.indentUnit + m.tracker.anchorOffset
    < columnBound := h
  omega

section Line

variable {m : Mode} {length : Nat} (hnarrow : m.Narrow length) {text : List Char}
  (hlength : (trimEnding text).length ≤ length)

include hnarrow hlength

/-- Every place of a short line has a column. -/
theorem columnAfter_le_of_narrow {before : List Char} (h : before <+: trimEnding text) :
    ∃ column, columnAfter (max (max m.config.tabSize 1) 1) 0 before = .ok column ∧
      column ≤ m.charColumns * length := by
  have htab : max (max m.config.tabSize 1) 1 ≤ m.charColumns := by
    rw [charColumns, maxWidth]
    omega
  have hwidth : maxWidth ≤ m.charColumns := Nat.le_max_right _ _
  have hle : m.charColumns * before.length ≤ m.charColumns * length :=
    Nat.mul_le_mul_left _ (h.length_le.trans hlength)
  have hbound : 0 + m.charColumns * before.length < columnBound := by
    rw [Narrow] at hnarrow
    omega
  obtain ⟨column, hcolumn, hcolumn_le⟩ := columnAfter_le htab hwidth hbound
  exact ⟨column, hcolumn, by omega⟩

theorem exists_indentation_le (line : Nat) :
    ∃ indentation, (m.scan line text).cursor.indentation = .ok indentation ∧
      indentation ≤ m.charColumns * length :=
  columnAfter_le_of_narrow hnarrow hlength (List.takeWhile_prefix _)

variable (hrules : KeepEmpty m.rules)

include hrules

theorem exists_stop_eq_ok (line : Nat) :
    ∃ stop, (m.scan line text).scan.plain.stop = .ok stop := by
  cases h : (m.scan line text).scan.plain.stop with
  | ok stop => exact ⟨stop, rfl⟩
  | error fault =>
    rw [scan, LineScan.plain_scan hrules] at h
    obtain ⟨column, hcolumn, -⟩ := columnAfter_le_of_narrow hnarrow hlength List.prefix_rfl
    cases hcolumn.symm.trans (columnAfter_eq_error_of_stop h)

theorem column_le_of_mem (line : Nat) {token : Token}
    (h : token ∈ (m.scan line text).scan.plain.tokens) :
    token.column ≤ m.charColumns * length := by
  rw [scan, LineScan.plain_scan hrules] at h
  obtain ⟨before, hbefore, hcolumn⟩ := columnAfter_of_mem_plainTokens hrules h
  obtain ⟨column, hok, hle⟩ := columnAfter_le_of_narrow hnarrow hlength hbefore
  obtain rfl := Except.ok.inj (hcolumn.symm.trans hok)
  exact hle

/-- The tokens at the start of a short line can be tracked, if there is a level for each of the
characters of the line. -/
theorem exists_of_trackRun_prefix {d : Document} (hd : d.Consistent)
    (hlevel : d.level + (trimEnding text).length < columnBound) (line : Nat)
    {indentation : Nat} (hindentation : indentation ≤ m.charColumns * length) {early : List Token}
    (hearly : early <+: (m.scan line text).scan.plain.tokens) :
    ∃ e, (m.tracker.trackRun d (early.map (·, indentation))).outcome = .ok e ∧ e.Consistent ∧
      e.level ≤ d.level + (trimEnding text).length ∧
      (d.Within m.tracker (m.charColumns * length) →
        e.Within m.tracker (m.charColumns * length)) := by
  have hrun : Tracker.RunWithin (m.charColumns * length) (early.map (·, indentation)) := by
    rw [Tracker.RunWithin, List.forall_mem_map]
    exact fun token htoken =>
      ⟨column_le_of_mem hnarrow hlength hrules line (hearly.subset htoken), hindentation⟩
  have hopens : Tracker.countKind .blockOpen (early.map (·, indentation)) ≤
      (trimEnding text).length := by
    rw [Tracker.countKind, List.countP_map]
    refine hearly.sublist.countP_le.trans ?_
    rw [scan, LineScan.plain_scan hrules]
    exact countP_blockOpen_le _ (Cursor.start text line m.config.tabSize)
  have hsum := hnarrow.sum_lt
  obtain ⟨e, he, hconsistent, hlevel_le⟩ :=
    m.tracker.exists_of_trackRun_within (by omega) (by omega) hd hrun (by omega)
  exact ⟨e, he, hconsistent, by omega,
    fun hwithin => m.tracker.within_of_trackRun hd hwithin hrun he⟩

/-- **A short line can be tracked.** -/
theorem exists_of_advanceLine_narrow {d : Document} (hd : d.Consistent)
    (hlevel : d.level + (trimEnding text).length < columnBound) (line : Nat) :
    ∃ e, (m.advanceLine d line text).outcome = .ok e ∧ e.Consistent ∧
      e.level ≤ d.level + (trimEnding text).length ∧
      (d.Within m.tracker (m.charColumns * length) →
        e.Within m.tracker (m.charColumns * length)) := by
  obtain ⟨indentation, hindentation, hle⟩ := exists_indentation_le hnarrow hlength line
  obtain ⟨stop, hstop⟩ := exists_stop_eq_ok hnarrow hlength hrules line
  obtain ⟨e, he, hafter⟩ :=
    exists_of_trackRun_prefix hnarrow hlength hrules hd hlevel line hle List.prefix_rfl
  refine ⟨e, ?_, hafter⟩
  simp only [outcome_advanceLine, hindentation, he, hstop, ok_bind]
  rfl

end Line

/-! ## Many lines -/

/-- A document after `count` characters in lines of this length. -/
structure InBounds (m : Mode) (length count : Nat) (d : Document) : Prop where
  consistent : d.Consistent
  within : d.Within m.tracker (m.charColumns * length)
  level : d.level ≤ count

theorem inBounds_start (m : Mode) (length : Nat) : m.InBounds length 0 .start :=
  ⟨Document.consistent_start, Document.within_start _ _, Nat.le_refl 0⟩

section Lines

variable {m : Mode} {length : Nat} (hnarrow : m.Narrow length) {count : Nat} {d : Document}

include hnarrow

theorem InBounds.exists_indent (hd : m.InBounds length count d) (text : List Char) :
    ∃ column, m.indent d text = .ok column :=
  m.tracker.exists_suggest_eq_ok hd.consistent hd.within hnarrow.sum_lt text

variable (hrules : KeepEmpty m.rules)

include hrules

theorem InBounds.exists_advanceLine (hd : m.InBounds length count d) {text : List Char}
    (htext : text.length ≤ length) (hcount : count + text.length < columnBound) (line : Nat) :
    ∃ e, (m.advanceLine d line text).outcome = .ok e ∧
      m.InBounds length (count + text.length) e := by
  have htrim : (trimEnding text).length ≤ text.length := (List.rdropWhile_prefix _ _).length_le
  have hlevel := hd.level
  obtain ⟨e, he, hconsistent, hlevel_le, hwithin⟩ :=
    exists_of_advanceLine_narrow hnarrow (htrim.trans htext) hrules hd.consistent (by omega) line
  exact ⟨e, he, hconsistent, hwithin hd.within, by omega⟩

theorem InBounds.exists_advanceLines {texts : List (List Char)}
    (htexts : ∀ text ∈ texts, text.length ≤ length) (hd : m.InBounds length count d)
    (hcount : count + texts.flatten.length < columnBound) (line : Nat) :
    ∃ e, (m.advanceLines d line texts).outcome = .ok e ∧
      m.InBounds length (count + texts.flatten.length) e := by
  induction texts generalizing count d line with
  | nil => exact ⟨d, rfl, hd⟩
  | cons text texts ih =>
    obtain ⟨htext, htexts⟩ := List.forall_mem_cons.1 htexts
    rw [List.flatten_cons, List.length_append, ← Nat.add_assoc] at hcount ⊢
    obtain ⟨next, hnext, hin⟩ :=
      hd.exists_advanceLine hnarrow hrules htext (by omega) (line % offsetBound)
    obtain ⟨e, he, hlast⟩ := ih htexts hin hcount (line + 1)
    refine ⟨e, ?_, hlast⟩
    rw [advanceLines, Logged.outcome_bind, hnext, ok_bind, he]

theorem InBounds.exists_indentLinesFrom {texts : List (List Char)}
    (htexts : ∀ text ∈ texts, text.length ≤ length) (hd : m.InBounds length count d)
    (hcount : count + texts.flatten.length < columnBound) (line : Nat) :
    ∃ columns, (m.indentLinesFrom d line texts).outcome = .ok columns := by
  induction texts generalizing count d line with
  | nil => exact ⟨[], rfl⟩
  | cons text texts ih =>
    obtain ⟨htext, htexts⟩ := List.forall_mem_cons.1 htexts
    rw [List.flatten_cons, List.length_append, ← Nat.add_assoc] at hcount
    obtain ⟨column, hcolumn⟩ := hd.exists_indent hnarrow text
    obtain ⟨next, hnext, hin⟩ :=
      hd.exists_advanceLine hnarrow hrules htext (by omega) (line % offsetBound)
    obtain ⟨columns, hcolumns⟩ := ih htexts hin hcount (line + 1)
    refine ⟨column :: columns, ?_⟩
    simp only [indentLinesFrom, Logged.outcome_bind, Logged.outcome_ofExcept, hcolumn, hnext,
      hcolumns, ok_bind, Logged.outcome_pure]

end Lines

/-! ## Faults -/

/-- Suggestions for lines break off for one reason only. -/
theorem fault_of_indentLinesFrom {m : Mode} (hrules : KeepEmpty m.rules) {d : Document}
    (hd : d.Consistent) {line : Nat} {texts : List (List Char)} {fault : Fault}
    (h : (m.indentLinesFrom d line texts).outcome = .error fault) : fault = .overflow := by
  induction texts generalizing d line with
  | nil => cases h
  | cons text texts ih =>
    have hsafe := safe_advanceLine hrules hd (line % offsetBound) text
    simp only [indentLinesFrom, Logged.outcome_bind, Logged.outcome_ofExcept, Logged.outcome_pure,
      bind_eq_error_iff, reduceCtorEq, and_false, exists_false, or_false] at h
    rcases h with h | ⟨column, -, h | ⟨e, he, h⟩⟩
    · exact m.tracker.suggest_fault hd h
    · exact hsafe.eq_overflow h
    · exact ih (hsafe.consistent he) h

theorem exists_of_indentLines_ne {m : Mode} (hrules : KeepEmpty m.rules) {text : List Char}
    (hfits : (m.indentLines text).outcome ≠ .error .overflow) :
    ∃ columns d, (m.indentLines text).outcome = .ok columns ∧
      m.suggestions .start 0 (lines text) = columns.map .ok ∧
      (m.reparse text).outcome = .ok d := by
  cases hcolumns : (m.indentLines text).outcome with
  | error fault =>
    have hfault := fault_of_indentLinesFrom hrules Document.consistent_start hcolumns
    exact absurd (hcolumns.trans (congrArg _ hfault)) hfits
  | ok columns =>
    obtain ⟨⟨d, hd⟩, hall⟩ := (m.outcome_indentLinesFrom_eq_ok_iff .start 0).1 hcolumns
    exact ⟨columns, d, rfl, hall, hd⟩

/-- The computation breaks off only where a sum passes its bound, and not at all where the condition
holds. -/
structure CompletesIf {α : Type} (p : Prop) (x : Except Fault α) : Prop where
  fault : ∀ fault, x = .error fault → fault = .overflow
  exists_eq_ok : p → ∃ a, x = .ok a

theorem CompletesIf.of_map {α β : Type} {p : Prop} {x : Except Fault α} {g : α → β}
    (h : CompletesIf p (g <$> x)) : CompletesIf p x := by
  cases x with
  | ok a => exact ⟨nofun, fun _ => ⟨a, rfl⟩⟩
  | error fault =>
    refine ⟨fun other hother => h.fault other (congrArg _ (Except.error.inj hother)), fun hp => ?_⟩
    obtain ⟨b, hb⟩ := h.exists_eq_ok hp
    cases hb

/-! ## Documents -/

/-- A text whose lines are so short that no sum passes its bound. -/
structure Fits (m : Mode) (length : Nat) (text : List Char) : Prop where
  narrow : m.Narrow length
  length_line : ∀ line ∈ lines text, line.length ≤ length
  length_text : text.length < columnBound

theorem Fits.length_flatten_lt {m : Mode} {length : Nat} {text : List Char}
    (h : m.Fits length text) : 0 + (lines text).flatten.length < columnBound := by
  rw [Nat.zero_add]
  exact (length_flatten_lines_le text).trans_lt h.length_text

/-- There is a level for each of the characters of a line and of the lines before it. -/
theorem Fits.length_take_add_lt {m : Mode} {length : Nat} {text : List Char}
    (h : m.Fits length text) {count : Nat} {line : List Char}
    (hline : (lines text)[count]? = some line) :
    ((lines text).take count).flatten.length + line.length < columnBound := by
  obtain ⟨hcount, rfl⟩ := List.getElem?_eq_some_iff.1 hline
  have hsum := h.length_flatten_lt
  rw [← List.take_append_drop count (lines text), List.flatten_append, List.length_append,
    List.drop_eq_getElem_cons hcount, List.flatten_cons, List.length_append] at hsum
  omega

section Documents

variable {m : Mode} (hrules : KeepEmpty m.rules) {length : Nat} {text : List Char}
  (hfits : m.Fits length text)

include hrules hfits

/-- The document after some of the lines. -/
theorem exists_inBounds_take (count : Nat) :
    ∃ d, (m.advanceLines .start 0 ((lines text).take count)).outcome = .ok d ∧
      m.InBounds length ((lines text).take count).flatten.length d := by
  have hsum := hfits.length_flatten_lt
  rw [← List.take_append_drop count (lines text), List.flatten_append, List.length_append] at hsum
  have hlines : ∀ line ∈ (lines text).take count, line.length ≤ length :=
    fun line hline => hfits.length_line line (List.mem_of_mem_take hline)
  simpa using (m.inBounds_start length).exists_advanceLines hfits.narrow hrules hlines
    (by omega) 0

theorem inBounds_of_advanceLines_take (count : Nat) {d : Document}
    (h : (m.advanceLines .start 0 ((lines text).take count)).outcome = .ok d) :
    m.InBounds length ((lines text).take count).flatten.length d := by
  obtain ⟨e, he, hin⟩ := exists_inBounds_take hrules hfits count
  obtain rfl := Except.ok.inj (h.symm.trans he)
  exact hin

theorem exists_advanceLine_of_fits {count : Nat} {d : Document}
    (h : (m.advanceLines .start 0 ((lines text).take count)).outcome = .ok d) {line : List Char}
    (hline : (lines text)[count]? = some line) (number : Nat) :
    ∃ e, (m.advanceLine d number line).outcome = .ok e := by
  have hin := inBounds_of_advanceLines_take hrules hfits count h
  obtain ⟨e, he, -⟩ := hin.exists_advanceLine hfits.narrow hrules
    (hfits.length_line _ (List.mem_of_getElem? hline)) (hfits.length_take_add_lt hline) number
  exact ⟨e, he⟩

end Documents

/-- **What can break off.**  Thread a text from the start of a document, by a mode whose rules keep
the text that they match.  Lines, highlighted or not, suggestions after any number of lines, the
whole document and all its suggestions break off only where a sum passes its bound, and do not if
the lines of the text are short enough for the settings of the mode. -/
theorem completesIf_fits {m : Mode} (hrules : KeepText m.rules) (length : Nat) (text : List Char) :
    CompletesIf (m.Fits length text) (m.reparse text).outcome ∧
      CompletesIf (m.Fits length text) (m.indentLines text).outcome ∧
      ∀ count d, (m.advanceLines .start 0 ((lines text).take count)).outcome = .ok d →
        (∀ next, CompletesIf (m.Fits length text) (m.indent d next)) ∧
        ∀ line ∈ (lines text)[count]?, ∀ number,
          CompletesIf (m.Fits length text) (m.advanceLine d number line).outcome ∧
            CompletesIf (m.Fits length text) (m.highlightLine d number line).outcome := by
  have hempty := hrules.keepEmpty
  have hstart := Document.consistent_start
  refine ⟨⟨?_, fun hfits => ?_⟩, ⟨?_, fun hfits => ?_⟩, fun count d hd => ?_⟩
  · exact fun fault => (safe_advanceLines hempty hstart 0 (lines text)).eq_overflow
  · obtain ⟨d, hd, -⟩ := (m.inBounds_start length).exists_advanceLines hfits.narrow hempty
      hfits.length_line hfits.length_flatten_lt 0
    exact ⟨d, hd⟩
  · exact fun fault => fault_of_indentLinesFrom hempty hstart
  · exact (m.inBounds_start length).exists_indentLinesFrom hfits.narrow hempty hfits.length_line
      hfits.length_flatten_lt 0
  · have hc : d.Consistent :=
      (safe_advanceLines hempty hstart 0 ((lines text).take count)).consistent hd
    refine ⟨fun next => ⟨fun fault => m.tracker.suggest_fault hc, fun hfits => ?_⟩,
      fun line hline number => ?_⟩
    · exact (inBounds_of_advanceLines_take hempty hfits count hd).exists_indent hfits.narrow next
    · have hadvance : CompletesIf (m.Fits length text) (m.advanceLine d number line).outcome :=
        ⟨fun fault => (safe_advanceLine hempty hc number line).eq_overflow,
          fun hfits => exists_advanceLine_of_fits hempty hfits hd hline number⟩
      refine ⟨hadvance, .of_map (g := Prod.fst) ?_⟩
      rwa [← Logged.outcome_map, ← threadHighlighted, threadHighlighted_eq]

/-- A tab of so many columns that a line of twelve characters still fits twice below the bound: the
second line continues the first and aligns after its function marker. -/
theorem completesIf_fits_wide_tab :
    let rules : List Rule :=
      [.literal "Function" .function, .literal "..." .lineContinuation]
    let m : Mode := ⟨rules, .empty, { Config.standard with tabSize := 2 ^ 59 }⟩
    let text := "\tFunction...\nx".toList
    KeepText m.rules ∧ m.Fits 12 text ∧
      ∃ columns, (m.indentLines text).outcome = .ok columns ∧ columns = [0, 2 ^ 59 + 8] := by
  intro rules m text
  have hrules : KeepText m.rules :=
    keepText_ofEntry [(.literal "Function", .function), (.literal "...", .lineContinuation)]
  have hfits : m.Fits 12 text := ⟨by decide +kernel, by decide +kernel, by decide +kernel⟩
  have hcolumns : (m.indentLines text).outcome = .ok [0, 2 ^ 59 + 8] := by decide +kernel
  obtain ⟨columns, h⟩ := (completesIf_fits hrules 12 text).2.1.exists_eq_ok hfits
  exact ⟨hrules, hfits, columns, h, Except.ok.inj (h.symm.trans hcolumns)⟩

/-- Settings that are accepted may be too large for a short text.  The tab stop after the first
character lies below the bound, but the sum that leads to it does not; the indent unit and the
anchor offset leave no room for a single column. -/
theorem overflow_of_settings :
    let rules : List Rule := [.literal "Function" .function, .literal "\x7b" .blockOpen]
    KeepText rules ∧
      ∀ x ∈ [({ Config.standard with tabSize := columnBound - 1 }, "x\t"),
          ({ Config.standard with indentUnit := columnBound - 1 }, " \x7b"),
          ({ Config.standard with anchorOffset := columnBound - 1 }, "x Function")],
        ∃ m, Mode.create rules .empty x.1 = .ok m ∧
          (m.reparse x.2.toList).outcome = .error .overflow := by
  intro rules
  refine ⟨keepText_ofEntry [(.literal "Function", .function), (.literal "\x7b", .blockOpen)], ?_⟩
  intro x hx
  simp only [List.mem_cons, List.not_mem_nil, or_false] at hx
  rcases hx with rfl | rfl | rfl <;> exact ⟨⟨rules, .empty, _⟩, rfl, by decide +kernel⟩

end Mode

end EditorMode
