import EditorMode.Proofs.Mode.Suggested
import Mathlib.Order.Bounds.Basic

/-!
# How far the numbers of a document reach

Let no line of a text have more than `length` characters, and let each character take up as many
columns as a tab or as the widest character there is, whichever is more.  This is how far a line can
reach to the right.  It bounds every number that a mode comes across on its way through the text
(`Mode.numbers_le_reach`): the columns of tokens and indentations directly, the columns of blocks
with an indent unit added, alignment columns with the anchor offset added.  A suggestion adds up one
of each kind, so that it may lie twice as far to the right.

The bound holds for the states between two tokens as well as for those between two lines.  So it is
a statement about every part of the tokens of a line (`Mode.LineWithin`), and not about lines only.
-/

set_option autoImplicit false

namespace EditorMode

open Text

/-! ## Characters -/

theorem Text.length_le_byteLength (text : List Char) : text.length ≤ byteLength text := by
  induction text with
  | nil => exact Nat.le_refl 0
  | cons c text ih =>
    have hc := c.utf8Size_pos
    rw [List.length_cons, byteLength_cons]
    omega

/-- One character is as wide as any. -/
theorem Text.isGreatest_maxWidth : IsGreatest (Set.range width) maxWidth := by
  refine ⟨⟨'\u17d8', by decide +kernel⟩, ?_⟩
  rintro _ ⟨c, rfl⟩
  exact width_le_maxWidth c

namespace Mode

/-! ## Lines -/

/-- All numbers on the way through a line lie within what lines of `reach` columns can give: those
of its tokens, and those of the documents after any number of them. -/
structure LineWithin (m : Mode) (reach : Nat) (d : Document) (number : Nat) (line : List Char)
    (indentation : Nat) (tokens : List Token) (e : Document) : Prop where
  indentation_eq : indentationWidth line m.config.tabSize = .ok indentation
  indentation_le : indentation ≤ reach
  highlight : (m.highlightLine d number line).outcome = .ok (e, tokens.map m.style)
  column_le : ∀ token ∈ tokens, token.column ≤ reach
  between : ∀ early, early <+: tokens → ∃ now,
    (m.tracker.trackRun d (early.map (·, indentation))).outcome = .ok now ∧
      now.Within m.tracker reach ∧
      ∀ next, ∃ column, m.indent now next = .ok column ∧
        column ≤ 2 * reach + m.config.indentUnit + m.config.anchorOffset

/-- A suggestion that can be made lies within its bound. -/
theorem exists_indent_le {m : Mode} {length : Nat} (hnarrow : m.Narrow length) {d : Document}
    (hd : d.Consistent) (hwithin : d.Within m.tracker (m.charColumns * length))
    (text : List Char) : ∃ column, m.indent d text = .ok column ∧
      column ≤ 2 * (m.charColumns * length) + m.config.indentUnit + m.config.anchorOffset := by
  obtain ⟨column, hcolumn⟩ := m.tracker.exists_suggest_eq_ok hd hwithin hnarrow.sum_lt text
  exact ⟨column, hcolumn, m.tracker.suggest_le hd hwithin hcolumn⟩

/-- **A short line stays within its reach.** -/
theorem exists_lineWithin {m : Mode} (hrules : LineScan.KeepEmpty m.rules) {length : Nat}
    (hnarrow : m.Narrow length) {line : List Char} (hlength : line.length ≤ length) {count : Nat}
    {d : Document} (hd : m.InBounds length count d) (hcount : count + line.length < columnBound)
    (number : Nat) :
    ∃ indentation tokens e,
      m.LineWithin (m.charColumns * length) d number line indentation tokens e := by
  have htrim : (trimEnding line).length ≤ line.length := (List.rdropWhile_prefix _ _).length_le
  have hlevel : d.level + (trimEnding line).length < columnBound := by
    have := hd.level
    omega
  obtain ⟨indentation, hindentation, hle⟩ :=
    exists_indentation_le hnarrow (htrim.trans hlength) number
  obtain ⟨stop, hstop⟩ := exists_stop_eq_ok hnarrow (htrim.trans hlength) hrules number
  obtain ⟨e, he, -⟩ := exists_of_trackRun_prefix hnarrow (htrim.trans hlength) hrules hd.consistent
    hlevel number hle List.prefix_rfl
  refine ⟨indentation, (m.scan number line).scan.plain.tokens, e, ?_, hle, ?_, ?_, ?_⟩
  · rw [← m.indentation_scan number, hindentation]
  · simp only [highlightLine, Logged.outcome_bind, outcome_scanLine, hindentation, he, hstop,
      ok_bind]
    rfl
  · intro token htoken
    exact column_le_of_mem hnarrow (htrim.trans hlength) hrules number htoken
  · intro early hearly
    obtain ⟨now, hnow, hconsistent, -, hwithin⟩ := exists_of_trackRun_prefix hnarrow
      (htrim.trans hlength) hrules hd.consistent hlevel number hle hearly
    refine ⟨now, hnow, hwithin hd.within, fun next => ?_⟩
    exact exists_indent_le hnarrow hconsistent (hwithin hd.within) next

/-! ## Documents -/

/-- The suggestions for a text are within their bound. -/
theorem forall_mem_indentLines_le {m : Mode} (hrules : LineScan.KeepEmpty m.rules) {length : Nat}
    {text : List Char} (hfits : m.Fits length text) {columns : List Nat}
    (h : (m.indentLines text).outcome = .ok columns) :
    ∀ column ∈ columns,
      column ≤ 2 * (m.charColumns * length) + m.config.indentUnit + m.config.anchorOffset := by
  intro column hcolumn
  obtain ⟨count, hcount, hget⟩ := List.getElem_of_mem hcolumn
  have hlt : count < (lines text).length := length_of_indentLines h ▸ hcount
  obtain ⟨d, hd, hin⟩ := exists_inBounds_take hrules hfits count
  obtain ⟨found, hfound, hindent⟩ :=
    exists_getElem?_of_indentLines h (List.getElem?_eq_getElem hlt) hd
  rw [List.getElem?_eq_getElem hcount, hget] at hfound
  obtain rfl := Option.some.inj hfound
  exact m.tracker.suggest_le hin.consistent hin.within hindent

/-- **All numbers lie within reach.**  Take a mode whose rules keep the text that they match, and a
text with at most `length` characters in a line.  Let a character take up `max tab widest` columns,
where `widest` is the width of the widest one.  If twice the columns of a line, the tab size, the
indent unit and the anchor offset together lie below the bound, then no sum passes it, whether the
text is reparsed, highlighted line by line, or columns are suggested for its lines.  On the way,
tokens and indentations lie within the columns of a line, the columns of blocks exceed them by the
indent unit at most, alignment columns by the anchor offset at most, and suggestions lie within
twice the columns of a line plus one of each. -/
theorem numbers_le_reach {m : Mode} (hrules : KeepText m.rules) {widest : Nat}
    (hwidest : IsGreatest (Set.range width) widest) {length : Nat} {text : List Char}
    (hbytes : byteLength text < columnBound) (hlength : ∀ line ∈ lines text, line.length ≤ length)
    (hsum : 2 * (max m.config.tabSize widest * length) + m.config.tabSize + m.config.indentUnit +
      m.config.anchorOffset < columnBound) :
    let reach := max m.config.tabSize widest * length
    (∃ d, (m.reparse text).outcome = .ok d ∧
        (threadLines m.threadHighlighted .start 0 (lines text)).outcome = .ok d ∧
        d.Within m.tracker reach) ∧
      (∃ columns, (m.indentLines text).outcome = .ok columns ∧ ∀ column ∈ columns,
        column ≤ 2 * reach + m.config.indentUnit + m.config.anchorOffset) ∧
      ∀ count line, (lines text)[count]? = some line → ∃ d indentation tokens e,
        (m.advanceLines .start 0 ((lines text).take count)).outcome = .ok d ∧
          m.LineWithin reach d (count % offsetBound) line indentation tokens e := by
  obtain rfl := hwidest.unique isGreatest_maxWidth
  have hempty := hrules.keepEmpty
  have hnarrow : m.Narrow length := by
    rw [Narrow, charColumns]
    omega
  have hfits : m.Fits length text :=
    ⟨hnarrow, hlength, (length_le_byteLength text).trans_lt hbytes⟩
  refine ⟨?_, ?_, ?_⟩
  · obtain ⟨d, hd, hin⟩ := (m.inBounds_start length).exists_advanceLines hnarrow hempty hlength
      hfits.length_flatten_lt 0
    refine ⟨d, hd, ?_, hin.within⟩
    have hthread : m.threadHighlighted = m.advanceLine := by
      funext d line text
      exact m.threadHighlighted_eq d line text
    rw [hthread, ← advanceLines_eq_threadLines, hd]
  · obtain ⟨columns, hcolumns⟩ := (m.inBounds_start length).exists_indentLinesFrom hnarrow hempty
      hlength hfits.length_flatten_lt 0
    exact ⟨columns, hcolumns, forall_mem_indentLines_le hempty hfits hcolumns⟩
  · intro count line hline
    obtain ⟨d, hd, hin⟩ := exists_inBounds_take hempty hfits count
    obtain ⟨indentation, tokens, e, hwithin⟩ := exists_lineWithin hempty hnarrow
      (hlength line (List.mem_of_getElem? hline)) hin (hfits.length_take_add_lt hline)
      (count % offsetBound)
    exact ⟨d, indentation, tokens, e, hd, hwithin⟩

/-- Tabs of so many columns that a line of thirteen characters fits twice below the bound, and then
a line with the widest character, which continues one with a function marker. -/
theorem numbers_le_reach_wide_tab :
    let rules : List Rule := [.literal "Function" .function, .literal "\x7b" .blockOpen,
      .literal "..." .lineContinuation]
    let m : Mode := ⟨rules, .empty, { Config.standard with tabSize := 2 ^ 58 }⟩
    let text := "\t\x7b\n\t\tFunction...\n\u17d8".toList
    KeepText m.rules ∧ IsGreatest (Set.range width) 3 ∧ byteLength text < columnBound ∧
      (∀ line ∈ lines text, line.length ≤ 13) ∧
      2 * (max (2 ^ 58) 3 * 13) + 2 ^ 58 + 2 + 8 < columnBound ∧
      ∃ columns, (m.indentLines text).outcome = .ok columns ∧
        columns = [0, 2 ^ 58 + 2, 2 * 2 ^ 58 + 8] ∧
        ∀ column ∈ columns, column ≤ 2 * (max (2 ^ 58) 3 * 13) + 2 + 8 := by
  intro rules m text
  have hrules : KeepText m.rules := keepText_ofEntry
    [(.literal "Function", .function), (.literal "\x7b", .blockOpen),
      (.literal "...", .lineContinuation)]
  have hbytes : byteLength text < columnBound := by decide +kernel
  have hlength : ∀ line ∈ lines text, line.length ≤ 13 := by decide +kernel
  have hsum : 2 * (max (2 ^ 58) 3 * 13) + 2 ^ 58 + 2 + 8 < columnBound := by decide +kernel
  obtain ⟨-, ⟨columns, hcolumns, hle⟩, -⟩ :=
    numbers_le_reach hrules isGreatest_maxWidth hbytes hlength hsum
  have hfound : (m.indentLines text).outcome = .ok [0, 2 ^ 58 + 2, 2 * 2 ^ 58 + 8] := by
    decide +kernel
  exact ⟨hrules, isGreatest_maxWidth, hbytes, hlength, hsum, columns, hcolumns,
    Except.ok.inj (hcolumns.symm.trans hfound), hle⟩

end Mode

end EditorMode
