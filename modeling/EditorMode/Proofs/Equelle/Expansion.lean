import EditorMode.Proofs.Equelle.Tracked
import EditorMode.Proofs.Equelle.Closing

/-!
# Tabs and spaces in the indentation

`expandIndentation` replaces the blanks and tabs at the start of every line by as many spaces as
they are wide.  Offsets into the line and the texts of tokens change, but no column does: a tab stop
further on in the line is looked for from the same column as before.  So the state of a document and
all suggestions remain what they are (`reparse_expandIndentation`).

What a line does to a document depends on the width of its indentation and on what follows it
(`outcome_advanceLine_eq_rest`).  The result holds for all lines that agree in these two
(`SameIndent`), of which a line and the line with spaces are an example.

A line of blanks only is not empty: it has a token, and it ends.  It matters that with spaces it is
not empty either, since no blank is without a width (`indentationWidth_eq_zero_iff`).
-/

set_option autoImplicit false

namespace EditorMode

open Text

/-! ## The width of blanks -/

section Width

variable {tab : Nat} (htab : 0 < tab)

include htab

/-- Every blank moves the column. -/
theorem lt_of_columnNext_blank {column next : Nat} {c : Char} (hc : isIndent c = true)
    (h : columnNext tab column c = .ok next) : column < next := by
  rcases isIndent_iff.1 hc with rfl | rfl
  · obtain ⟨rfl, -⟩ := addBelow_eq_ok_iff.1 h
    have hwidth : width ' ' = 1 := by decide +kernel
    omega
  · obtain ⟨sum, hsum, rfl⟩ := map_eq_ok_iff.1 h
    obtain ⟨rfl, -⟩ := addBelow_eq_ok_iff.1 hsum
    have hmod := Nat.mod_lt column htab
    show column < column + tab - column % tab
    omega

theorem columnAfter_blanks_eq_zero_iff {run : List Char} (hrun : ∀ c ∈ run, isIndent c = true) :
    columnAfter tab 0 run = .ok 0 ↔ run = [] := by
  refine ⟨fun h => ?_, fun h => by rw [h]; rfl⟩
  cases run with
  | nil => rfl
  | cons c run =>
    rw [columnAfter_cons, bind_eq_ok_iff] at h
    obtain ⟨next, hnext, hlast⟩ := h
    have hpos := lt_of_columnNext_blank htab (hrun c List.mem_cons_self) hnext
    have hle := le_of_columnAfter htab hlast
    omega

end Width

theorem columnAfter_spaces (tab : Nat) {column count : Nat} (h : column + count < columnBound) :
    columnAfter tab column (List.replicate count ' ') = .ok (column + count) := by
  induction count generalizing column with
  | zero => rfl
  | succ count ih =>
    have hnext : columnNext tab column ' ' = .ok (column + 1) := by
      have hwidth : width ' ' = 1 := by decide +kernel
      rw [columnNext, if_neg (by decide), hwidth, addBelow_of_lt (by omega)]
    rw [List.replicate_succ, columnAfter_cons, hnext, ok_bind, ih (by omega)]
    congr 1
    omega

theorem lt_columnBound_of_columnAfter {tab column last : Nat} {text : List Char}
    (hcolumn : column < columnBound) (h : columnAfter tab column text = .ok last) :
    last < columnBound := by
  induction text generalizing column with
  | nil =>
    obtain rfl := Except.ok.inj h
    exact hcolumn
  | cons c text ih =>
    rw [columnAfter_cons, bind_eq_ok_iff] at h
    obtain ⟨next, hnext, hlast⟩ := h
    refine ih ?_ hlast
    rw [columnNext] at hnext
    split at hnext
    · obtain ⟨sum, hsum, rfl⟩ := map_eq_ok_iff.1 hnext
      exact (Nat.sub_le _ _).trans_lt (addBelow_eq_ok_iff.1 hsum).2
    · exact (addBelow_eq_ok_iff.1 hnext).2

/-! ## Lines by their indentation -/

/-- The lines have indentations of the same width and the same text after them. -/
structure SameIndent (tab : Nat) (line other : List Char) : Prop where
  width : indentationWidth line tab = indentationWidth other tab
  rest : line.dropWhile isIndent = other.dropWhile isIndent

theorem indentationWidth_eq_zero_iff {line : List Char} {tab : Nat} :
    indentationWidth line tab = .ok 0 ↔ line.takeWhile isIndent = [] :=
  columnAfter_blanks_eq_zero_iff (Nat.le_max_right _ _) fun _ => List.mem_takeWhile_imp

theorem head?_dropWhile_isIndent (line : List Char) :
    ∀ c ∈ (line.dropWhile isIndent).head?, isIndent c = false := by
  intro c hc
  have hnot := List.head?_dropWhile_not isIndent line
  rw [hc] at hnot
  exact hnot

theorem skipBlank_dropWhile_isIndent (line : List Char) :
    skipBlank (line.dropWhile isIndent) = skipBlank line := by
  have hsplit : line.takeWhile isIndent ++ line.dropWhile isIndent = line :=
    List.takeWhile_append_dropWhile
  have hblank : skipBlank (line.takeWhile isIndent) = [] :=
    skipBlank_eq_nil fun c hc => isBlank_of_isIndent (List.mem_takeWhile_imp hc)
  conv_rhs => rw [← hsplit, skipBlank_append, hblank, List.isEmpty_nil, if_pos rfl]

/-- The indentation is no part of the line ending. -/
theorem trimEnding_eq_append (line : List Char) :
    trimEnding line = line.takeWhile isIndent ++ trimEnding (line.dropWhile isIndent) := by
  have hsplit : line.takeWhile isIndent ++ line.dropWhile isIndent = line :=
    List.takeWhile_append_dropWhile
  have hrun : trimEnding (line.takeWhile isIndent) = line.takeWhile isIndent :=
    trimEnding_eq_self fun c hc => isEnding_eq_false (List.mem_takeWhile_imp hc)
  conv_lhs => rw [← hsplit, trimEnding_append, hrun]
  split
  · rename_i hrest
    rw [hrest, List.append_nil]
  · rfl

namespace SameIndent

variable {tab : Nat} {line other : List Char}

/-- Blanks of the same width are none on both sides or on neither. -/
theorem trimEnding_eq_nil_iff (h : SameIndent tab line other) :
    trimEnding line = [] ↔ trimEnding other = [] := by
  rw [trimEnding_eq_append line, trimEnding_eq_append other, List.append_eq_nil_iff,
    List.append_eq_nil_iff, ← indentationWidth_eq_zero_iff, ← indentationWidth_eq_zero_iff, h.width,
    h.rest]

theorem eq_nil_iff (h : SameIndent tab line other) : line = [] ↔ other = [] := by
  have hsplit : ∀ line : List Char, line.takeWhile isIndent ++ line.dropWhile isIndent = line :=
    fun _ => List.takeWhile_append_dropWhile
  rw [← hsplit line, ← hsplit other, List.append_eq_nil_iff, List.append_eq_nil_iff,
    ← indentationWidth_eq_zero_iff, ← indentationWidth_eq_zero_iff, h.width, h.rest]

theorem skipBlank_eq (h : SameIndent tab line other) : skipBlank line = skipBlank other := by
  rw [← skipBlank_dropWhile_isIndent line, ← skipBlank_dropWhile_isIndent other, h.rest]

end SameIndent

namespace Equelle

section Line

variable {m : Mode} (hrules : m.rules = entries.map Rule.ofEntry)
  (hmarker : m.config.continuationMarker = LineScan.defaultMarker) {line : List Char}

include hrules hmarker

/-- **What a line does depends on the width of its indentation and on the text after it.** -/
theorem outcome_advanceLine_eq_rest (hline : '\n' ∉ line) (hne : trimEnding line ≠ [])
    (d : Document) (number : Nat) :
    (m.advanceLine d number line).outcome =
      indentationWidth line m.config.tabSize >>= fun width =>
        m.tracker.trackOffers (max m.config.tabSize 1) width d (.ok width)
          (lexemes false (trimEnding (line.dropWhile isIndent))) := by
  have htrim : '\n' ∉ trimEnding line := fun h => hline ((List.rdropWhile_prefix _ _).mem h)
  rw [outcome_advanceLine_eq hrules hmarker htrim, List.isEmpty_eq_false_iff.2 hne,
    trimEnding_eq_append]
  have hrest : ∀ c ∈ (trimEnding (line.dropWhile isIndent)).head?, isIndent c = false := by
    intro c hc
    obtain ⟨ending, hending⟩ : trimEnding (line.dropWhile isIndent) <+: line.dropWhile isIndent :=
      List.rdropWhile_prefix _ _
    refine head?_dropWhile_isIndent line c ?_
    rw [← hending, List.head?_append, Option.mem_def.1 hc, Option.some_or]
    rfl
  cases hwidth : indentationWidth line m.config.tabSize with
  | error fault => rfl
  | ok width =>
    rw [ok_bind, ok_bind, trackOffers_blanks _ _ _ _ _ (fun c => List.mem_takeWhile_imp) hrest,
      ok_bind, ← hwidth, indentationWidth]

theorem outcome_advanceLine_of_sameIndent {other : List Char}
    (h : SameIndent m.config.tabSize line other) (hline : '\n' ∉ line) (hother : '\n' ∉ other)
    (d : Document) (number : Nat) :
    (m.advanceLine d number line).outcome = (m.advanceLine d number other).outcome := by
  by_cases hne : trimEnding line = []
  · rw [m.advanceLine_of_blank d number hne,
      m.advanceLine_of_blank d number (h.trimEnding_eq_nil_iff.1 hne)]
  · rw [outcome_advanceLine_eq_rest hrules hmarker hline hne,
      outcome_advanceLine_eq_rest hrules hmarker hother (h.trimEnding_eq_nil_iff.not.1 hne),
      h.width, h.rest]

end Line

end Equelle

/-! ## Expanding the indentation -/

/-- The line with spaces in place of its leading blanks and tabs; as it is, if they are so many that
they have no width. -/
def expandLine (tab : Nat) (line : List Char) : List Char :=
  match indentationWidth line tab with
  | .ok width => List.replicate width ' ' ++ line.dropWhile isIndent
  | .error _ => line

/-- The text with spaces in place of the leading blanks and tabs of its lines. -/
def expandIndentation (tab : Nat) (text : List Char) : List Char :=
  ['\n'].intercalate ((newlinePieces text).map (expandLine tab))

section Expand

variable (tab : Nat)

theorem sameIndent_expandLine (line : List Char) : SameIndent tab (expandLine tab line) line := by
  rw [expandLine]
  split
  · rename_i width hwidth
    have hstop := head?_dropWhile_isIndent line
    have hspaces : ∀ c ∈ List.replicate width ' ', isIndent c = true := by
      intro c hc
      rw [List.eq_of_mem_replicate hc]
      rfl
    have hlt : width < columnBound := lt_columnBound_of_columnAfter (by decide) hwidth
    constructor
    · rw [hwidth, indentationWidth, takeWhile_append_left hstop,
        List.takeWhile_eq_self_iff.2 hspaces, columnAfter_spaces _ (by omega), Nat.zero_add]
    · rw [dropWhile_append_left hstop, List.dropWhile_eq_nil_iff.2 hspaces, List.nil_append]
  · exact ⟨rfl, rfl⟩

/-- What comes after the indentation remains. -/
theorem expandLine_append {tail : List Char} (htail : ∀ c ∈ tail.head?, isIndent c = false)
    (line : List Char) : expandLine tab (line ++ tail) = expandLine tab line ++ tail := by
  have hwidth : indentationWidth (line ++ tail) tab = indentationWidth line tab := by
    rw [indentationWidth, takeWhile_append_left htail, indentationWidth]
  rw [expandLine, expandLine, hwidth, dropWhile_append_left htail]
  cases indentationWidth line tab with
  | error fault => rfl
  | ok width => exact (List.append_assoc _ _ _).symm

theorem mem_expandLine {c : Char} {line : List Char} (h : c ∈ expandLine tab line) :
    c = ' ' ∨ c ∈ line := by
  rw [expandLine] at h
  split at h
  · rcases List.mem_append.1 h with h | h
    · exact .inl (List.eq_of_mem_replicate h)
    · exact .inr ((List.dropWhile_suffix _).mem h)
  · exact .inr h

theorem newline_not_mem_expandLine {line : List Char} (h : '\n' ∉ line) :
    '\n' ∉ expandLine tab line := by
  intro hmem
  rcases mem_expandLine tab hmem with hc | hc
  · exact absurd hc (by decide)
  · exact h hc

/-- Spaces are no part of a line ending. -/
theorem getLast?_of_expandLine {piece : List Char}
    (h : (expandLine tab piece).getLast? = some '\r') : piece.getLast? = some '\r' := by
  rw [expandLine] at h
  split at h
  · have hsplit : piece.takeWhile isIndent ++ piece.dropWhile isIndent = piece :=
      List.takeWhile_append_dropWhile
    rw [List.getLast?_append] at h
    rw [← hsplit, List.getLast?_append]
    cases hlast : (piece.dropWhile isIndent).getLast? with
    | none =>
      rw [hlast, Option.none_or] at h
      exact absurd (List.eq_of_mem_replicate (List.mem_of_getLast? h)) (by decide)
    | some c => rwa [hlast] at h
  · exact h

theorem dropReturn_expandLine (piece : List Char) :
    dropReturn (expandLine tab piece) = expandLine tab (dropReturn piece) := by
  by_cases hlast : piece.getLast? = some '\r'
  · obtain ⟨early, rfl⟩ := List.getLast?_eq_some_iff.1 hlast
    rw [expandLine_append tab (by simp [isIndent]), dropReturn, dropReturn, if_pos (by simp),
      if_pos (by simp), List.dropLast_concat, List.dropLast_concat]
  · rw [dropReturn, dropReturn, if_neg hlast, if_neg (mt (getLast?_of_expandLine tab) hlast)]

theorem linesOfPieces_expandLine (pieces : List (List Char)) :
    linesOfPieces (pieces.map (expandLine tab)) = (linesOfPieces pieces).map (expandLine tab) := by
  fun_induction linesOfPieces pieces with
  | case1 => rfl
  | case2 last hlast =>
    obtain rfl := List.isEmpty_iff.1 hlast
    rfl
  | case3 last hlast =>
    have hne : (expandLine tab last).isEmpty ≠ true := by
      rwa [Ne, List.isEmpty_iff, (sameIndent_expandLine tab last).eq_nil_iff, ← List.isEmpty_iff]
    rw [List.map_singleton, linesOfPieces, if_neg hne]
  | case4 piece next rest ih =>
    rw [List.map_cons, List.map_cons, linesOfPieces, dropReturn_expandLine, ← List.map_cons, ih,
      List.map_cons]

/-- **Each line is expanded for itself.** -/
theorem lines_expandIndentation (text : List Char) :
    lines (expandIndentation tab text) = (lines text).map (expandLine tab) := by
  rw [lines, expandIndentation, newlinePieces_intercalate, linesOfPieces_expandLine, lines]
  · simpa using newlinePieces_ne_nil text
  · rw [List.forall_mem_map]
    intro piece hpiece
    exact newline_not_mem_expandLine tab (newline_not_mem_of_mem_newlinePieces hpiece)

end Expand

/-! ## Documents -/

namespace Mode

variable {m : Mode} {f : List Char → List Char} {texts : List (List Char)}

/-- Lines that do the same one by one do the same together. -/
theorem outcome_advanceLines_map
    (h : ∀ text ∈ texts, ∀ d number,
      (m.advanceLine d number (f text)).outcome = (m.advanceLine d number text).outcome)
    (d : Document) (line : Nat) :
    (m.advanceLines d line (texts.map f)).outcome = (m.advanceLines d line texts).outcome := by
  induction texts generalizing d line with
  | nil => rfl
  | cons text texts ih =>
    rw [List.forall_mem_cons] at h
    simp only [List.map_cons, advanceLines, Logged.outcome_bind, h.1, ih h.2]

theorem outcome_indentLinesFrom_map
    (h : ∀ text ∈ texts, ∀ d number,
      (m.advanceLine d number (f text)).outcome = (m.advanceLine d number text).outcome)
    (hindent : ∀ text ∈ texts, ∀ d, m.indent d (f text) = m.indent d text)
    (d : Document) (line : Nat) :
    (m.indentLinesFrom d line (texts.map f)).outcome =
      (m.indentLinesFrom d line texts).outcome := by
  induction texts generalizing d line with
  | nil => rfl
  | cons text texts ih =>
    rw [List.forall_mem_cons] at h hindent
    simp only [List.map_cons, indentLinesFrom, Logged.outcome_bind, Logged.outcome_ofExcept, h.1,
      hindent.1, ih h.2 hindent.2]

theorem indent_of_sameIndent (m : Mode) {tab : Nat} {line other : List Char}
    (h : SameIndent tab line other) (d : Document) : m.indent d line = m.indent d other := by
  rw [indent, indent, Tracker.suggest, Tracker.suggest, Tracker.closesBlock, Tracker.closesBlock,
    h.skipBlank_eq]

end Mode

/-- **Tabs in the indentation can be replaced by spaces.**  Take the mode of Equelle with the
standard marker of line continuations and any other settings.  With as many spaces as they are wide
in place of the leading blanks and tabs of its lines, a text leads to the same document and has the
same suggestions, or breaks off for the same reason. -/
theorem Equelle.reparse_expandIndentation {config : Config} {m : Mode}
    (hm : modeWith config = .ok m)
    (hmarker : config.continuationMarker = Config.standard.continuationMarker)
    (text : List Char) :
    lines (expandIndentation config.tabSize text) =
        (lines text).map (expandLine config.tabSize) ∧
      (m.reparse (expandIndentation config.tabSize text)).outcome = (m.reparse text).outcome ∧
      (m.indentLines (expandIndentation config.tabSize text)).outcome =
        (m.indentLines text).outcome := by
  obtain ⟨hrules, rfl⟩ := rules_config_of_modeWith hm
  have hlines := lines_expandIndentation m.config.tabSize text
  have hadvance : ∀ line ∈ lines text, ∀ d number,
      (m.advanceLine d number (expandLine m.config.tabSize line)).outcome =
        (m.advanceLine d number line).outcome := by
    intro line hline d number
    have hnewline := newline_not_mem_of_mem_lines hline
    exact outcome_advanceLine_of_sameIndent hrules hmarker (sameIndent_expandLine _ line)
      (newline_not_mem_expandLine _ hnewline) hnewline d number
  refine ⟨hlines, ?_, ?_⟩
  · rw [Mode.reparse, hlines, Mode.outcome_advanceLines_map hadvance, Mode.reparse]
  · rw [Mode.indentLines, hlines, Mode.outcome_indentLinesFrom_map hadvance, Mode.indentLines]
    intro line _ d
    exact m.indent_of_sameIndent (sameIndent_expandLine _ line) d

/-- Tab stops every three columns; tabs after the indentation, a wide character, a line of blanks,
an empty one, and a continuation that aligns after a function marker. -/
theorem Equelle.reparse_expandIndentation_tabs :
    let config := { Config.standard with tabSize := 3 }
    let text := " \t中\tFunction \x7b\r\n \t \n\t g : Function\t...\n\n\t\tz \x7d".toList
    let expanded := "   中\tFunction \x7b\r\n    \n    g : Function\t...\n\n      z \x7d".toList
    ∃ m, modeWith config = .ok m ∧ expandIndentation 3 text = expanded ∧
      (m.indentLines expanded).outcome = .ok [0, 5, 4, 16, 16] ∧
      (m.indentLines text).outcome = .ok [0, 5, 4, 16, 16] := by
  intro config text expanded
  let m : Mode := ⟨entries.map Rule.ofEntry, styles, config⟩
  have hm : modeWith config = .ok m := by
    rw [modeWith, rules_eq]
    rfl
  have hexpand : expandIndentation 3 text = expanded := by decide +kernel
  have hcolumns : (m.indentLines text).outcome = .ok [0, 5, 4, 16, 16] := by decide +kernel
  obtain ⟨-, -, hsame⟩ := reparse_expandIndentation hm rfl text
  refine ⟨m, hm, hexpand, ?_, hcolumns⟩
  rw [← hexpand, ← hcolumns]
  exact hsame

end EditorMode
