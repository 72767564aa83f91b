import EditorMode.Mode
import EditorMode.Proofs.Line.Ending
import EditorMode.Proofs.Text.Lines
import EditorMode.Proofs.Tracking

/-!
# Documents line by line

What a mode does to a document, one line after the other.

* A line counts without its line ending: lines that differ in it only are the same to a mode
  (`Mode.advanceLine_congr`), and a line of which nothing else is left changes nothing
  (`Mode.advanceLine_of_blank`).
* The outcome of a line is that of its tokens, tracked with the indentation of the line
  (`Mode.outcome_scanLine`).
* Lines can be taken in two parts (`Mode.advanceLines_append`).  Together with the first point this
  lets a document be read by its pieces between newlines (`Mode.reparse_eq_advanceLines_pieces`).
-/

set_option autoImplicit false

namespace EditorMode

open Text

@[simp]
theorem Logged.outcome_map {α β : Type} (g : α → β) (x : Logged α) :
    (g <$> x).outcome = g <$> x.outcome := by
  rw [map_eq_pure_bind, outcome_bind]
  cases x.outcome <;> rfl

namespace Mode

/-! ## One line -/

section Line

variable (m : Mode) (d : Document) (line : Nat)

theorem scan_congr {s t : List Char} (h : trimEnding s = trimEnding t) :
    m.scan line s = m.scan line t := by
  rw [scan, scan, Cursor.start, Cursor.start, h]

theorem scanLine_congr {s t : List Char} (h : trimEnding s = trimEnding t) :
    m.scanLine d line s = m.scanLine d line t := by
  rw [scanLine, scanLine, m.scan_congr line h]

theorem advanceLine_congr {s t : List Char} (h : trimEnding s = trimEnding t) :
    m.advanceLine d line s = m.advanceLine d line t := by
  rw [advanceLine, advanceLine, m.scanLine_congr d line h]

/-- A line with nothing but its line ending has no tokens, whatever the rules are. -/
theorem scan_of_blank {text : List Char} (h : trimEnding text = []) :
    (m.scan line text).scan = ⟨[], .ok (m.scan line text)⟩ :=
  LineScan.scan_of_text_eq_nil _ _ h

theorem scanLine_of_blank {text : List Char} (h : trimEnding text = []) :
    m.scanLine d line text = pure (d, []) := by
  have hindentation : (m.scan line text).cursor.indentation = .ok 0 := by
    show indentationWidth (trimEnding text) _ = .ok 0
    rw [h]
    rfl
  rw [scanLine]
  simp only [hindentation, m.scan_of_blank line h]
  rfl

/-- A line without text leaves the document as it is. -/
theorem advanceLine_of_blank {text : List Char} (h : trimEnding text = []) :
    m.advanceLine d line text = pure d := by
  rw [advanceLine, m.scanLine_of_blank d line h, pure_bind]

/-! ## The outcome of a line -/

theorem outcome_trackSteps (indentation : Nat) (steps : List Step) :
    (m.trackSteps indentation d steps).outcome =
      (m.tracker.trackRun d (steps.map fun s => (s.token, indentation))).outcome := by
  induction steps generalizing d with
  | nil => rfl
  | cons s steps ih => simp [trackSteps, Tracker.trackRun, ih]

/-- The outcome of a line is that of its tokens, each with the indentation of the line. -/
theorem outcome_scanLine (text : List Char) :
    (m.scanLine d line text).outcome = do
      let indentation ← (m.scan line text).cursor.indentation
      let read := (m.scan line text).scan.plain
      let d ← (m.tracker.trackRun d (read.tokens.map (·, indentation))).outcome
      let _ ← read.stop
      return (d, read.tokens) := by
  simp only [scanLine, Logged.outcome_bind, Logged.outcome_ofExcept, outcome_trackSteps,
    LineScan.Scanned.plain, List.map_map, Function.comp_def, Logged.outcome_pure]
  cases (m.scan line text).scan.outcome <;> rfl

/-- Advancing the state does what scanning the line does, without keeping the tokens. -/
theorem outcome_advanceLine (text : List Char) :
    (m.advanceLine d line text).outcome = do
      let indentation ← (m.scan line text).cursor.indentation
      let read := (m.scan line text).scan.plain
      let d ← (m.tracker.trackRun d (read.tokens.map (·, indentation))).outcome
      let _ ← read.stop
      return d := by
  simp [advanceLine, outcome_scanLine]

/-- A line can be tracked if its tokens can be read and can be tracked. -/
theorem outcome_advanceLine_eq_ok_iff {text : List Char} {e : Document} :
    (m.advanceLine d line text).outcome = .ok e ↔
      ∃ found indentation, (m.tokens line text).outcome = .ok found ∧
        (m.scan line text).cursor.indentation = .ok indentation ∧
        (m.tracker.trackRun d (found.map (·, indentation))).outcome = .ok e := by
  simp only [outcome_advanceLine, tokens, LineScan.Scanned.plain, bind_eq_ok_iff, map_eq_ok_iff,
    pure, Except.pure, Except.ok.injEq]
  constructor
  · rintro ⟨indentation, hindentation, e, he, _, ⟨stop, hstop, -⟩, rfl⟩
    exact ⟨_, indentation, ⟨stop, hstop, rfl⟩, hindentation, he⟩
  · rintro ⟨_, indentation, ⟨stop, hstop, rfl⟩, hindentation, he⟩
    exact ⟨indentation, hindentation, e, he, _, ⟨stop, hstop, rfl⟩, rfl⟩

end Line

/-! ## Many lines -/

section Lines

variable (m : Mode) (d : Document) (line : Nat)

/-- The lines can be taken in two parts, the second one from the document after the first. -/
theorem advanceLines_append (early late : List (List Char)) :
    m.advanceLines d line (early ++ late) =
      m.advanceLines d line early >>= (m.advanceLines · (line + early.length) late) := by
  induction early generalizing d line with
  | nil => simp [advanceLines]
  | cons text early ih => simp [advanceLines, ih, Nat.add_assoc, Nat.add_comm 1]

theorem advanceLines_of_blank {texts : List (List Char)}
    (h : ∀ text ∈ texts, trimEnding text = []) : m.advanceLines d line texts = pure d := by
  induction texts generalizing line with
  | nil => rfl
  | cons text texts ih =>
    rw [List.forall_mem_cons] at h
    rw [advanceLines, m.advanceLine_of_blank _ _ h.1, pure_bind, ih _ h.2]

/-- The lines of pieces move a document as the pieces themselves do. -/
theorem advanceLines_linesOfPieces (pieces : List (List Char)) :
    m.advanceLines d line (linesOfPieces pieces) = m.advanceLines d line pieces := by
  fun_induction linesOfPieces pieces generalizing d line with
  | case1 => rfl
  | case2 last hlast =>
    -- a last piece that is empty is no line
    obtain rfl := List.isEmpty_iff.1 hlast
    exact (m.advanceLines_of_blank d line (List.forall_mem_singleton.2 rfl)).symm
  | case3 => rfl
  | case4 piece next rest ih =>
    rw [advanceLines, advanceLines, m.advanceLine_congr _ _ (trimEnding_dropReturn piece)]
    exact bind_congr fun d => ih d (line + 1)

/-- A text can be parsed by its pieces between newlines, instead of its lines. -/
theorem reparse_eq_advanceLines_pieces (text : List Char) :
    m.reparse text = m.advanceLines .start 0 (newlinePieces text) :=
  m.advanceLines_linesOfPieces .start 0 _

end Lines

end Mode

end EditorMode
