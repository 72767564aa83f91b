import EditorMode.Proofs.Mode

/-!
# Going on from a known state

The state of a document can be computed from its start (`Mode.reparse`), or line by line from a
state that is known already.  Both give the same state, wherever the document is cut at a newline
and in whichever way the lines are threaded (`Mode.reparse_eq_threadLines`).  The same holds for
suggestions: the one for a line is that of the state before the line.

The cut is not innocent.  At the end of a text a carriage return is part of the last line, and an
empty piece is no line at all; before a newline the carriage return is dropped and the empty piece
is a line, which counts in the numbers of the lines after it.
-/

set_option autoImplicit false

namespace EditorMode

open Text

/-! ## Threading lines -/

/-- Moves the state of a document along lines, the first of which has the number `line`, by a
function that is given each line with its number. -/
def threadLines (step : Document → Nat → List Char → Logged Document) (d : Document) (line : Nat) :
    List (List Char) → Logged Document
  | [] => pure d
  | text :: rest => do
    let d ← step d (line % offsetBound) text
    threadLines step d (line + 1) rest

/-- Threading succeeds alike if each line does. -/
theorem outcome_threadLines_eq_ok_iff {step other : Document → Nat → List Char → Logged Document}
    (h : ∀ d line text e,
      (step d line text).outcome = .ok e ↔ (other d line text).outcome = .ok e)
    (d : Document) (line : Nat) (texts : List (List Char)) (e : Document) :
    (threadLines step d line texts).outcome = .ok e ↔
      (threadLines other d line texts).outcome = .ok e := by
  induction texts generalizing d line with
  | nil => rfl
  | cons text texts ih =>
    simp only [threadLines, Logged.outcome_bind, bind_eq_ok_iff, h, ih]

namespace Mode

section Steps

variable (m : Mode) (d : Document) (line : Nat) (text : List Char)

/-- Moves the state of a document along a line whose tokens are highlighted. -/
def threadHighlighted : Logged Document := Prod.fst <$> m.highlightLine d line text

/-- Reads the tokens of a line first, and then moves the state of a document along them. -/
def threadTokens : Logged Document := do
  let tokens ← m.tokens line text
  let indentation ← Logged.ofExcept (m.scan line text).cursor.indentation
  m.tracker.trackRun d (tokens.map (·, indentation))

theorem threadHighlighted_eq : m.threadHighlighted d line text = m.advanceLine d line text := by
  simp [threadHighlighted, highlightLine, advanceLine]

/-- Whether the tokens of a line are tracked one by one or all at the end makes no difference to the
state.  It may make one to the reason why the line breaks off. -/
theorem outcome_threadTokens_eq_ok_iff (e : Document) :
    (m.threadTokens d line text).outcome = .ok e ↔
      (m.advanceLine d line text).outcome = .ok e := by
  simp only [threadTokens, outcome_advanceLine_eq_ok_iff, Logged.outcome_bind,
    Logged.outcome_ofExcept, bind_eq_ok_iff, exists_and_left]

end Steps

section Lines

variable (m : Mode) (d : Document) (line : Nat)

theorem advanceLines_eq_threadLines (texts : List (List Char)) :
    m.advanceLines d line texts = threadLines m.advanceLine d line texts := by
  induction texts generalizing d line with
  | nil => rfl
  | cons text texts ih => simp only [advanceLines, threadLines, ih]

/-! ## Cutting and joining -/

/-- A document is the part before a newline and the lines after it. -/
theorem reparse_append_newline (a b : List Char) :
    m.reparse (a ++ '\n' :: b) =
      m.reparse a >>= (m.advanceLines · (1 + a.count '\n') (lines b)) := by
  rw [reparse_eq_advanceLines_pieces, newlinePieces_append_newline, advanceLines_append,
    reparse_eq_advanceLines_pieces, length_newlinePieces, Nat.zero_add]
  exact bind_congr fun d => (m.advanceLines_linesOfPieces d _ _).symm

/-- Lines can be joined by newlines. -/
theorem reparse_intercalate {texts : List (List Char)} (h : ∀ text ∈ texts, '\n' ∉ text) :
    m.reparse (['\n'].intercalate texts) = m.advanceLines .start 0 texts := by
  rw [reparse_eq_advanceLines_pieces]
  rcases texts with _ | ⟨text, texts⟩
  · -- nothing is one empty piece
    exact m.advanceLines_of_blank .start 0 (List.forall_mem_singleton.2 rfl)
  · rw [newlinePieces_intercalate (List.cons_ne_nil _ _) h]

/-! ## Suggestions -/

/-- The suggestion for each line, by the state after the lines before it. -/
def suggestions (texts : List (List Char)) : List (Except Fault Nat) :=
  texts.mapIdx fun i text => (m.advanceLines d line (texts.take i)).outcome >>= (m.indent · text)

theorem suggestions_cons {text : List Char} {e : Document}
    (h : (m.advanceLine d (line % offsetBound) text).outcome = .ok e) (texts : List (List Char)) :
    m.suggestions d line (text :: texts) =
      m.indent d text :: m.suggestions e (line + 1) texts := by
  simp [suggestions, List.mapIdx_cons, advanceLines, h]

theorem length_suggestions (texts : List (List Char)) :
    (m.suggestions d line texts).length = texts.length :=
  List.length_mapIdx

/-- Suggestions for more lines go on from the state after the lines before them. -/
theorem suggestions_append {early : List (List Char)} {e : Document}
    (h : (m.advanceLines d line early).outcome = .ok e) (late : List (List Char)) :
    m.suggestions d line (early ++ late) =
      m.suggestions d line early ++ m.suggestions e (line + early.length) late := by
  induction early generalizing d line with
  | nil =>
    obtain rfl := Except.ok.inj h
    rfl
  | cons text early ih =>
    rw [advanceLines, Logged.outcome_bind, bind_eq_ok_iff] at h
    obtain ⟨next, hnext, hearly⟩ := h
    rw [List.cons_append, m.suggestions_cons d line hnext, m.suggestions_cons d line hnext,
      ih _ _ hearly, List.cons_append, List.length_cons, Nat.add_assoc, Nat.add_comm 1]

/-- Suggestions for all lines are made if each can be made and the last line can be tracked. -/
theorem outcome_indentLinesFrom_eq_ok_iff {texts : List (List Char)} {columns : List Nat} :
    (m.indentLinesFrom d line texts).outcome = .ok columns ↔
      (∃ e, (m.advanceLines d line texts).outcome = .ok e) ∧
        m.suggestions d line texts = columns.map .ok := by
  induction texts generalizing d line columns with
  | nil => simp [indentLinesFrom, advanceLines, suggestions, eq_comm]
  | cons text texts ih =>
    simp only [indentLinesFrom, advanceLines, Logged.outcome_bind, Logged.outcome_ofExcept,
      Logged.outcome_pure, bind_eq_ok_iff, Except.ok.injEq]
    constructor
    · rintro ⟨column, hcolumn, e, he, columns, hcolumns, rfl⟩
      obtain ⟨⟨last, hlast⟩, hrest⟩ := (ih e (line + 1)).1 hcolumns
      rw [m.suggestions_cons d line he, hcolumn, hrest, List.map_cons]
      exact ⟨⟨last, e, he, hlast⟩, rfl⟩
    · rintro ⟨⟨last, e, he, hlast⟩, hall⟩
      rw [m.suggestions_cons d line he] at hall
      rcases columns with _ | ⟨column, columns⟩
      · simp at hall
      · rw [List.map_cons, List.cons.injEq] at hall
        exact ⟨column, hall.1, e, he, columns, (ih e (line + 1)).2 ⟨⟨last, hlast⟩, hall.2⟩, rfl⟩

end Lines

/-- **Going on from a known state.**  The state of a document is that of its part before a newline,
threaded through the lines after the newline with their numbers in the document, in any of three
ways: by plain or by highlighted lines, with the same log, or by first reading the tokens of each
line.  And all suggestions for a document can be made if and only if the document can be read and
the suggestion for each line can be made from the lines before it, joined by newlines; then they are
the same. -/
theorem reparse_eq_threadLines (m : Mode) :
    (∀ a b : List Char,
      let threaded step := m.reparse a >>= (threadLines step · (1 + a.count '\n') (lines b))
      m.reparse (a ++ '\n' :: b) = threaded m.advanceLine ∧
        m.reparse (a ++ '\n' :: b) = threaded m.threadHighlighted ∧
        ∀ e, (m.reparse (a ++ '\n' :: b)).outcome = .ok e ↔
          (threaded m.threadTokens).outcome = .ok e) ∧
      ∀ (text : List Char) (columns : List Nat),
        (m.indentLines text).outcome = .ok columns ↔
          (∃ e, (m.reparse text).outcome = .ok e) ∧ columns.length = (lines text).length ∧
            ((lines text).mapIdx fun i line =>
              (m.reparse (['\n'].intercalate ((lines text).take i))).outcome >>=
                (m.indent · line)) = columns.map .ok := by
  refine ⟨fun a b => ?_, fun text columns => ?_⟩
  · intro threaded
    have hplain : m.reparse (a ++ '\n' :: b) = threaded m.advanceLine := by
      rw [reparse_append_newline]
      exact bind_congr fun d => m.advanceLines_eq_threadLines d _ _
    have hsame : m.threadHighlighted = m.advanceLine := by
      funext d line text
      exact m.threadHighlighted_eq d line text
    refine ⟨hplain, by rw [hsame, hplain], fun e => ?_⟩
    simp only [hplain, threaded, Logged.outcome_bind, bind_eq_ok_iff,
      outcome_threadLines_eq_ok_iff m.outcome_threadTokens_eq_ok_iff]
  · have hjoin : ∀ i, m.reparse (['\n'].intercalate ((lines text).take i)) =
        m.advanceLines .start 0 ((lines text).take i) :=
      fun i => m.reparse_intercalate fun line hline =>
        newline_not_mem_of_mem_lines (List.mem_of_mem_take hline)
    simp only [hjoin]
    rw [indentLines, outcome_indentLinesFrom_eq_ok_iff]
    refine and_congr_right fun _ => ⟨fun h => ⟨?_, h⟩, fun h => h.2⟩
    simpa [suggestions] using (congrArg List.length h).symm

end Mode

end EditorMode
