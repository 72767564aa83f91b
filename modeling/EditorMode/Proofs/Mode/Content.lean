import EditorMode.Proofs.Mode

/-!
# What counts in a document

Two documents give the same indentation if they have the same `Text.content`: their lines without
the carriage returns at the ends, as far as anything is left of them.  So neither the kind of line
ending nor the number of blank lines matters (`Mode.reparse_eq_of_content_eq`).

Blank lines do change the numbers of the lines after them, and every token has the number of its
line.  The rules must not make anything of that number but put it into the token.  Then a line with
another number has the same tokens but for the number (`plainTokens_onLine`), and the number is
nothing that a tracker looks at (`Tracker.outcome_trackRun_onLine`).
-/

set_option autoImplicit false

namespace EditorMode

open Text

/-! ## Content -/

namespace Text

/-- A line without the carriage returns at its end. -/
def trimReturns (line : List Char) : List Char := line.rdropWhile (· == '\r')

/-- What is left of a list of lines without the carriage returns at their ends. -/
def content (text : List Char) : List (List Char) :=
  ((lines text).map trimReturns).filter (· ≠ [])

/-- Within a document carriage returns are all that a line can have of a line ending. -/
theorem trimReturns_eq_trimEnding {line : List Char} (h : '\n' ∉ line) :
    trimReturns line = trimEnding line := by
  rw [trimReturns, trimEnding_eq_rdropWhile]
  induction line using List.reverseRecOn with
  | nil => rfl
  | append_singleton line c ih =>
    rw [List.mem_append, not_or, List.mem_singleton] at h
    have hc : isEnding c = (c == '\r') := by simp [isEnding, Ne.symm h.2]
    rw [List.rdropWhile_concat, List.rdropWhile_concat, ih h.1, hc]

theorem content_eq (text : List Char) :
    content text = ((lines text).map trimEnding).filter (· ≠ []) := by
  rw [content, List.map_congr_left fun line hline =>
    trimReturns_eq_trimEnding (newline_not_mem_of_mem_lines hline)]

theorem trimEnding_trimEnding (line : List Char) :
    trimEnding (trimEnding line) = trimEnding line :=
  List.rdropWhile_idempotent _ _

end Text

/-! ## Line numbers -/

/-- The token on another line. -/
def Token.onLine (t : Token) (number : Nat) : Token := { t with line := number }

/-- The cursor on another line. -/
def Cursor.onLine (c : Cursor) (number : Nat) : Cursor := { c with line := number }

/-- The tokens and the cursor on another line. -/
def LineTokens.onLine (read : LineTokens) (number : Nat) : LineTokens :=
  ⟨read.tokens.map (·.onLine number), read.stop.map (·.onLine number)⟩

section OnLine

variable {number : Nat}

theorem LineTokens.onLine_emit (token : Except Fault Token) (more : LineTokens) :
    (emit token more).onLine number = emit (token.map (·.onLine number)) (more.onLine number) := by
  cases token <;> rfl

theorem Cursor.place_onLine (c : Cursor) (token : Token) :
    (c.onLine number).place (token.onLine number) = (c.place token).map (·.onLine number) := by
  show c.column.map _ = (c.column.map _).map _
  cases c.column <;> rfl

theorem Cursor.errorToken_onLine (c : Cursor) :
    (c.onLine number).errorToken = c.errorToken.map (·.onLine number) :=
  c.place_onLine (.new .error (c.rest.take 1) c.line)

theorem continued_onLine (marker : String) (token : Token) :
    continued marker (token.onLine number) = (continued marker token).onLine number := by
  show (if marker.toList ≠ [] ∧ marker.toList <+: token.text then _ else _) = _
  rw [continued]
  split <;> rfl

variable {rules : List Rule} {s : Selection} {rest : List Char}

theorem KeepText.action_onLine (hrules : KeepText rules) (hselect : select rules rest = some s)
    (text : List Char) (line : Nat) :
    s.rule.action text number = (s.rule.action text line).onLine number := by
  obtain ⟨⟨kind, hkind⟩, -⟩ := hrules.action_of_select hselect
  rw [hkind]
  rfl

theorem KeepText.endToken_onLine (hrules : KeepText rules) {c : Cursor} (hrest : c.rest = []) :
    (c.onLine number).endToken rules = (c.endToken rules).map (·.onLine number) := by
  rw [hrules.endToken_eq hrest, hrules.endToken_eq (show (c.onLine number).rest = [] from hrest),
    ← c.place_onLine]
  rfl

/-- The tokens of a line know its number but do not depend on it. -/
theorem plainTokens_onLine (hrules : KeepText rules) (marker : String) (ended : Bool) (c : Cursor) :
    plainTokens rules marker ended (c.onLine number) =
      (plainTokens rules marker ended c).onLine number := by
  fun_induction plainTokens rules marker ended c with
  | case1 c hrest => exact plainTokens_of_ended hrest
  | case2 ended c hrest hended =>
    obtain rfl : ended = false := by simpa using hended
    rw [LineTokens.onLine_emit, ← hrules.endToken_onLine hrest]
    exact plainTokens_at_end hrest
  | case3 ended c hrest hselect ih =>
    rw [LineTokens.onLine_emit, ← c.errorToken_onLine, ← ih]
    exact plainTokens_of_unmatched ended hrest hselect
  | case4 ended c hrest s hselect htext ih =>
    rw [LineTokens.onLine_emit, LineTokens.onLine_emit, ← c.errorToken_onLine, ← ih,
      ← c.place_onLine, ← hrules.action_onLine hselect]
    exact plainTokens_of_empty ended hrest hselect htext
  | case5 ended c hrest s hselect htext token ih =>
    have htoken : continued marker (s.rule.action s.text number) = token.onLine number := by
      rw [hrules.action_onLine hselect s.text c.line, continued_onLine]
    rw [LineTokens.onLine_emit, ← c.place_onLine, ← ih]
    refine (plainTokens_of_matched (c := c.onLine number) ended hrest hselect htext).trans ?_
    show LineTokens.emit ((c.onLine number).place (continued marker (s.rule.action s.text number)))
      (plainTokens _ _ (continued marker (s.rule.action s.text number)).kind.endsLine _) = _
    rw [htoken]
    rfl

end OnLine

theorem Tracker.outcome_trackRun_onLine (t : Tracker) (d : Document) (number indentation : Nat)
    (tokens : List Token) :
    (t.trackRun d (tokens.map fun token => (token.onLine number, indentation))).outcome =
      (t.trackRun d (tokens.map (·, indentation))).outcome := by
  induction tokens generalizing d with
  | nil => rfl
  | cons token tokens ih =>
    have hstep : t.step d (token.onLine number) indentation = t.step d token indentation := rfl
    simp [trackRun, hstep, ih]

namespace Mode

section Content

variable {m : Mode} (hrules : KeepText m.rules)

include hrules

/-- The number of a line makes no difference to the state. -/
theorem outcome_advanceLine_onLine (d : Document) (number line : Nat) (text : List Char) :
    (m.advanceLine d number text).outcome = (m.advanceLine d line text).outcome := by
  have hplain : (m.scan number text).scan.plain = (m.scan line text).scan.plain.onLine number := by
    rw [scan, scan, LineScan.plain_scan hrules.keepEmpty, LineScan.plain_scan hrules.keepEmpty]
    exact plainTokens_onLine hrules _ _ (Cursor.start text line m.config.tabSize)
  have hindentation : (m.scan number text).cursor.indentation =
      (m.scan line text).cursor.indentation := rfl
  rw [outcome_advanceLine, outcome_advanceLine, hplain, hindentation]
  refine bind_congr fun indentation => ?_
  simp only [LineTokens.onLine, List.map_map, Function.comp_def, Tracker.outcome_trackRun_onLine]
  refine bind_congr fun e => ?_
  cases (m.scan line text).scan.plain.stop <;> rfl

/-- The state of a document depends on what is left of its lines without their line endings. -/
theorem outcome_advanceLines (d : Document) (line : Nat) (texts : List (List Char)) :
    (m.advanceLines d line texts).outcome =
      ((texts.map trimEnding).filter (· ≠ [])).foldlM
        (fun d text => (m.advanceLine d 0 text).outcome) d := by
  induction texts generalizing d line with
  | nil => rfl
  | cons text texts ih =>
    by_cases htext : trimEnding text = []
    · simp [advanceLines, m.advanceLine_of_blank _ _ htext, htext, ih]
    · have hline : (m.advanceLine d (line % offsetBound) text).outcome =
          (m.advanceLine d 0 (trimEnding text)).outcome := by
        rw [m.advanceLine_congr d 0 (trimEnding_trimEnding text)]
        exact outcome_advanceLine_onLine hrules d _ 0 text
      simp [advanceLines, htext, hline, ih]

end Content

/-- **What counts in a document.**  Documents that differ in line endings and blank lines only have
the same state, and so the same suggestions for whatever line comes next. -/
theorem reparse_eq_of_content_eq {m : Mode} (hrules : KeepText m.rules) {s t : List Char}
    (h : content s = content t) :
    (m.reparse s).outcome = (m.reparse t).outcome ∧
      ∀ next, ((m.reparse s).outcome >>= (m.indent · next)) =
        ((m.reparse t).outcome >>= (m.indent · next)) := by
  have hstate : (m.reparse s).outcome = (m.reparse t).outcome := by
    rw [reparse, reparse, outcome_advanceLines hrules, outcome_advanceLines hrules, ← content_eq,
      ← content_eq, h]
  exact ⟨hstate, fun next => by rw [hstate]⟩

/-- A block opened on the first line, with and without blank lines and carriage returns after it. -/
theorem reparse_blank_lines :
    let m : Mode := ⟨[.literal "\x7b" .blockOpen], .empty, .standard⟩
    let s := "f \x7b\r\n\r\n\n  g\r\r".toList
    let t := "f \x7b\n  g\n".toList
    KeepText m.rules ∧ content s = content t ∧ s ≠ t ∧
      (m.reparse s).outcome = .ok ⟨1, [0, 2], false, true, false, 0⟩ := by
  intro m s t
  have hrules : KeepText m.rules := by
    intro rule hrule
    obtain rfl := List.mem_singleton.1 hrule
    exact ⟨_, _, rfl⟩
  have hcontent : content s = content t := by decide
  refine ⟨hrules, hcontent, by decide, ?_⟩
  rw [(reparse_eq_of_content_eq hrules hcontent).1]
  decide +kernel

end Mode

end EditorMode
