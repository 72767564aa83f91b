import EditorMode.Line
import EditorMode.Proofs.Selection

/-!
# The tokens of a line, without state

A `LineScan` gives one token for each call and has to remember what it did before: whether the last
token had no text, whether it ended the line, whether the end of the line has been reported.
`plainTokens` gives the tokens of a line by recursion over the places of the line, with none of
this.  Both give the same tokens (`LineScan.plain_run`), provided that the rules make a token
without text of a match without characters.
-/

set_option autoImplicit false

namespace EditorMode

open Text

/-! ## Columns and cursors

The cursor carries the column of its place, or the fault that counting the columns ran into.  A
token can be given only where the column is known. -/

/-- A column can only be too large. -/
theorem columnNext_fault {tab column : Nat} {c : Char} {fault : Fault}
    (h : columnNext tab column c = .error fault) : fault = .overflow := by
  rw [columnNext] at h
  split at h
  · cases hsum : addBelow columnBound column tab with
    | error other =>
      rw [hsum] at h
      exact (Except.error.inj h) ▸ addBelow_fault hsum
    | ok sum =>
      rw [hsum] at h
      cases h
  · exact addBelow_fault h

/-- Columns break off for one reason only. -/
theorem columnAfter_fault {tab column : Nat} {text : List Char} {fault : Fault}
    (h : columnAfter tab column text = .error fault) : fault = .overflow := by
  induction text generalizing column with
  | nil => cases h
  | cons c text ih =>
    rw [columnAfter_cons] at h
    cases hnext : columnNext tab column c with
    | error other =>
      rw [hnext] at h
      exact (Except.error.inj h) ▸ columnNext_fault hnext
    | ok column =>
      rw [hnext] at h
      exact ih h

namespace Cursor

@[simp]
theorem rest_advance (c : Cursor) (count : Nat) : (c.advance count).rest = c.rest.drop count := rfl

theorem position_advance (c : Cursor) (count : Nat) :
    (c.advance count).position = c.position + byteLength (c.rest.take count) := rfl

theorem advance_zero (c : Cursor) : c.advance 0 = c := by
  obtain ⟨line, tabSize, behind, rest, position, column, hposition, hcolumn⟩ := c
  have hbind : (column >>= (columnAfter (max tabSize 1) · [])) = column := by
    cases column <;> rfl
  simp only [advance, List.take_zero, List.reverse_nil, List.nil_append, List.drop_zero,
    byteLength_nil, Nat.add_zero, hbind]

/-! Advancing by a character at least leaves less of the line, and leads to a new position.  The
first is why the recursion ends, the second why a scan that has moved on is not stalled. -/

theorem length_rest_advance_lt {c : Cursor} (hrest : c.rest ≠ []) {count : Nat}
    (hcount : 0 < count) : (c.advance count).rest.length < c.rest.length := by
  have := List.length_pos_iff.2 hrest
  rw [rest_advance, List.length_drop]
  omega

theorem position_lt_position_advance {c : Cursor} (hrest : c.rest ≠ []) {count : Nat}
    (hcount : 0 < count) : c.position < (c.advance count).position := by
  have hne : c.rest.take count ≠ [] := by
    rw [Ne, List.take_eq_nil_iff, not_or]
    exact ⟨by omega, hrest⟩
  have := mt byteLength_eq_zero_iff.1 hne
  rw [position_advance]
  omega

/-- The end of the line is at its length. -/
theorem position_of_rest_eq_nil (c : Cursor) (hrest : c.rest = []) :
    c.position = byteLength c.text := by
  rw [text, hrest, List.append_nil]
  exact c.position_eq

/-- The token at the place of the cursor. -/
def place (c : Cursor) (token : Token) : Except Fault Token :=
  c.column.map (token.placed c.offset ·)

/-- A placed token is the token, with the place of the cursor. -/
theorem exists_of_place {c : Cursor} {token placed : Token} (h : c.place token = .ok placed) :
    ∃ column, c.column = .ok column ∧ placed = token.placed c.offset column := by
  rw [place] at h
  cases hcolumn : c.column with
  | error fault =>
    rw [hcolumn] at h
    cases h
  | ok column =>
    rw [hcolumn] at h
    exact ⟨column, rfl, (Except.ok.inj h).symm⟩

/-- A token has no place if the columns of the line are too large. -/
theorem columnAfter_eq_error_of_place {c : Cursor} {token : Token} {fault : Fault}
    (h : c.place token = .error fault) :
    columnAfter (max c.tabSize 1) 0 c.text = .error fault := by
  have hcolumn : c.column = .error fault := by
    rw [place] at h
    cases hc : c.column with
    | error other =>
      rw [hc] at h
      exact congrArg _ (Except.error.inj h)
    | ok column =>
      rw [hc] at h
      cases h
  rw [c.column_eq] at hcolumn
  rw [text, before, columnAfter_append, hcolumn]
  rfl

/-- The error token of the next character. -/
def errorToken (c : Cursor) : Except Fault Token :=
  c.place (.new .error (c.rest.take 1) c.line)

/-- The token at the end of the line, which may come from a rule. -/
def endToken (rules : List Rule) (c : Cursor) : Except Fault Token :=
  c.place <|
    match select rules c.rest with
    | none => .new .endOfLine [] c.line
    | some s =>
      let token := s.rule.action s.text c.line
      if token.kind = .endOfLine then token else .new .endOfLine [] c.line

end Cursor

/-! ## Tokens by recursion

All that has to be known of the tokens before a place is whether the last one ends the line, and it
matters only at the end of the line. -/

/-- The tokens of a line, as far as they could be read, and the cursor after them or the fault that
the reading ran into. -/
structure LineTokens where
  tokens : List Token
  stop : Except Fault Cursor

/-- One more token before the others, unless there is a fault. -/
def LineTokens.emit (token : Except Fault Token) (more : LineTokens) : LineTokens :=
  match token with
  | .error fault => ⟨[], .error fault⟩
  | .ok token => ⟨token :: more.tokens, more.stop⟩

/-- The token, as a line continuation if it starts with the marker. -/
def continued (marker : String) (token : Token) : Token :=
  if marker.toList ≠ [] ∧ marker.toList <+: token.text then
    { token with kind := .lineContinuation }
  else token

/-- A token without text does not start with the marker. -/
theorem continued_of_text_eq_nil {token : Token} (h : token.text = []) (marker : String) :
    continued marker token = token := by
  refine if_neg fun hmarker => hmarker.1 ?_
  rw [h] at hmarker
  exact List.prefix_nil.1 hmarker.2

/-- The tokens after the cursor; `ended` says whether the token before it ends the line. -/
def plainTokens (rules : List Rule) (marker : String) (ended : Bool) (c : Cursor) : LineTokens :=
  if _ : c.rest = [] then
    if ended then ⟨[], .ok c⟩ else .emit (c.endToken rules) ⟨[], .ok c⟩
  else
    match select rules c.rest with
    | none => .emit c.errorToken (plainTokens rules marker false (c.advance 1))
    | some s =>
      if _ : s.text = [] then
        .emit (c.place (s.rule.action [] c.line))
          (.emit c.errorToken (plainTokens rules marker false (c.advance 1)))
      else
        let token := continued marker (s.rule.action s.text c.line)
        .emit (c.place token)
          (plainTokens rules marker token.kind.endsLine (c.advance s.text.length))
termination_by c.rest.length
decreasing_by
  · exact Cursor.length_rest_advance_lt ‹_› Nat.one_pos
  · exact Cursor.length_rest_advance_lt ‹_› Nat.one_pos
  · exact Cursor.length_rest_advance_lt ‹_› (List.length_pos_iff.2 ‹_›)

section Emit

variable {token : Except Fault Token} {more : LineTokens}

theorem length_emit_le : (LineTokens.emit token more).tokens.length ≤ more.tokens.length + 1 := by
  cases token with
  | error fault => exact Nat.zero_le _
  | ok token => exact Nat.le_refl _

theorem stop_of_emit {c : Cursor} (h : (LineTokens.emit token more).stop = .ok c) :
    more.stop = .ok c := by
  cases token with
  | error fault => cases h
  | ok token => exact h

theorem stop_emit_eq_error {fault : Fault}
    (h : (LineTokens.emit token more).stop = .error fault) :
    token = .error fault ∨ more.stop = .error fault := by
  cases token with
  | error other => exact .inl (congrArg _ (Except.error.inj h))
  | ok token => exact .inr h

end Emit

section Plain

variable {rules : List Rule} {marker : String}

/-! What the recursion does in each of its cases. -/

section Equations

variable {c : Cursor} {s : Selection}

theorem plainTokens_of_ended (hrest : c.rest = []) :
    plainTokens rules marker true c = ⟨[], .ok c⟩ := by
  rw [plainTokens, dif_pos hrest, if_pos rfl]

theorem plainTokens_at_end (hrest : c.rest = []) :
    plainTokens rules marker false c = .emit (c.endToken rules) ⟨[], .ok c⟩ := by
  rw [plainTokens, dif_pos hrest, if_neg Bool.false_ne_true]

theorem plainTokens_of_unmatched (ended : Bool) (hrest : c.rest ≠ [])
    (hselect : select rules c.rest = none) :
    plainTokens rules marker ended c =
      .emit c.errorToken (plainTokens rules marker false (c.advance 1)) := by
  rw [plainTokens, dif_neg hrest, hselect]

theorem plainTokens_of_empty (ended : Bool) (hrest : c.rest ≠ [])
    (hselect : select rules c.rest = some s) (htext : s.text = []) :
    plainTokens rules marker ended c =
      .emit (c.place (s.rule.action [] c.line))
        (.emit c.errorToken (plainTokens rules marker false (c.advance 1))) := by
  rw [plainTokens, dif_neg hrest, hselect]
  exact dif_pos htext

theorem plainTokens_of_matched (ended : Bool) (hrest : c.rest ≠ [])
    (hselect : select rules c.rest = some s) (htext : s.text ≠ []) :
    plainTokens rules marker ended c =
      .emit (c.place (continued marker (s.rule.action s.text c.line)))
        (plainTokens rules marker (continued marker (s.rule.action s.text c.line)).kind.endsLine
          (c.advance s.text.length)) := by
  rw [plainTokens, dif_neg hrest, hselect]
  exact dif_neg htext

end Equations

/-- A character gives at most two tokens. -/
theorem length_plainTokens_le (ended : Bool) (c : Cursor) :
    (plainTokens rules marker ended c).tokens.length ≤ 2 * c.rest.length + 1 := by
  fun_induction plainTokens rules marker ended c with
  | case1 => exact Nat.zero_le _
  | case2 => exact Nat.le_trans length_emit_le (Nat.le_add_left 1 _)
  | case3 ended c hrest hselect ih =>
    have hlt := Cursor.length_rest_advance_lt hrest Nat.one_pos
    exact Nat.le_trans length_emit_le (by omega)
  | case4 ended c hrest s hselect htext ih =>
    -- The token without text and the error token of the character.
    have hlt := Cursor.length_rest_advance_lt hrest Nat.one_pos
    exact Nat.le_trans length_emit_le
      (Nat.succ_le_succ (Nat.le_trans length_emit_le (by omega)))
  | case5 ended c hrest s hselect htext token ih =>
    have hlt := Cursor.length_rest_advance_lt hrest (List.length_pos_iff.2 htext)
    exact Nat.le_trans length_emit_le (by omega)

/-- The tokens lead to the end of the line. -/
theorem stop_plainTokens {ended : Bool} {c stop : Cursor}
    (h : (plainTokens rules marker ended c).stop = .ok stop) :
    stop.rest = [] ∧ stop.text = c.text := by
  fun_induction plainTokens rules marker ended c with
  | case1 c hrest =>
    obtain rfl := Except.ok.inj h
    exact ⟨hrest, rfl⟩
  | case2 ended c hrest =>
    obtain rfl := Except.ok.inj (stop_of_emit h)
    exact ⟨hrest, rfl⟩
  | case3 ended c hrest hselect ih =>
    rw [← c.text_advance]
    exact ih (stop_of_emit h)
  | case4 ended c hrest s hselect htext ih =>
    rw [← c.text_advance]
    exact ih (stop_of_emit (stop_of_emit h))
  | case5 ended c hrest s hselect htext token ih =>
    rw [← c.text_advance]
    exact ih (stop_of_emit h)

/-- Only the columns of the line can be a reason to break off. -/
theorem columnAfter_eq_error_of_stop {ended : Bool} {c : Cursor} {fault : Fault}
    (h : (plainTokens rules marker ended c).stop = .error fault) :
    columnAfter (max c.tabSize 1) 0 c.text = .error fault := by
  fun_induction plainTokens rules marker ended c with
  | case1 => cases h
  | case2 =>
    rcases stop_emit_eq_error h with h | h
    · exact Cursor.columnAfter_eq_error_of_place h
    · cases h
  | case3 ended c hrest hselect ih =>
    rcases stop_emit_eq_error h with h | h
    · exact Cursor.columnAfter_eq_error_of_place h
    · exact (c.text_advance 1) ▸ ih h
  | case4 ended c hrest s hselect htext ih =>
    rcases stop_emit_eq_error h with h | h
    · exact Cursor.columnAfter_eq_error_of_place h
    rcases stop_emit_eq_error h with h | h
    · exact Cursor.columnAfter_eq_error_of_place h
    · exact (c.text_advance 1) ▸ ih h
  | case5 ended c hrest s hselect htext token ih =>
    rcases stop_emit_eq_error h with h | h
    · exact Cursor.columnAfter_eq_error_of_place h
    · exact (c.text_advance s.text.length) ▸ ih h

end Plain

/-! ## One call

Each branch of a call gives a token at the place of the cursor, or the fault of the columns, and a
scan to go on with.  The equations say so in the same form for all of them, so that the sequence of
calls can be followed without looking into a call again. -/

namespace LineScan

/-- The tokens and the cursor of what has been scanned. -/
def Scanned.plain (scanned : Scanned) : LineTokens :=
  ⟨scanned.steps.map Step.token, scanned.outcome.map LineScan.cursor⟩

section Next

variable {s : LineScan}

/-- The marker is looked for in the text only: a token that is a line continuation already stays as
it is. -/
theorem reclassify_eq (s : LineScan) (token : Token) :
    s.reclassify token = continued s.marker token := by
  rw [reclassify, continued, continues]
  by_cases hmarker : s.marker.toList ≠ [] ∧ s.marker.toList <+: token.text
  · rw [if_pos hmarker]
    by_cases hkind : token.kind = .lineContinuation
    · have hsame : { token with kind := .lineContinuation } = token := by rw [← hkind]
      rw [hsame, ite_self]
    · simp [hmarker, hkind]
  · rw [if_neg hmarker]
    refine if_neg fun h => hmarker ?_
    simp only [Bool.and_eq_true, Bool.not_eq_true', List.isEmpty_eq_false_iff,
      List.isPrefixOf_iff_prefix] at h
    exact h.1

/-- Where a token has its place does not matter for the marker. -/
theorem reclassify_placed (s : LineScan) (token : Token) (offset column : Nat) :
    s.reclassify (token.placed offset column) =
      (continued s.marker token).placed offset column := by
  rw [reclassify_eq, continued, continued]
  show (if s.marker.toList ≠ [] ∧ s.marker.toList <+: token.text then _ else _) = _
  split <;> rfl

theorem next_of_finished (h : s.finished = true) : s.next = .ok none := by
  rw [next, if_pos h]

theorem next_of_terminated (hend : s.cursor.rest = []) (h : s.terminated = true) :
    s.next = .ok none := by
  rw [next, Cursor.atEnd, hend, h]
  split <;> rfl

/-- Whether a token ends the line does not depend on its place. -/
theorem placed_endOfLine (token : Token) (line offset column : Nat) :
    (if (token.placed offset column).kind = .endOfLine then token.placed offset column
      else .endOfLine line offset column) =
      (if token.kind = .endOfLine then token
        else .new .endOfLine [] line).placed offset column := by
  by_cases h : token.kind = .endOfLine
  · rw [if_pos h, if_pos (show (token.placed offset column).kind = _ from h)]
  · rw [if_neg h, if_neg (show ¬(token.placed offset column).kind = _ from h)]
    rfl

theorem lineEnd_eq (s : LineScan) :
    some <$> s.lineEnd = (s.cursor.endToken s.rules).map fun token =>
      some (⟨token, .lineEnd (select s.rules s.cursor.rest), s.cursor.position⟩,
        { s with finished := true }) := by
  rw [lineEnd, Cursor.endToken, Cursor.place, Cursor.next]
  cases s.cursor.column with
  | error fault => rfl
  | ok column =>
    cases select s.rules s.cursor.rest with
    | none => rfl
    | some selection =>
      show Except.ok (some ((⟨ite _ _ _, _, _⟩ : Step), (_ : LineScan))) = _
      rw [placed_endOfLine]
      rfl

theorem next_at_end (hfinished : s.finished = false) (hend : s.cursor.rest = [])
    (hterminated : s.terminated = false) : s.next = some <$> s.lineEnd := by
  have hatEnd : s.cursor.atEnd = true := by rw [Cursor.atEnd, hend, List.isEmpty_nil]
  rw [next, hfinished, hatEnd, hterminated, if_neg Bool.false_ne_true, if_pos rfl,
    if_neg Bool.false_ne_true]

theorem recover_eq (s : LineScan) (error : LexError) :
    some <$> s.recover error = s.cursor.errorToken.map fun token =>
      some (⟨token, .unmatched error, (s.cursor.advance 1).position⟩,
        s.moved token (s.cursor.advance 1)) := by
  rw [recover, Cursor.errorToken, Cursor.place]
  cases s.cursor.column <;> rfl

theorem atEnd_eq_false (hrest : s.cursor.rest ≠ []) : s.cursor.atEnd = false :=
  List.isEmpty_eq_false_iff.2 hrest

theorem next_of_stalled (hfinished : s.finished = false) (hrest : s.cursor.rest ≠ [])
    (hstalled : s.stalledAt = some s.cursor.position) :
    s.next = some <$> s.recover s.cursor.unmatched := by
  rw [next, hfinished, atEnd_eq_false hrest, if_neg Bool.false_ne_true,
    if_neg Bool.false_ne_true, if_pos hstalled]

theorem next_of_not_stalled (hfinished : s.finished = false) (hrest : s.cursor.rest ≠ [])
    (hstalled : s.stalledAt ≠ some s.cursor.position) :
    s.next = s.cursor.next s.rules >>= fun
      | .ok r => .ok (some (s.matchedStep r))
      | .error e => some <$> s.recover e := by
  rw [next, hfinished, atEnd_eq_false hrest, if_neg Bool.false_ne_true,
    if_neg Bool.false_ne_true, if_neg hstalled]
  rfl

theorem next_of_unmatched (hfinished : s.finished = false) (hrest : s.cursor.rest ≠ [])
    (hstalled : s.stalledAt ≠ some s.cursor.position)
    (hselect : select s.rules s.cursor.rest = none) :
    s.next = some <$> s.recover s.cursor.unmatched := by
  rw [next_of_not_stalled hfinished hrest hstalled, Cursor.next, hselect]
  rfl

theorem next_of_matched (hfinished : s.finished = false) (hrest : s.cursor.rest ≠ [])
    (hstalled : s.stalledAt ≠ some s.cursor.position) {selection : Selection}
    (hselect : select s.rules s.cursor.rest = some selection) :
    let token := selection.rule.action selection.text s.cursor.line
    let after := s.cursor.advance selection.text.length
    s.next = (s.cursor.place (continued s.marker token)).map fun placed =>
      some (⟨placed, .rule selection (if s.continues token then some token.kind else none),
        after.position⟩, s.moved placed after) := by
  intro token after
  rw [next_of_not_stalled hfinished hrest hstalled, Cursor.next, hselect, Cursor.place]
  cases s.cursor.column with
  | error fault => rfl
  | ok column =>
    show Except.ok (some ((⟨s.reclassify (Token.placed _ _ _), _, _⟩ : Step),
      s.moved (s.reclassify (Token.placed _ _ _)) _)) = _
    rw [reclassify_placed]
    rfl

end Next

/-! ## All calls

Between two calls, a scan that is `Ready` has only its cursor and the mark of an ended line to go on
with, as the recursion has.  It is not ready after a token without text, but the next call gives the
character up and it is ready again. -/

/-- The tokens after one call and those after the others. -/
theorem plain_run_succ {s : LineScan} {count : Nat} {token : Except Fault Token}
    {step : Token → Step} {after : Token → LineScan} {more : LineTokens}
    (hnext : s.next = token.map fun t => some (step t, after t))
    (hstep : ∀ t, (step t).token = t)
    (hmore : ∀ t, token = .ok t → ((after t).run count).plain = more) :
    (s.run (count + 1)).plain = .emit token more := by
  rw [run, hnext]
  cases token with
  | error fault => rfl
  | ok t =>
    rw [← hmore t rfl]
    show (⟨(step t).token :: _, _⟩ : LineTokens) = _
    rw [hstep]
    rfl

/-- A call without a token is the last one. -/
theorem plain_run_of_next_eq_none {s : LineScan} (hnext : s.next = .ok none) (count : Nat) :
    (s.run (count + 1)).plain = ⟨[], .ok s.cursor⟩ := by
  rw [run, hnext]
  rfl

/-- A scan that has moved on is not stalled. -/
theorem stalledAt_moved_ne {s : LineScan} {after : Cursor}
    (h : s.cursor.position < after.position) (token : Token) :
    (s.moved token after).stalledAt ≠ some after.position := by
  show (if _ then some s.cursor.position else none) ≠ _
  split
  · exact fun heq => Nat.ne_of_lt h (Option.some.inj heq)
  · exact (Option.some_ne_none _).symm

/-- A token without text stalls the scan if there are characters left. -/
theorem stalledAt_moved_of_isEmpty {s : LineScan} (hrest : s.cursor.rest ≠ []) {token : Token}
    (htext : token.text = []) : (s.moved token s.cursor).stalledAt = some s.cursor.position := by
  refine if_pos ?_
  rw [Token.isEmpty, htext, atEnd_eq_false hrest]
  rfl

/-- The rules make a token without text of a match without characters. -/
def KeepEmpty (rules : List Rule) : Prop :=
  ∀ rule ∈ rules, ∀ rest, rule.pattern.matched? rest = some [] →
    ∀ line, (rule.action [] line).text = []

/-- The scan goes on by its rules: it is not over, and there is no character to give up. -/
structure Ready (s : LineScan) : Prop where
  finished : s.finished = false
  stalledAt : s.stalledAt ≠ some s.cursor.position

section Run

variable {s : LineScan} {count : Nat} {more : LineTokens}

/-- Wherever the cursor moves on, the scan goes on by its rules. -/
theorem ready_moved (hfinished : s.finished = false) (hrest : s.cursor.rest ≠ []) (token : Token)
    {length : Nat} (hlength : 0 < length) :
    (s.moved token (s.cursor.advance length)).Ready :=
  ⟨hfinished, stalledAt_moved_ne (Cursor.position_lt_position_advance hrest hlength) token⟩

/-- At the end of the line there is at most one token left. -/
theorem plain_run_at_end (hready : s.Ready) (hrest : s.cursor.rest = []) :
    (s.run (count + 2)).plain =
      if s.terminated then ⟨[], .ok s.cursor⟩
      else .emit (s.cursor.endToken s.rules) ⟨[], .ok s.cursor⟩ := by
  cases hterminated : s.terminated with
  | true => exact plain_run_of_next_eq_none (next_of_terminated hrest hterminated) _
  | false =>
    refine plain_run_succ
      ((next_at_end hready.finished hrest hterminated).trans (lineEnd_eq s)) (fun _ => rfl)
      fun token _ => ?_
    exact plain_run_of_next_eq_none (next_of_finished rfl) _

/-- The error token of the character at the cursor, and what comes after the character. -/
theorem plain_run_of_recover (hnext : s.next = some <$> s.recover s.cursor.unmatched)
    (hmore : ∀ token, token.kind = .error →
      ((s.moved token (s.cursor.advance 1)).run count).plain = more) :
    (s.run (count + 1)).plain = .emit s.cursor.errorToken more := by
  rw [recover_eq] at hnext
  refine plain_run_succ hnext (fun _ => rfl) fun token htoken => ?_
  obtain ⟨column, -, rfl⟩ := Cursor.exists_of_place htoken
  exact hmore _ rfl

variable {selection : Selection}

/-- The token of a match with text, and what comes after it. -/
theorem plain_run_of_matched (hready : s.Ready) (hrest : s.cursor.rest ≠ [])
    (hselect : select s.rules s.cursor.rest = some selection)
    (hmore : ∀ token,
      token.kind = (continued s.marker
        (selection.rule.action selection.text s.cursor.line)).kind →
      ((s.moved token (s.cursor.advance selection.text.length)).run count).plain = more) :
    (s.run (count + 1)).plain =
      .emit (s.cursor.place
        (continued s.marker (selection.rule.action selection.text s.cursor.line))) more := by
  refine plain_run_succ (next_of_matched hready.finished hrest hready.stalledAt hselect)
    (fun _ => rfl) fun token htoken => ?_
  obtain ⟨column, -, rfl⟩ := Cursor.exists_of_place htoken
  exact hmore _ rfl

/-- After a token without text the scan is still at its place, and gives the character up. -/
theorem plain_run_of_empty (hready : s.Ready) (hrest : s.cursor.rest ≠ [])
    (hselect : select s.rules s.cursor.rest = some selection) (htext : selection.text = [])
    (hempty : (selection.rule.action [] s.cursor.line).text = [])
    (hmore : ∀ token, token.kind = .error →
      ((s.moved token (s.cursor.advance 1)).run count).plain = more) :
    (s.run (count + 2)).plain =
      .emit (s.cursor.place (selection.rule.action [] s.cursor.line))
        (.emit s.cursor.errorToken more) := by
  have hnext := next_of_matched hready.finished hrest hready.stalledAt hselect
  simp only [htext, List.length_nil, Cursor.advance_zero,
    continued_of_text_eq_nil hempty] at hnext
  refine plain_run_succ hnext (fun _ => rfl) fun token htoken => ?_
  obtain ⟨column, -, rfl⟩ := Cursor.exists_of_place htoken
  exact plain_run_of_recover
    (next_of_stalled hready.finished hrest (stalledAt_moved_of_isEmpty hrest hempty)) hmore

end Run

/-- **The scan gives the tokens of the recursion.**  By induction on what is left of the line; a
character takes two calls at most, and the end of the line takes two more. -/
theorem plain_run {s : LineScan} (hrules : KeepEmpty s.rules) (hready : s.Ready) {count : Nat}
    (hcount : 2 * s.cursor.rest.length + 2 ≤ count) :
    (s.run count).plain = plainTokens s.rules s.marker s.terminated s.cursor := by
  induction hn : s.cursor.rest.length using Nat.strongRecOn generalizing s count with
  | ind n ih =>
    obtain ⟨count, rfl⟩ : ∃ k, count = k + 2 := Nat.exists_eq_add_of_le' (by omega)
    rw [plainTokens]
    by_cases hrest : s.cursor.rest = []
    · rw [dif_pos hrest]
      exact plain_run_at_end hready hrest
    · -- whatever the token is, the scan goes on after it as the recursion does
      have hafter : ∀ (token : Token) {length k : Nat}, 0 < length →
          2 * s.cursor.rest.length ≤ k →
          ((s.moved token (s.cursor.advance length)).run k).plain =
            plainTokens s.rules s.marker token.kind.endsLine (s.cursor.advance length) := by
        intro token length k hlength hk
        have hlt := Cursor.length_rest_advance_lt hrest hlength
        have hready' := ready_moved hready.finished hrest token hlength
        exact ih (s := s.moved token (s.cursor.advance length)) _ (hn ▸ hlt) hrules hready'
          (show 2 * (s.cursor.advance length).rest.length + 2 ≤ k by omega) rfl
      have herror : ∀ (token : Token) {k : Nat}, 2 * s.cursor.rest.length ≤ k →
          token.kind = .error →
          ((s.moved token (s.cursor.advance 1)).run k).plain =
            plainTokens s.rules s.marker false (s.cursor.advance 1) := by
        intro token k hk hkind
        rw [hafter token Nat.one_pos hk, hkind]
        rfl
      rw [dif_neg hrest]
      cases hselect : select s.rules s.cursor.rest with
      | none =>
        exact plain_run_of_recover
          (next_of_unmatched hready.finished hrest hready.stalledAt hselect)
          fun token => herror token (by omega)
      | some selection =>
        by_cases htext : selection.text = []
        · -- Only here it matters that the token has no text, as its match has none.
          obtain ⟨hmem, hfound⟩ := mem_and_matched?_of_select hselect
          rw [htext] at hfound
          simp only [dif_pos htext]
          exact plain_run_of_empty hready hrest hselect htext (hrules _ hmem _ hfound _)
            fun token => herror token (by omega)
        · simp only [dif_neg htext]
          refine plain_run_of_matched hready hrest hselect fun token hkind => ?_
          rw [hafter token (List.length_pos_iff.2 htext) (by omega), hkind]

/-- A scan comes to its outcome when there are no more tokens. -/
theorem next_of_outcome {s stop : LineScan} {count : Nat} (h : (s.run count).outcome = .ok stop) :
    stop.next = .ok none := by
  induction count generalizing s with
  | zero => cases h
  | succ count ih =>
    rw [run] at h
    cases hnext : s.next with
    | error fault =>
      rw [hnext] at h
      cases h
    | ok result =>
      rw [hnext] at h
      cases result with
      | none =>
        obtain rfl := Except.ok.inj h
        exact hnext
      | some result => exact ih h

/-- A scan that starts at the cursor. -/
theorem plain_scan_start {rules : List Rule} (hrules : KeepEmpty rules) (marker : String)
    {cursor : Cursor} (htext : cursor.text ≠ []) :
    (start cursor rules marker).scan.plain = plainTokens rules marker false cursor :=
  plain_run (s := start cursor rules marker) hrules
    ⟨List.isEmpty_eq_false_iff.2 htext, (Option.some_ne_none _).symm⟩ (Nat.le_refl _)

/-- **The scan of a line needs no state.**  It gives the tokens of the recursion over the places of
the line, at most two for each character and one for the end of the line; it comes to the end of the
line, after which there are no tokens, unless the columns of the line are too large. -/
theorem scan_eq_plainTokens {rules : List Rule} (hrules : KeepEmpty rules) (marker : String)
    {text : List Char} (htext : trimEnding text ≠ []) (line tabSize : Nat) :
    let cursor := Cursor.start text line tabSize
    let scanned := (start cursor rules marker).scan
    scanned.plain = plainTokens rules marker false cursor ∧
      scanned.steps.length ≤ 2 * (trimEnding text).length + 1 ∧
      (∀ fault, scanned.outcome = .error fault →
        fault = .overflow ∧ columnAfter (max tabSize 1) 0 (trimEnding text) = .error .overflow) ∧
      ∀ stop, scanned.outcome = .ok stop →
        stop.cursor.position = byteLength (trimEnding text) ∧ stop.next = .ok none := by
  intro cursor scanned
  have hplain : scanned.plain = plainTokens rules marker false cursor :=
    plain_scan_start hrules marker htext
  refine ⟨hplain, ?_, fun fault hfault => ?_, fun stop hstop => ⟨?_, next_of_outcome hstop⟩⟩
  · have hlen : scanned.steps.length = scanned.plain.tokens.length := (List.length_map _).symm
    rw [hlen, hplain]
    exact length_plainTokens_le false cursor
  · have hstop : (plainTokens rules marker false cursor).stop = .error fault := by
      rw [← hplain, Scanned.plain, hfault]
      rfl
    have hcolumn : columnAfter (max (max tabSize 1) 1) 0 (trimEnding text) = .error fault :=
      columnAfter_eq_error_of_stop hstop
    obtain rfl := columnAfter_fault hcolumn
    exact ⟨rfl, by rwa [Nat.max_assoc, Nat.max_self] at hcolumn⟩
  · have hstop' : (plainTokens rules marker false cursor).stop = .ok stop.cursor := by
      rw [← hplain, Scanned.plain, hstop]
      rfl
    obtain ⟨hrest, htext'⟩ := stop_plainTokens hstop'
    rw [stop.cursor.position_of_rest_eq_nil hrest, htext']
    rfl

/-- A rule that matches nothing, and one whose tokens have no text. -/
def droppingRules : List Rule :=
  [.literal "" (.named "EMPTY"), ⟨.literal "b", fun _ => Token.new (.named "DROPPED") []⟩]

/-- A match whose token has no text does not stop the scan, and a rule that matches nothing does not
keep it at its place. -/
theorem scan_dropped_text :
    KeepEmpty droppingRules ∧ trimEnding "abb\n".toList ≠ [] ∧
      ((plainTokens droppingRules "..." false (Cursor.start "abb\n".toList 0 4)).tokens.map
        fun token => (token.kind, token.offset)) =
          [(.named "EMPTY", 0), (.error, 0), (.named "DROPPED", 1), (.named "DROPPED", 2),
            (.endOfLine, 3)] := by
  have hrules : KeepEmpty droppingRules := by
    intro rule hrule rest _ line
    rcases List.mem_pair.1 hrule with rfl | rfl
    · rfl
    · rfl
  have htext : trimEnding "abb\n".toList ≠ [] := by decide
  refine ⟨hrules, htext, ?_⟩
  rw [← (scan_eq_plainTokens hrules "..." htext 0 4).1]
  decide

end LineScan

end EditorMode
