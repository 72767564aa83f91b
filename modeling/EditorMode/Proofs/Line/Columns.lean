import EditorMode.Proofs.Line.Ending
import EditorMode.Proofs.Tracking

/-!
# The columns of a line

How far to the right a line can reach.  A character takes up no more columns than a tab or the
widest character (`columnAfter_le`), and no character moves a column back (`le_of_columnAfter`).
The column of a token is that of the place in its line where it is made (`MadeAt`), so that it lies
within the line (`columnAfter_of_mem_plainTokens`), and not before the indentation if the token
starts with anything but a blank (`Cursor.indentation_le`).  No token stands before the place from
which on the line is read (`column_le_of_mem_plainTokens`).  A line opens at most one block for each
of its characters (`countP_blockOpen_le`).
-/

set_option autoImplicit false

namespace EditorMode

open Text

/-! ## Blanks at the start of a line -/

theorem Text.isIndent_iff {c : Char} : isIndent c = true ↔ c = ' ' ∨ c = '\t' := by
  rw [isIndent, Bool.or_eq_true, beq_iff_eq, beq_iff_eq]

/-- What indents a line does not end it. -/
theorem Text.isEnding_eq_false {c : Char} (h : isIndent c = true) : isEnding c = false := by
  rcases isIndent_iff.1 h with rfl | rfl
  · rfl
  · rfl

/-! ## Columns -/

section Columns

variable {tab most : Nat} (htab : tab ≤ most) (hwidth : maxWidth ≤ most)

include htab hwidth

theorem columnNext_le {column : Nat} (c : Char) (h : column + most < columnBound) :
    ∃ next, columnNext tab column c = .ok next ∧ next ≤ column + most := by
  rw [columnNext]
  split
  · rw [addBelow_of_lt (by omega)]
    exact ⟨column + tab - column % tab, rfl, by omega⟩
  · have hc := width_le_maxWidth c
    rw [addBelow_of_lt (by omega)]
    exact ⟨_, rfl, by omega⟩

/-- Where no character takes up more than `most` columns, this is a bound for the whole text, and
the sums on the way are no larger. -/
theorem columnAfter_le {column : Nat} {text : List Char}
    (h : column + most * text.length < columnBound) :
    ∃ last, columnAfter tab column text = .ok last ∧ last ≤ column + most * text.length := by
  induction text generalizing column with
  | nil => exact ⟨column, rfl, Nat.le_add_right _ _⟩
  | cons c text ih =>
    rw [List.length_cons, Nat.mul_succ] at h ⊢
    have hfirst : column + most < columnBound := by omega
    obtain ⟨next, hnext, hle⟩ := columnNext_le htab hwidth c hfirst
    have hrest : next + most * text.length < columnBound := by omega
    obtain ⟨last, hlast, hlast_le⟩ := ih hrest
    refine ⟨last, ?_, by omega⟩
    rw [columnAfter_cons, hnext]
    exact hlast

end Columns

section Order

variable {tab : Nat} (htab : 0 < tab)

include htab

theorem le_of_columnNext {column next : Nat} {c : Char} (h : columnNext tab column c = .ok next) :
    column ≤ next := by
  rw [columnNext] at h
  split at h
  · obtain ⟨sum, hsum, rfl⟩ := map_eq_ok_iff.1 h
    obtain ⟨rfl, -⟩ := addBelow_eq_ok_iff.1 hsum
    have hmod := Nat.mod_lt column htab
    show column ≤ column + tab - column % tab
    omega
  · obtain ⟨rfl, -⟩ := addBelow_eq_ok_iff.1 h
    exact Nat.le_add_right _ _

theorem le_of_columnAfter {column last : Nat} {text : List Char}
    (h : columnAfter tab column text = .ok last) : column ≤ last := by
  induction text generalizing column with
  | nil => exact (Except.ok.inj h).le
  | cons c text ih =>
    rw [columnAfter_cons, bind_eq_ok_iff] at h
    obtain ⟨next, hnext, hlast⟩ := h
    exact (le_of_columnNext htab hnext).trans (ih hlast)

end Order

/-- A place that something other than a blank follows does not come before the indentation. -/
theorem Cursor.indentation_le {c : Cursor} (hrest : ∀ x ∈ c.rest.head?, isIndent x = false)
    {width column : Nat} (hwidth : c.indentation = .ok width) (hcolumn : c.column = .ok column) :
    width ≤ column := by
  rw [indentation, indentationWidth, text, takeWhile_append_left hrest] at hwidth
  have hsplit : c.before.takeWhile isIndent ++ c.before.dropWhile isIndent = c.before :=
    List.takeWhile_append_dropWhile
  rw [c.column_eq, ← before, ← hsplit, columnAfter_append, hwidth] at hcolumn
  exact le_of_columnAfter (Nat.le_max_right _ _) hcolumn

/-! ## Tokens -/

/-- Where a token of a line comes from: it is made at a cursor, from what follows there. -/
inductive MadeAt (rules : List Rule) (marker : String) (c : Cursor) (token : Token) : Prop
  /-- From a character that is given up. -/
  | error (hrest : c.rest ≠ []) (h : c.errorToken = .ok token)
  /-- From a match, with or without text. -/
  | matched (hrest : c.rest ≠ []) {s : Selection} (hselect : select rules c.rest = some s)
    (h : c.place (continued marker (s.rule.action s.text c.line)) = .ok token)
  /-- From the end of the line. -/
  | lineEnd (hrest : c.rest = []) (h : c.endToken rules = .ok token)

theorem LineTokens.mem_emit {token : Except Fault Token} {more : LineTokens} {t : Token}
    (h : t ∈ (emit token more).tokens) : token = .ok t ∨ t ∈ more.tokens := by
  cases token with
  | error fault => cases h
  | ok first =>
    rcases List.mem_cons.1 h with rfl | h
    · exact .inl rfl
    · exact .inr h

section Plain

variable {rules : List Rule} {marker : String}

/-- A token is put in its place. -/
theorem MadeAt.exists_placed {c : Cursor} {token : Token} (h : MadeAt rules marker c token) :
    ∃ (made : Token) (column : Nat), c.column = .ok column ∧
      token = made.placed c.offset column := by
  cases h with
  | error hrest h => exact ⟨_, Cursor.exists_of_place h⟩
  | matched hrest hselect h => exact ⟨_, Cursor.exists_of_place h⟩
  | lineEnd hrest h => exact ⟨_, Cursor.exists_of_place h⟩

theorem MadeAt.column {c : Cursor} {token : Token} (h : MadeAt rules marker c token) :
    c.column = .ok token.column := by
  obtain ⟨made, column, hcolumn, rfl⟩ := h.exists_placed
  exact hcolumn

theorem MadeAt.offset {c : Cursor} {token : Token} (h : MadeAt rules marker c token) :
    token.offset = c.offset := by
  obtain ⟨made, column, -, rfl⟩ := h.exists_placed
  rfl

/-- **Every token of a line is made at a place of it**, and not before the cursor. -/
theorem exists_madeAt_of_mem_plainTokens (hrules : LineScan.KeepEmpty rules) {ended : Bool}
    {c : Cursor} {token : Token} (h : token ∈ (plainTokens rules marker ended c).tokens) :
    ∃ place : Cursor, place.text = c.text ∧ place.tabSize = c.tabSize ∧
      c.before <+: place.before ∧ MadeAt rules marker place token := by
  -- what is found further on in the line is found in the line
  have hlater : ∀ {c : Cursor} {count : Nat},
      (∃ place : Cursor, place.text = (c.advance count).text ∧
        place.tabSize = (c.advance count).tabSize ∧ (c.advance count).before <+: place.before ∧
        MadeAt rules marker place token) →
      ∃ place : Cursor, place.text = c.text ∧ place.tabSize = c.tabSize ∧
        c.before <+: place.before ∧ MadeAt rules marker place token := by
    rintro c count ⟨place, htext, htab, hbefore, hmade⟩
    rw [c.before_advance] at hbefore
    exact ⟨place, htext.trans (c.text_advance count), htab,
      (List.prefix_append _ _).trans hbefore, hmade⟩
  fun_induction plainTokens rules marker ended c with
  | case1 => cases h
  | case2 ended c hrest =>
    rcases LineTokens.mem_emit h with h | h
    · exact ⟨c, rfl, rfl, List.prefix_rfl, .lineEnd hrest h⟩
    · cases h
  | case3 ended c hrest hselect ih =>
    rcases LineTokens.mem_emit h with h | h
    · exact ⟨c, rfl, rfl, List.prefix_rfl, .error hrest h⟩
    · exact hlater (ih h)
  | case4 ended c hrest s hselect htext ih =>
    rcases LineTokens.mem_emit h with h | h
    · obtain ⟨hmem, hmatched⟩ := mem_and_matched?_of_select hselect
      rw [htext] at hmatched
      refine ⟨c, rfl, rfl, List.prefix_rfl, .matched hrest hselect ?_⟩
      rwa [htext, continued_of_text_eq_nil (hrules _ hmem _ hmatched _)]
    rcases LineTokens.mem_emit h with h | h
    · exact ⟨c, rfl, rfl, List.prefix_rfl, .error hrest h⟩
    · exact hlater (ih h)
  | case5 ended c hrest s hselect htext token ih =>
    rcases LineTokens.mem_emit h with h | h
    · exact ⟨c, rfl, rfl, List.prefix_rfl, .matched hrest hselect h⟩
    · exact hlater (ih h)

/-- The column of a token is that of a place in its line. -/
theorem columnAfter_of_mem_plainTokens (hrules : LineScan.KeepEmpty rules) {ended : Bool}
    {c : Cursor} {token : Token} (h : token ∈ (plainTokens rules marker ended c).tokens) :
    ∃ before, before <+: c.text ∧ columnAfter (max c.tabSize 1) 0 before = .ok token.column := by
  obtain ⟨place, htext, htab, -, hmade⟩ := exists_madeAt_of_mem_plainTokens hrules h
  refine ⟨place.before, htext ▸ List.prefix_append _ _, ?_⟩
  rw [← htab, ← hmade.column, place.column_eq, Cursor.before]

/-- No token stands before the cursor from which on the line is read. -/
theorem column_le_of_mem_plainTokens (hrules : LineScan.KeepEmpty rules) {ended : Bool}
    {c : Cursor} {token : Token} (h : token ∈ (plainTokens rules marker ended c).tokens)
    {column : Nat} (hcolumn : c.column = .ok column) : column ≤ token.column := by
  obtain ⟨place, -, htab, ⟨more, hmore⟩, hmade⟩ := exists_madeAt_of_mem_plainTokens hrules h
  have hplace := hmade.column
  rw [c.column_eq, ← Cursor.before] at hcolumn
  rw [place.column_eq, ← Cursor.before, ← hmore, columnAfter_append, htab, hcolumn] at hplace
  exact le_of_columnAfter (Nat.le_max_right _ _) hplace

/-! ## Blocks -/

section Count

variable (p : Token → Bool) {token : Except Fault Token} {more : LineTokens}

theorem LineTokens.countP_emit_le :
    (emit token more).tokens.countP p ≤ more.tokens.countP p + 1 := by
  cases token with
  | error fault => exact Nat.zero_le _
  | ok t =>
    show (t :: more.tokens).countP p ≤ _
    rw [List.countP_cons]
    split <;> omega

theorem LineTokens.countP_emit_le_of_not (h : ∀ t, token = .ok t → p t = false) :
    (emit token more).tokens.countP p ≤ more.tokens.countP p := by
  cases token with
  | error fault => exact Nat.zero_le _
  | ok t => exact (List.countP_cons_of_neg (Bool.eq_false_iff.1 (h t rfl))).le

end Count

/-- A line opens at most one block for each of its characters: where a rule matches nothing, the
character after it becomes an error. -/
theorem countP_blockOpen_le (ended : Bool) (c : Cursor) :
    (plainTokens rules marker ended c).tokens.countP (·.kind == .blockOpen) ≤ c.rest.length := by
  have herror : ∀ (c : Cursor) (token : Token), c.errorToken = .ok token →
      (token.kind == .blockOpen) = false := by
    intro c token h
    rw [Cursor.kind_of_errorToken h]
    rfl
  fun_induction plainTokens rules marker ended c with
  | case1 => exact Nat.zero_le _
  | case2 ended c hrest =>
    refine (LineTokens.countP_emit_le_of_not _ fun token h => ?_).trans (Nat.zero_le _)
    rw [Cursor.kind_of_endToken h]
    rfl
  | case3 ended c hrest hselect ih =>
    have hlt := Cursor.length_rest_advance_lt hrest Nat.one_pos
    exact (LineTokens.countP_emit_le_of_not _ (herror c)).trans (ih.trans hlt.le)
  | case4 ended c hrest s hselect htext ih =>
    have hlt := Cursor.length_rest_advance_lt hrest Nat.one_pos
    refine (LineTokens.countP_emit_le _).trans ?_
    exact (Nat.succ_le_succ ((LineTokens.countP_emit_le_of_not _ (herror c)).trans ih)).trans hlt
  | case5 ended c hrest s hselect htext token ih =>
    have hlt := Cursor.length_rest_advance_lt hrest (List.length_pos_iff.2 htext)
    exact (LineTokens.countP_emit_le _).trans ((Nat.succ_le_succ ih).trans hlt)

end Plain

end EditorMode
