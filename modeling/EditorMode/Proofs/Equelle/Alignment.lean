import EditorMode.Proofs.Equelle.Lexemes
import EditorMode.Proofs.Mode.Suggested

/-!
# Where a continuation aligns

The line after a line continuation is suggested to stand a fixed distance after the last function
marker, wherever that is.  No column of the screen is kept for this.  The document knows the column
of the block and, from the marker on, the distance between the two, and the suggestion adds them up
again.  Three facts make the sum the column of the marker:

* the marker does not come before the indentation of its line, so that nothing is cut off where the
  distance is taken (`exists_place_of_function`),
* the distance is kept to the end of the line (`Tracker.anchor_of_trackRun`),
* at the line continuation the indentation becomes the column of the block, of whatever level the
  braces before it have led to (`Tracker.column_of_trackRun`).

So the indentation drops out (`indent_eq_of_function`), and the state before the line does not
matter unless the line continues one that has opened a block.
-/

set_option autoImplicit false

namespace EditorMode

open Text

/-! ## The state after a line continuation -/

namespace Tracker

variable (t : Tracker) {d e : Document}

theorem anchor_advanced (d : Document) {token : Token} (hkind : token.kind ≠ .endOfLine)
    (indentation : Nat) :
    (t.advanced d token indentation).anchor =
      if token.kind = .function then token.column - indentation + t.anchorOffset else d.anchor := by
  rw [advanced]
  cases h : token.kind with
  | endOfLine => exact absurd h hkind
  | _ => simp [apply_ite Document.anchor]

section Line

variable (hd : d.Consistent) {indentation : Nat} {tokens : List Token}
  (hends : ∀ token ∈ tokens, token.kind ≠ .endOfLine)

include hd hends

/-- The last function marker decides where a continuation aligns. -/
theorem anchor_of_trackRun (h : (t.trackRun d (tokens.map (·, indentation))).outcome = .ok e) :
    e.anchor = ((tokens.filter (·.kind == .function)).getLast?.map fun marker =>
      marker.column - indentation + t.anchorOffset).getD d.anchor := by
  induction tokens using List.reverseRecOn generalizing e with
  | nil =>
    obtain rfl := Except.ok.inj h
    rfl
  | append_singleton tokens token ih =>
    rw [List.forall_mem_append, List.forall_mem_singleton] at hends
    rw [List.map_append] at h
    obtain ⟨before, hbefore, rfl⟩ := t.exists_of_trackRun_concat hd h
    rw [t.anchor_advanced before hends.2, List.filter_append]
    by_cases hkind : token.kind = .function
    · simp [hkind]
    · simp [hkind, ih hends.1 hbefore]

/-- **A line continuation settles the column of its block**, unless the line has opened it. -/
theorem column_of_trackRun (hopened : (leaveLine d).openedBlock = false)
    (hopens : ∀ token ∈ tokens, token.kind ≠ .blockOpen) {last : Token}
    (hlast : last.kind = .lineContinuation)
    (h : (t.trackRun d ((tokens ++ [last]).map (·, indentation))).outcome = .ok e) :
    e.continued = true ∧ e.columns[e.level]? = some indentation := by
  rw [List.map_append] at h
  obtain ⟨before, hbefore, rfl⟩ := t.exists_of_trackRun_concat hd h
  have hmid := t.midline_of_trackRun hd hends hbefore
  have hadopts : d.Adopts (tokens.map Token.kind) last.kind :=
    ⟨hopened, by simpa using hopens, .inl hlast⟩
  have hlevel : (t.advanced before last indentation).level = before.level := by
    rw [level_advanced, hlast]
    rfl
  refine ⟨by simp [continued_advanced, hlast], ?_⟩
  rcases hmid.columns_advanced t last indentation with ⟨hkind, -⟩ | ⟨hkind, -⟩ | ⟨-, hcolumns⟩ |
    ⟨⟨-, -, hnot⟩, -⟩
  · simp [hlast] at hkind
  · simp [hlast] at hkind
  · rw [hcolumns, hlevel, List.getElem?_set_self]
    rw [hmid.consistent]
    exact Nat.lt_succ_self _
  · exact absurd hadopts hnot

end Line

/-- A line that does not close a block goes on where the column of the block and the anchor say. -/
theorem suggest_of_continued (hcontinued : d.continued = true) {column : Nat}
    (hcolumn : d.columns[d.level]? = some column) {text : List Char}
    (htext : ¬t.closeMarker.toList <+: skipBlank text) :
    t.suggest d text = addBelow columnBound column d.anchor := by
  have hcloses : t.closesBlock text = false := by
    rw [← List.isPrefixOf_iff_prefix, Bool.not_eq_true] at htext
    rw [closesBlock, htext, Bool.and_false]
  rw [suggest, hcloses, if_neg Bool.false_ne_true, Document.column, Document.columnAt, hcolumn]
  exact if_pos hcontinued

end Tracker

/-! ## Function markers -/

/-- Every token of a line is made at a place of it. -/
theorem Mode.exists_madeAt_of_mem_tokens {m : Mode} (hrules : LineScan.KeepEmpty m.rules)
    {number : Nat} {line : List Char} {tokens : List Token}
    (htokens : (m.tokens number line).outcome = .ok tokens) {token : Token}
    (htoken : token ∈ tokens) :
    ∃ place : Cursor, place.text = trimEnding line ∧ place.tabSize = max m.config.tabSize 1 ∧
      MadeAt m.rules m.config.continuationMarker place token := by
  obtain ⟨stop, -, rfl⟩ := map_eq_ok_iff.1 htokens
  have hplain : token ∈ (m.scan number line).scan.plain.tokens := htoken
  rw [Mode.scan, LineScan.plain_scan hrules] at hplain
  obtain ⟨place, htext, htab, -, hmade⟩ := exists_madeAt_of_mem_plainTokens hrules hplain
  exact ⟨place, htext, htab, hmade⟩

theorem kind_of_kind_continued {marker : String} {token : Token} {kind : Kind}
    (h : (continued marker token).kind = kind) (hkind : kind ≠ .lineContinuation) :
    token.kind = kind := by
  rw [continued] at h
  split at h
  · exact absurd h.symm hkind
  · exact h

namespace Equelle

/-- Only one word is a function marker, whatever continues a line. -/
theorem starts_of_function {marker : String} {c : Cursor} {token : Token}
    (h : MadeAt (entries.map Rule.ofEntry) marker c token) (hkind : token.kind = .function) :
    "Function".toList <+: c.rest := by
  cases h with
  | error hrest h => simp [Cursor.kind_of_errorToken h] at hkind
  | lineEnd hrest h => simp [Cursor.kind_of_endToken h] at hkind
  | @matched hrest s hselect h =>
    rw [Cursor.kind_of_place h] at hkind
    obtain ⟨hmem, hmatched⟩ := mem_and_matched?_of_select hselect
    obtain ⟨entry, hentry, hrule⟩ := List.mem_map.1 hmem
    rw [← hrule] at hkind hmatched
    have hfunction : entry.2 = .function := kind_of_kind_continued hkind (by simp)
    have hpattern : entry.1 = .literal "Function" :=
      pattern_eq_of_mem_entries hentry (by rw [hfunction]; rfl)
    have hliteral : (Pattern.literal "Function").matched? c.rest = some s.text := by
      rw [← hpattern]
      exact hmatched
    rw [matched?_literal, Option.ite_none_right_eq_some] at hliteral
    exact List.isPrefixOf_iff_prefix.1 hliteral.1

/-- The token is a function marker of the line, and its column is the visual one. -/
structure IsFunctionAt (line before after : List Char) (tabSize : Nat) (marker : Token) : Prop where
  line_eq : line = before ++ "Function".toList ++ after
  offset : marker.offset = byteLength before % offsetBound
  column : visualColumn line (byteLength before) tabSize = .ok marker.column

/-- A function marker has a place in the line, which does not come before the indentation. -/
theorem exists_place_of_function {m : Mode} (hrules : m.rules = entries.map Rule.ofEntry)
    {number : Nat} {line : List Char} {tokens : List Token}
    (htokens : (m.tokens number line).outcome = .ok tokens) {marker : Token}
    (hmarker : marker ∈ tokens) (hkind : marker.kind = .function) {indentation : Nat}
    (hindentation : (m.scan number line).cursor.indentation = .ok indentation) :
    (∃ before after, IsFunctionAt (trimEnding line) before after m.config.tabSize marker) ∧
      indentation ≤ marker.column := by
  have hkeep : KeepText m.rules := hrules ▸ keepText_ofEntry entries
  obtain ⟨place, htext, htab, hmade⟩ :=
    Mode.exists_madeAt_of_mem_tokens hkeep.keepEmpty htokens hmarker
  rw [hrules] at hmade
  obtain ⟨after, hafter⟩ := starts_of_function hmade hkind
  have hcolumn := hmade.column
  refine ⟨⟨place.before, after, ?_, ?_, ?_⟩, ?_⟩
  · rw [List.append_assoc, hafter, ← htext, Cursor.text]
  · rw [hmade.offset, Cursor.offset, place.position_eq, Cursor.before]
  · rw [← htext, ← visualColumn_max_one, ← htab, ← hcolumn, place.column_eq_visualColumn,
      place.position_eq, Cursor.before]
  · refine place.indentation_le (fun x hx => ?_) ?_ hcolumn
    · rw [← hafter] at hx
      obtain rfl := Option.some.inj hx
      rfl
    · rw [Cursor.indentation, htext, htab]
      exact hindentation

/-- Where a line continuation ends a line, nothing else does. -/
theorem endOfLine_not_mem_of_lineContinuation {m : Mode}
    (hrules : m.rules = entries.map Rule.ofEntry) {number : Nat} {line : List Char}
    {tokens : List Token} (htokens : (m.tokens number line).outcome = .ok tokens) {last : Token}
    (hlast : tokens.getLast? = some last) (hkind : last.kind = .lineContinuation) :
    ∀ token ∈ tokens, token.kind ≠ .endOfLine := by
  obtain ⟨stop, -, rfl⟩ := map_eq_ok_iff.1 htokens
  have hkeep : KeepText m.rules := hrules ▸ keepText_ofEntry entries
  have hearly := LineScan.endOfLine_not_mem_dropLast_scan_start hkeep.keepEmpty
    (hrules ▸ endsOnlyAtEnd_rules) m.config.continuationMarker (.start line number m.config.tabSize)
  intro token htoken
  rw [← List.dropLast_append_getLast? last hlast, List.mem_append, List.mem_singleton] at htoken
  rcases htoken with htoken | rfl
  · exact hearly token htoken
  · simp [hkind]

/-- **A continuation aligns after the last function marker.**  Take the mode of Equelle with any
settings, a consistent document that is at the end of a line or whose line has opened no block, and
a line with a function marker that opens no block and ends with a line continuation.  Unless a sum
passes its bound, a line after it that does not start with the marker for the end of a block is
suggested to stand at the visual column of the last function marker plus the anchor offset: neither
the indentation of the line nor the columns of the document before it matter. -/
theorem indent_eq_of_function {config : Config} {m : Mode} (hm : modeWith config = .ok m)
    {d : Document} (hd : d.Consistent) (hopened : d.atLineEnd = true ∨ d.openedBlock = false)
    {number : Nat} {line : List Char} {tokens : List Token}
    (htokens : (m.tokens number line).outcome = .ok tokens)
    (hopens : ∀ token ∈ tokens, token.kind ≠ .blockOpen) {last : Token}
    (hlast : tokens.getLast? = some last) (hcontinued : last.kind = .lineContinuation)
    {marker : Token} (hmarker : (tokens.filter (·.kind == .function)).getLast? = some marker)
    (hfits : (m.advanceLine d number line).outcome ≠ .error .overflow) :
    (∃ before after, IsFunctionAt (trimEnding line) before after config.tabSize marker) ∧
      ∃ e, (m.advanceLine d number line).outcome = .ok e ∧
        ∀ next, ¬config.closeMarker.toList <+: skipBlank next →
          m.indent e next = addBelow columnBound marker.column config.anchorOffset := by
  obtain ⟨hrules, rfl⟩ := rules_config_of_modeWith hm
  have hkeep : KeepText m.rules := hrules ▸ keepText_ofEntry entries
  obtain ⟨e, he, -⟩ := (Mode.safe_advanceLine hkeep.keepEmpty hd number line).exists_eq_ok hfits
  obtain ⟨found, indentation, hfound, hindentation, hrun⟩ :=
    (m.outcome_advanceLine_eq_ok_iff d number).1 he
  obtain rfl := Except.ok.inj (htokens.symm.trans hfound)
  obtain ⟨hmem, hkind⟩ := List.mem_filter.1 (List.mem_of_getLast? hmarker)
  obtain ⟨hplace, hle⟩ :=
    exists_place_of_function hrules htokens hmem (beq_iff_eq.1 hkind) hindentation
  have hends := endOfLine_not_mem_of_lineContinuation hrules htokens hlast hcontinued
  have hanchor := m.tracker.anchor_of_trackRun hd hends hrun
  rw [hmarker, Option.map_some, Option.getD_some] at hanchor
  rw [← List.dropLast_append_getLast? last hlast] at hrun
  have hunopened : (Tracker.leaveLine d).openedBlock = false := by
    rcases hopened with h | h
    · simp [Tracker.leaveLine, h]
    · simp [Tracker.leaveLine, apply_ite Document.openedBlock, h]
  obtain ⟨hon, hcolumn⟩ := m.tracker.column_of_trackRun hd
    (fun token htoken => hends token (List.mem_of_mem_dropLast htoken)) hunopened
    (fun token htoken => hopens token (List.mem_of_mem_dropLast htoken)) hcontinued hrun
  refine ⟨hplace, e, he, fun next hnext => ?_⟩
  have hsum : indentation + e.anchor = marker.column + m.config.anchorOffset := by
    rw [hanchor]
    show indentation + (marker.column - indentation + m.config.anchorOffset) = _
    omega
  rw [Mode.indent, m.tracker.suggest_of_continued hon hcolumn hnext, addBelow, addBelow, hsum]

/-- The second of two function markers, after a tab, a wide character and two closing braces.  Here
commas continue lines, and the line before has opened a block. -/
theorem indent_eq_of_function_after_braces :
    let config := { Config.standard with
      tabSize := 5, anchorOffset := 6, continuationMarker := "," }
    let line := " \t\x7d Function \x7d 中 : Function(x),\r\n".toList
    ∃ m e, modeWith config = .ok m ∧
      visualColumn (trimEnding line) 21 5 = .ok 23 ∧
      (m.advanceLine ⟨2, [0, 2, 4], true, true, false, 0⟩ 7 line).outcome = .ok e ∧
      e.columns = [5] ∧ m.indent e "\ty : \x7d".toList = .ok (23 + 6) := by
  intro config line
  let m : Mode := ⟨entries.map Rule.ofEntry, styles, config⟩
  have hm : modeWith config = .ok m := by
    rw [modeWith, rules_eq]
    rfl
  have hstate : (m.advanceLine ⟨2, [0, 2, 4], true, true, false, 0⟩ 7 line).outcome =
      .ok ⟨0, [5], false, false, true, 24⟩ := by decide +kernel
  obtain ⟨tokens, -, htokens, -⟩ := (m.outcome_advanceLine_eq_ok_iff _ 7).1 hstate
  obtain ⟨stop, -, rfl⟩ := map_eq_ok_iff.1 htokens
  have hlast : ((m.scan 7 line).scan.steps.map Step.token).getLast? =
      some ⟨.lineContinuation, [','], 7, 32, 34⟩ := by decide +kernel
  have hmarker : (((m.scan 7 line).scan.steps.map Step.token).filter
      (·.kind == .function)).getLast? = some ⟨.function, "Function".toList, 7, 21, 23⟩ := by
    decide +kernel
  obtain ⟨-, e, he, hindent⟩ := indent_eq_of_function hm (d := ⟨2, [0, 2, 4], true, true, false, 0⟩)
    (by decide) (.inl rfl) htokens (by decide +kernel) hlast rfl hmarker
    (hstate.trans_ne (by simp))
  obtain rfl := Except.ok.inj (hstate.symm.trans he)
  exact ⟨m, _, hm, by decide +kernel, he, rfl, hindent _ (by decide +kernel)⟩

end Equelle

end EditorMode
