import EditorMode.Proofs.Line.Places

/-!
# The white space before a line of Equelle

A line of Equelle that is indented starts with a token of white space which is just as long as the
indentation (`exists_select_blank`).  All other tokens come after it, so that none of them stands to
the left of the indentation (`Equelle.indentation_le_column`); in particular the distance from the
indentation to a function marker is the difference of their columns.

No other rule matches where a line starts with a space or a tab, whatever follows there; so this
holds of texts with newlines in them as well.
-/

set_option autoImplicit false

namespace EditorMode

open Regex Text

namespace Equelle

/-! ## Blanks -/

/-- An expression that starts with a fixed text does not match where another character stands. -/
theorem matched?_eq_none_of_literal {d : Char} {more : List Char} {tail : Expr}
    (hdirect : Pattern.Direct (anchored (.seq (.literal (d :: more)) tail))) (source : String)
    {c : Char} (hc : d ≠ c) (rest : List Char) :
    Pattern.matched? (.regex ⟨source, (anchored (.seq (.literal (d :: more)) tail)).matcher⟩)
      (c :: rest) = none := by
  refine Pattern.matched?_regex_eq_none hdirect source ?_
  rw [ways_anchored, Expr.ways, Expr.ways_literal, if_neg]
  · rfl
  · rw [List.isPrefixOf_cons_cons, beq_eq_false_iff_ne.2 hc, Bool.false_and]
    exact Bool.false_ne_true

variable {c : Char} {rest : List Char}

/-- Where a text starts with a blank, the white space is all that the rules have to offer. -/
theorem bestOffer_entries_blank (hc : isIndent c = true) :
    bestOffer (c :: rest) entries = some (.named "WS", (c :: rest).takeWhile isIndent) := by
  have hothers : c.isUpper = false ∧ isSmallStart c = false ∧ c.isDigit = false ∧
      isSymbolStart c = false ∧ '"' ≠ c ∧ '#' ≠ c ∧ '.' ≠ c := by
    rcases isIndent_iff.1 hc with rfl | rfl <;> decide
  obtain ⟨hupper, hsmall, hdigit, hsymbol, hquote, hhash, hdot⟩ := hothers
  have hstring (source : String) :
      Pattern.matched? (.regex ⟨source, stringExpr.matcher⟩) (c :: rest) = none :=
    matched?_eq_none_of_literal (show Pattern.Direct stringExpr from ⟨rfl, rfl, rfl⟩) source
      hquote rest
  have hcomment (source : String) :
      Pattern.matched? (.regex ⟨source, commentExpr.matcher⟩) (c :: rest) = none :=
    matched?_eq_none_of_literal (show Pattern.Direct commentExpr from ⟨rfl, rfl, rfl⟩) source
      hhash rest
  have hcontinuation (source : String) :
      Pattern.matched? (.regex ⟨source, continuationExpr.matcher⟩) (c :: rest) = none :=
    matched?_eq_none_of_literal (show Pattern.Direct continuationExpr from ⟨rfl, rfl, rfl⟩) source
      hdot rest
  rw [entries, bestOffer_append, bestOffer_append, bestOffer_append, bestOffer_append,
    bestOffer_nameWords_eq_none hupper, bestOffer_operatorWords_eq_none hsymbol,
    bestOffer_punctuationWords_eq_none hsymbol]
  simp [expressionEntries, continuationEntry, expression, bestOffer, offer, matched?_name,
    matched?_float, matched?_run _ decimals rfl, matched?_run _ indents rfl, hstring, hcomment,
    hcontinuation, matched?_end, holds_capitals, holds_smallStarts, holds_decimals, holds_indents,
    hupper, hsmall, hdigit, hc]

theorem exists_select_blank (hc : isIndent c = true) (rest : List Char) :
    ∃ s, select (entries.map Rule.ofEntry) (c :: rest) = some s ∧
      s.rule.action = Token.new (.named "WS") ∧ s.text = (c :: rest).takeWhile isIndent := by
  have hselect := select_ofEntry entries (c :: rest)
  rw [bestOffer_entries_blank hc, Option.map_some, Option.map_eq_some_iff] at hselect
  obtain ⟨s, hs, heq⟩ := hselect
  exact ⟨s, hs, (Prod.mk.inj heq).1, (Prod.mk.inj heq).2⟩

/-! ## Lines -/

/-- The white space before a line: its first token, which is all of its indentation. -/
structure IsLeadingSpace (line : List Char) (index : Nat) (token : Token) : Prop where
  first : index = 0
  text : token.text = line.takeWhile isIndent
  nonempty : token.text ≠ []

/-- **An indented line starts with white space**; all other tokens come after the indentation. -/
theorem plainTokens_of_indented {cursor : Cursor} (hrest : cursor.rest.takeWhile isIndent ≠ [])
    (marker : String) (ended : Bool) :
    ∃ kind, kind ≠ .function ∧
      plainTokens (entries.map Rule.ofEntry) marker ended cursor =
        .emit (cursor.place (.new kind (cursor.rest.takeWhile isIndent) cursor.line))
          (plainTokens (entries.map Rule.ofEntry) marker kind.endsLine
            (cursor.advance (cursor.rest.takeWhile isIndent).length)) := by
  obtain ⟨c, rest, hcons⟩ := List.exists_cons_of_ne_nil
    (show cursor.rest ≠ [] from fun h => hrest (by rw [h]; rfl))
  have hc : isIndent c = true := by
    by_contra hc
    rw [hcons, List.takeWhile_cons_of_neg hc] at hrest
    exact hrest rfl
  obtain ⟨s, hselect, haction, htext⟩ := exists_select_blank hc rest
  rw [← hcons] at hselect htext
  have hmatched : plainTokens (entries.map Rule.ofEntry) marker ended cursor = _ :=
    plainTokens_of_matched ended (by simp [hcons]) hselect (htext ▸ hrest)
  rw [haction, htext] at hmatched
  rw [continued] at hmatched
  split at hmatched
  · exact ⟨.lineContinuation, by decide, hmatched⟩
  · exact ⟨.named "WS", by decide, hmatched⟩

section Tokens

variable {cursor : Cursor} {marker : String} {ended : Bool} {index width : Nat} {token : Token}

/-- No token but the white space before the line stands to the left of the indentation. -/
theorem indentation_le_or_isLeadingSpace (hstart : cursor.behind = [])
    (hwidth : cursor.indentation = .ok width)
    (htoken : (plainTokens (entries.map Rule.ofEntry) marker ended cursor).tokens[index]? =
      some token) :
    width ≤ token.column ∨
      IsLeadingSpace cursor.text index token ∧ token.kind ≠ .function := by
  have htext : cursor.text = cursor.rest := by rw [Cursor.text, Cursor.before, hstart]; rfl
  rw [Cursor.indentation, indentationWidth, htext] at hwidth
  by_cases hrest : cursor.rest.takeWhile isIndent = []
  · rw [hrest] at hwidth
    obtain rfl := Except.ok.inj hwidth
    exact .inl (Nat.zero_le _)
  · obtain ⟨kind, hkind, hplain⟩ := plainTokens_of_indented hrest marker ended
    have hcolumn : cursor.column = .ok 0 := by rw [cursor.column_eq, hstart]; rfl
    rw [hplain, Cursor.place, hcolumn] at htoken
    cases index with
    | zero =>
      obtain rfl := Option.some.inj htoken
      exact .inr ⟨⟨rfl, by rw [htext]; rfl, hrest⟩, hkind⟩
    | succ index =>
      refine .inl (column_le_of_mem_plainTokens (keepText_ofEntry entries).keepEmpty
        (List.mem_of_getElem? htoken) ?_)
      show cursor.column >>= _ = _
      rw [hcolumn, ← List.prefix_iff_eq_take.1 (List.takeWhile_prefix _)]
      exact hwidth

end Tokens

/-- **Columns along a line.**  Between two places of a line the columns are counted on, so that they
do not decrease, and past the end they stay as they are; a tab leads to the next tab stop, and the
width of the indentation is the column of its end.  On a line of Equelle no token but the white
space before the line stands to the left of the indentation, so that the distance from there to a
function marker is the difference of the columns. -/
theorem indentation_le_column (line : List Char) (tab : Nat) :
    (∀ p q, p ≤ q → ∀ s t, takeBytes line p = .ok s → takeBytes line q = .ok t →
      ∃ between, t = s ++ between ∧ visualColumn line q tab =
        visualColumn line p tab >>= (columnAfter (max tab 1) · between)) ∧
    (∀ p q, p ≤ q → ∀ a b, visualColumn line p tab = .ok a → visualColumn line q tab = .ok b →
      a ≤ b) ∧
    (∀ q, byteLength line ≤ q →
      visualColumn line q tab = visualColumn line (byteLength line) tab) ∧
    (∀ before after, line = before ++ '\t' :: after → ∀ a b,
      visualColumn line (byteLength before) tab = .ok a →
      visualColumn line (byteLength before + 1) tab = .ok b →
      IsLeast {stop | max tab 1 ∣ stop ∧ a < stop} b) ∧
    (∀ s rest, line = s ++ rest → (∀ c ∈ s, isIndent c = true) →
      (∀ c ∈ rest.head?, isIndent c = false) →
      indentationWidth line tab = visualColumn line (byteLength s) tab) ∧
    ∃ grammar, rules = .ok grammar ∧ ∀ (marker : String) (number width : Nat),
      let scan := LineScan.start (.start line number tab) grammar marker
      scan.cursor.indentation = .ok width → ∀ index step, scan.scan.steps[index]? = some step →
        (¬ IsLeadingSpace (trimEnding line) index step.token → width ≤ step.token.column) ∧
        (step.token.kind = .function →
          width + (step.token.column - width) = step.token.column) := by
  refine ⟨fun p q hpq s t hs ht => visualColumn_between tab hpq hs ht,
    fun p q hpq a b ha hb => visualColumn_le hpq ha hb, fun q hq => visualColumn_past_end hq,
    fun before after hline a b ha hb => isLeast_visualColumn_after_tab hline ha hb, ?_,
    _, rules_eq, ?_⟩
  · rintro s rest rfl hs hrest
    exact indentationWidth_eq_visualColumn hs hrest
  · intro marker number width scan hwidth index step hstep
    have htoken : scan.scan.plain.tokens[index]? = some step.token := by
      show (scan.scan.steps.map Step.token)[index]? = _
      rw [List.getElem?_map, hstep, Option.map_some]
    rw [LineScan.plain_scan (keepText_ofEntry entries).keepEmpty] at htoken
    have hplace := indentation_le_or_isLeadingSpace rfl hwidth htoken
    refine ⟨fun hleading => hplace.resolve_right fun h => hleading h.1, fun hkind => ?_⟩
    have hle := hplace.resolve_right fun h => h.2 hkind
    omega

/-- A line with tabs before and after its first character, which takes up two columns: the second
tab leads from column 6 to column 8, and the function marker stands at column 9, five columns after
the indentation. -/
theorem indentation_le_column_tabs :
    let line := " \t世\t Function".toList
    IsLeast {stop | 4 ∣ stop ∧ 6 < stop} 8 ∧
      ∃ grammar, rules = .ok grammar ∧
        let scan := LineScan.start (.start line 0 4) grammar "..."
        scan.cursor.indentation = .ok 4 ∧
          (scan.scan.steps.map fun step => (step.token.kind, step.token.column)) =
            [(.named "WS", 0), (.error, 4), (.named "WS", 6), (.function, 9), (.endOfLine, 17)] ∧
          ∀ step, scan.scan.steps[3]? = some step → step.token.kind = .function →
            4 + (step.token.column - 4) = step.token.column := by
  intro line
  obtain ⟨-, -, -, htab, -, grammar, hgrammar, htokens⟩ := indentation_le_column line 4
  have hbefore : visualColumn line (byteLength " \t世".toList) 4 = .ok 6 := by decide +kernel
  have hafter : visualColumn line (byteLength " \t世".toList + 1) 4 = .ok 8 := by decide +kernel
  have hstop := htab " \t世".toList " Function".toList (by decide) 6 8 hbefore hafter
  refine ⟨hstop, grammar, hgrammar, ?_⟩
  obtain rfl := Except.ok.inj (rules_eq.symm.trans hgrammar)
  let scan := LineScan.start (.start line 0 4) (entries.map Rule.ofEntry) "..."
  have hwidth : scan.cursor.indentation = .ok 4 := by decide +kernel
  exact ⟨hwidth, by decide +kernel, fun step hstep => (htokens "..." 0 4 hwidth 3 step hstep).2⟩

end Equelle

end EditorMode
