import EditorMode.Proofs.Equelle.Patterns
import EditorMode.Proofs.Selection

/-!
# The tokens of Equelle

`lexeme?` reads the first token of a text from left to right: the first character decides what it
can be, and it reaches as far as its characters go.  The grammar of Equelle says something else: all
of its rules look at the text, and the longest match wins.  `next_eq_lexeme` shows that the tokens
are the same.
-/

set_option autoImplicit false

namespace EditorMode.Equelle

open Regex Text

/-! ## Reading without rules -/

/-- The kind of a name that starts with a capital letter. -/
def nameKind (name : List Char) : Kind :=
  match keywords.find? fun keyword => keyword.1.toList == name with
  | some keyword => .ofName keyword.2
  | none => if name = "Function".toList then .function else .named "BUILTIN"

/-- The number at the start of the text, which starts with a digit. -/
def number (text : List Char) : Offer :=
  match fraction? (text.dropWhile Char.isDigit) with
  | some fraction => (.named "FLOAT", text.takeWhile Char.isDigit ++ fraction)
  | none => (.named "INT", text.takeWhile Char.isDigit)

/-- The line continuation, operator or punctuation mark at the start of the text. -/
def symbol? (text : List Char) : Option Offer :=
  if "...".toList.isPrefixOf text then some (.lineContinuation, continuation text)
  else
    match operators.find? fun operator => operator.1.toList == text.take 2 with
    | some operator => some (.ofName operator.2, text.take 2)
    | none =>
      (punctuation.find? fun mark => mark.toList == text.take 1).map fun mark =>
        (.ofName mark, text.take 1)

/-- The first token of the text: its kind and its text. -/
def lexeme? : List Char → Option Offer
  | [] => none
  | c :: rest =>
    if c.isUpper then
      let name := (c :: rest).takeWhile isNameChar
      some (nameKind name, name)
    else if isSmallStart c then some (.named "ID", (c :: rest).takeWhile isNameChar)
    else if c.isDigit then some (number (c :: rest))
    else if c = '"' then (throughQuote? rest).map fun text => (.named "STRING", '"' :: text)
    else if c = '#' then some (.named "COMMENT", c :: rest)
    else if isIndent c then some (.named "WS", (c :: rest).takeWhile isIndent)
    else symbol? (c :: rest)

/-! ## The table of rules -/

/-- The words that compete with names. -/
def nameWords : List (String × Kind) :=
  keywords.map (fun (text, kind) => (text, .ofName kind)) ++ [("Function", .function)]

def operatorWords : List (String × Kind) := operators.map fun (text, kind) => (text, .ofName kind)

def punctuationWords : List (String × Kind) := punctuation.map fun text => (text, .ofName text)

/-- The pattern of a rule, by its text and by the expression that the text is read as. -/
def expression (source : String) (e : Expr) : Pattern := .regex ⟨Pattern.anchored source, e.matcher⟩

def continuationEntry : Pattern × Kind :=
  (expression "\\.\\.\\.[ \\t]*(#.*)?" continuationExpr, .lineContinuation)

def expressionEntries : List (Pattern × Kind) :=
  [(expression "[A-Z][0-9A-Za-z_]*" (nameExpr capitals), .named "BUILTIN"),
   (expression "[a-z_][0-9A-Za-z_]*" (nameExpr smallStarts), .named "ID"),
   (expression "[0-9]+\\.[0-9]+([eE][+-]?[0-9]+)?" floatExpr, .named "FLOAT"),
   (expression "[0-9]+" (runExpr decimals), .named "INT"),
   (expression "\"(\\\\.|[^\"\\\\])*\"" stringExpr, .named "STRING"),
   (expression "#.*" commentExpr, .named "COMMENT"),
   (expression "[ \\t]+" (runExpr indents), .named "WS"),
   (expression "$" endExpr, .endOfLine)]

/-- The rules of Equelle as a table of patterns and kinds. -/
def entries : List (Pattern × Kind) :=
  nameWords.map literalEntry ++ operatorWords.map literalEntry ++ [continuationEntry] ++
    punctuationWords.map literalEntry ++ expressionEntries

set_option maxRecDepth 4000 in
theorem rules_eq : rules = .ok (entries.map Rule.ofEntry) := (rfl)

/-! ## The offers of the rules -/

/-- The classes of characters that decide what a token can be. -/
def starts (c : Char) : List Bool :=
  [c.isUpper, isSmallStart c, c.isDigit, c == '"', c == '#', isIndent c]

theorem disjoint_starts (c : Char) : (starts c).Pairwise fun a b => (a && b) = false := by
  simp [starts, isSmallStart, isIndent, ← Bool.not_eq_true, isUpper_iff_toNat, isLower_iff_toNat,
    isDigit_iff_toNat, ← Char.toNat_inj]
  omega

/-- The characters of none of the classes. -/
def isSymbolStart (c : Char) : Bool := !(starts c).any id

theorem bestOffer_nameWords_eq_none {c : Char} (hc : c.isUpper = false) (rest : List Char) :
    bestOffer (c :: rest) (nameWords.map literalEntry) = none :=
  bestOffer_words_eq_none (p := Char.isUpper) (by decide) hc rest

theorem bestOffer_operatorWords_eq_none {c : Char} (hc : isSymbolStart c = false)
    (rest : List Char) : bestOffer (c :: rest) (operatorWords.map literalEntry) = none :=
  bestOffer_words_eq_none (p := isSymbolStart) (by decide) hc rest

theorem bestOffer_punctuationWords_eq_none {c : Char} (hc : isSymbolStart c = false)
    (rest : List Char) : bestOffer (c :: rest) (punctuationWords.map literalEntry) = none :=
  bestOffer_words_eq_none (p := isSymbolStart) (by decide) hc rest

theorem isNameChar_of_isUpper {c : Char} (h : c.isUpper = true) : isNameChar c = true := by
  simp [isNameChar, h]

theorem isNameChar_of_isSmallStart {c : Char} (h : isSmallStart c = true) :
    isNameChar c = true := by
  rcases Bool.or_eq_true _ _ ▸ h with h | h
  · simp [isNameChar, h]
  · simp [isNameChar, h]

/-- A number with a fraction is longer than the one without. -/
theorem longer_float_int (text : List Char) :
    longer
        ((fraction? (text.dropWhile Char.isDigit)).map fun fraction =>
          (.named "FLOAT", text.takeWhile Char.isDigit ++ fraction))
        (some (.named "INT", text.takeWhile Char.isDigit)) =
      some (number text) := by
  rw [number]
  cases fraction? (text.dropWhile Char.isDigit) with
  | none => rfl
  | some fraction =>
    refine longer_of_le ?_
    rw [List.length_append]
    exact Nat.le_add_right _ _

/-- What the expressions make of a line, by its first character. -/
theorem bestOffer_expressionEntries {c : Char} {rest : List Char} (hline : '\n' ∉ c :: rest) :
    bestOffer (c :: rest) expressionEntries =
      if c.isUpper then some (.named "BUILTIN", (c :: rest).takeWhile isNameChar)
      else if isSmallStart c then some (.named "ID", (c :: rest).takeWhile isNameChar)
      else if c.isDigit then some (number (c :: rest))
      else if c = '"' then (throughQuote? rest).map fun text => (.named "STRING", '"' :: text)
      else if c = '#' then some (.named "COMMENT", c :: rest)
      else if isIndent c then some (.named "WS", (c :: rest).takeWhile isIndent)
      else none := by
  have hrest : '\n' ∉ rest := fun h => hline (List.mem_cons_of_mem c h)
  have hstarts := disjoint_starts c
  simp only [expressionEntries, expression, bestOffer, offer, matched?_name, matched?_float,
    matched?_run _ decimals rfl, matched?_run _ indents rfl, matched?_string _ hrest,
    matched?_comment _ hline, matched?_end, holds_capitals, holds_smallStarts, holds_decimals,
    holds_indents]
  -- no two of the conditions hold at once, so that at most one expression matches, or a number
  by_cases hupper : c.isUpper = true
  · have hothers : isSmallStart c = false ∧ c.isDigit = false ∧ ¬c = '"' ∧ ¬c = '#' ∧
        isIndent c = false := by
      simp [starts, hupper] at hstarts
      tauto
    simp [hupper, hothers, isNameChar_of_isUpper]
  by_cases hsmall : isSmallStart c = true
  · have hothers : c.isDigit = false ∧ ¬c = '"' ∧ ¬c = '#' ∧ isIndent c = false := by
      simp [starts, hsmall] at hstarts
      tauto
    simp [hupper, hsmall, hothers, isNameChar_of_isSmallStart]
  by_cases hdigit : c.isDigit = true
  · have hothers : ¬c = '"' ∧ ¬c = '#' ∧ isIndent c = false := by
      simp [starts, hdigit] at hstarts
      tauto
    simpa [hupper, hsmall, hdigit, hothers, Function.comp_def] using longer_float_int (c :: rest)
  by_cases hquote : c = '"'
  · subst hquote
    simp [hupper, hsmall, hdigit, isIndent, Function.comp_def]
  by_cases hhash : c = '#'
  · subst hhash
    simp [hupper, hsmall, hdigit, isIndent]
  · by_cases hindent : isIndent c = true
    · simp [hupper, hsmall, hdigit, hquote, hhash, hindent]
    · simp [hupper, hsmall, hdigit, hquote, hhash, hindent]

theorem find?_nameWords (name : List Char) :
    ((nameWords.find? fun word => word.1.toList == name).map Prod.snd).getD (.named "BUILTIN") =
      nameKind name := by
  rw [nameWords, List.find?_append, List.find?_map, List.find?_singleton, nameKind]
  show (Option.map _ ((Option.map _ (keywords.find? fun keyword => keyword.1.toList == name)).or
    (if "Function".toList == name then _ else _))).getD _ = _
  cases keywords.find? fun keyword => keyword.1.toList == name with
  | some keyword => rfl
  | none =>
    by_cases h : name = "Function".toList
    · rw [if_pos h, beq_iff_eq.2 h.symm]
      rfl
    · rw [if_neg h, beq_eq_false_iff_ne.2 (Ne.symm h)]
      rfl

/-- A keyword that is the whole name wins over the name. -/
theorem longer_bestOffer_nameWords (text : List Char) :
    longer (bestOffer text (nameWords.map literalEntry))
        (some (.named "BUILTIN", text.takeWhile isNameChar)) =
      some (nameKind (text.takeWhile isNameChar), text.takeWhile isNameChar) := by
  rw [longer_bestOffer_words (by decide), find?_nameWords]

theorem bestOffer_operatorWords (text : List Char) :
    bestOffer text (operatorWords.map literalEntry) =
      (operators.find? fun operator => operator.1.toList == text.take 2).map fun operator =>
        (.ofName operator.2, text.take 2) := by
  rw [bestOffer_words 2 (by decide), operatorWords, List.find?_map, Option.map_map]
  rfl

theorem bestOffer_punctuationWords (text : List Char) :
    bestOffer text (punctuationWords.map literalEntry) =
      (punctuation.find? fun mark => mark.toList == text.take 1).map fun mark =>
        (.ofName mark, text.take 1) := by
  rw [bestOffer_words 1 (by decide), punctuationWords, List.find?_map, Option.map_map]
  rfl

/-- Of the symbols, the line continuation is longer than the operators, and these are longer than
the punctuation marks. -/
theorem longer_symbols {text : List Char} (hline : '\n' ∉ text) :
    longer (longer (bestOffer text (operatorWords.map literalEntry)) (offer text continuationEntry))
        (bestOffer text (punctuationWords.map literalEntry)) =
      symbol? text := by
  rw [bestOffer_operatorWords, bestOffer_punctuationWords, offer, continuationEntry, expression,
    matched?_continuation _ hline, symbol?, show "...".toList = ['.', '.', '.'] from rfl]
  by_cases hdots : ['.', '.', '.'].isPrefixOf text = true
  · obtain ⟨rest, rfl⟩ := List.isPrefixOf_iff_prefix.1 hdots
    have hoperator : operators.find? (fun operator =>
        operator.1.toList == (['.', '.', '.'] ++ rest).take 2) = none := by
      show operators.find? (fun operator => operator.1.toList == ['.', '.']) = none
      decide
    have hthree : 3 ≤ (['.', '.', '.'] ++ rest).length := by simp
    have hlen := length_continuation hthree
    rw [hoperator, if_pos hdots, if_pos hdots]
    cases punctuation.find? fun mark => mark.toList == (['.', '.', '.'] ++ rest).take 1 with
    | none => rfl
    | some mark => exact longer_of_le (show 1 ≤ (continuation _).length by omega)
  · rw [if_neg hdots, if_neg hdots]
    cases operators.find? fun operator => operator.1.toList == text.take 2 with
    | none => rfl
    | some operator =>
      cases punctuation.find? fun mark => mark.toList == text.take 1 with
      | none => rfl
      | some mark =>
        refine longer_of_le ?_
        rw [List.length_take, List.length_take]
        omega

/-- **The best offer is the lexeme.** -/
theorem bestOffer_entries {c : Char} {rest : List Char} (hline : '\n' ∉ c :: rest) :
    bestOffer (c :: rest) entries = lexeme? (c :: rest) := by
  rw [entries, bestOffer_append, bestOffer_append, bestOffer_append, bestOffer_append,
    bestOffer_expressionEntries hline, lexeme?]
  cases hsymbol : isSymbolStart c with
  | true =>
    obtain ⟨hupper, hsmall, hdigit, hquote, hhash, hindent⟩ : c.isUpper = false ∧
        isSmallStart c = false ∧ c.isDigit = false ∧ c ≠ '"' ∧ c ≠ '#' ∧ isIndent c = false := by
      simpa [isSymbolStart, starts] using hsymbol
    rw [bestOffer_nameWords_eq_none hupper, ← longer_symbols hline]
    simp [hupper, hsmall, hdigit, hquote, hhash, hindent, bestOffer]
  | false =>
    have hcontinuation : bestOffer (c :: rest) [continuationEntry] = none := by
      have hdots : ['.', '.', '.'].isPrefixOf (c :: rest) = false := by
        rw [List.isPrefixOf_cons_cons, Bool.and_eq_false_iff, beq_eq_false_iff_ne]
        refine .inl ?_
        rintro rfl
        exact absurd hsymbol (by decide)
      rw [bestOffer, offer, continuationEntry, expression, matched?_continuation _ hline, hdots]
      rfl
    rw [bestOffer_operatorWords_eq_none hsymbol, bestOffer_punctuationWords_eq_none hsymbol,
      hcontinuation, longer_none_right, longer_none_right, longer_none_right]
    cases hupper : c.isUpper with
    | true =>
      rw [if_pos rfl, if_pos rfl]
      exact longer_bestOffer_nameWords (c :: rest)
    | false =>
      rw [bestOffer_nameWords_eq_none hupper, longer_none_left, if_neg Bool.false_ne_true,
        if_neg Bool.false_ne_true]
      -- both sides differ in the last case only, which is that of the symbols
      split_ifs with hsmall hdigit hquote hhash hindent
      · rfl
      · rfl
      · rfl
      · rfl
      · rfl
      · exact absurd hsymbol (by simp [isSymbolStart, starts, *])

/-- **The rules of Equelle find the tokens that reading from left to right finds.** -/
theorem next_eq_lexeme :
    ∃ grammar, rules = .ok grammar ∧ ∀ cursor : Cursor, cursor.rest ≠ [] → '\n' ∉ cursor.rest →
      ((cursor.next grammar).map fun result => result.map fun r => (r.token, r.after)) =
        match lexeme? cursor.rest with
        | none => .ok (.error cursor.unmatched)
        | some (kind, text) =>
          cursor.column.map fun column =>
            .ok ((Token.new kind text cursor.line).placed cursor.offset column,
              cursor.advance text.length) := by
  refine ⟨_, rules_eq, fun cursor hrest hline => ?_⟩
  obtain ⟨c, rest, hcons⟩ := List.exists_cons_of_ne_nil hrest
  have hselect := select_ofEntry entries cursor.rest
  rw [hcons, bestOffer_entries (hcons ▸ hline), ← hcons] at hselect
  rw [Cursor.next]
  cases hlexeme : lexeme? cursor.rest with
  | none =>
    rw [hlexeme] at hselect
    rw [Option.map_eq_none_iff.1 hselect]
    rfl
  | some found =>
    rw [hlexeme] at hselect
    obtain ⟨selection, hfound, heq⟩ := Option.map_eq_some_iff.1 hselect
    obtain ⟨haction, htext⟩ := Prod.mk.inj heq
    rw [hfound]
    cases hcolumn : cursor.column with
    | error fault => rfl
    | ok column =>
      show Except.ok (Except.ok ((selection.rule.action selection.text cursor.line).placed _ column,
        cursor.advance selection.text.length)) = _
      rw [haction, htext]
      rfl

/-- An exponent without digits does not belong to the number. -/
theorem next_incomplete_exponent :
    let cursor := Cursor.start "2.5e+x".toList 3 4
    cursor.rest ≠ [] ∧ '\n' ∉ cursor.rest ∧ ∃ grammar, rules = .ok grammar ∧
      ((cursor.next grammar).map fun result => result.map fun r => (r.token, r.after)) =
        .ok (.ok (⟨.named "FLOAT", "2.5".toList, 3, 0, 0⟩, cursor.advance 3)) := by
  intro cursor
  have hrest : cursor.rest ≠ [] := by decide
  have hline : '\n' ∉ cursor.rest := by decide
  obtain ⟨grammar, hgrammar, hnext⟩ := next_eq_lexeme
  exact ⟨hrest, hline, grammar, hgrammar, hnext cursor hrest hline⟩

end EditorMode.Equelle
