import EditorMode.Proofs.Equelle.Lexeme
import EditorMode.Proofs.Line.Tiling

/-!
# How a line ends

A line has no tokens if nothing of it is left without its line ending; otherwise its last token is
an end of line or a line continuation (`endsAfter_plainTokens`).  The flag that decides whether an
end of line is still to come is that of the last token alone: a line continuation with more text
after it does not count, and neither does a token of a rule that calls some text in the line an end
of line.

Where no rule does that, the only end of line is the last token
(`endOfLine_not_mem_dropLast_plainTokens`).  The grammar of Equelle is of this kind: its rule for
the end of line matches nowhere else.
-/

set_option autoImplicit false

namespace EditorMode

open Text

theorem Kind.endsLine_iff {kind : Kind} :
    kind.endsLine = true ↔ kind = .endOfLine ∨ kind = .lineContinuation := by
  cases kind <;> simp [Kind.endsLine]

/-! ## The last token -/

/-- Whether the last of the tokens ends the line; `ended` says this of a token before them. -/
def endsAfter (ended : Bool) : List Token → Bool
  | [] => ended
  | token :: tokens => endsAfter token.kind.endsLine tokens

theorem endsAfter_of_getLast? {tokens : List Token} {last : Token}
    (h : tokens.getLast? = some last) (ended : Bool) :
    endsAfter ended tokens = last.kind.endsLine := by
  induction tokens generalizing ended with
  | nil => simp at h
  | cons token tokens ih =>
    rcases tokens with _ | ⟨next, tokens⟩
    · obtain rfl : token = last := by simpa using h
      rfl
    · rw [List.getLast?_cons_cons] at h
      exact ih h token.kind.endsLine

theorem LineTokens.exists_of_stop_emit {token : Except Fault Token} {more : LineTokens}
    {stop : Cursor} (h : (emit token more).stop = .ok stop) :
    ∃ t, token = .ok t ∧ (emit token more).tokens = t :: more.tokens := by
  cases token with
  | error fault => cases h
  | ok t => exact ⟨t, rfl, rfl⟩

namespace Cursor

theorem kind_of_place {c : Cursor} {token placed : Token} (h : c.place token = .ok placed) :
    placed.kind = token.kind := by
  obtain ⟨column, -, rfl⟩ := exists_of_place h
  rfl

theorem kind_of_errorToken {c : Cursor} {token : Token} (h : c.errorToken = .ok token) :
    token.kind = .error :=
  kind_of_place h

theorem kind_of_endToken {rules : List Rule} {c : Cursor} {token : Token}
    (h : c.endToken rules = .ok token) : token.kind = .endOfLine := by
  rw [kind_of_place h]
  split
  · rfl
  · show (if _ then _ else _ : Token).kind = _
    split
    · assumption
    · rfl

end Cursor

section Plain

variable {rules : List Rule} {marker : String}

/-- The last token of a line ends it. -/
theorem endsAfter_plainTokens {ended : Bool} {c stop : Cursor}
    (h : (plainTokens rules marker ended c).stop = .ok stop) :
    endsAfter ended (plainTokens rules marker ended c).tokens = true := by
  fun_induction plainTokens rules marker ended c with
  | case1 => rfl
  | case2 ended c hrest =>
    obtain ⟨token, htoken, htokens⟩ := LineTokens.exists_of_stop_emit h
    rw [htokens, endsAfter, Cursor.kind_of_endToken htoken]
    rfl
  | case3 ended c hrest hselect ih =>
    obtain ⟨token, htoken, htokens⟩ := LineTokens.exists_of_stop_emit h
    rw [htokens, endsAfter, Cursor.kind_of_errorToken htoken]
    exact ih (stop_of_emit h)
  | case4 ended c hrest s hselect htext ih =>
    obtain ⟨token, -, htokens⟩ := LineTokens.exists_of_stop_emit h
    obtain ⟨error, herror, hmore⟩ := LineTokens.exists_of_stop_emit (stop_of_emit h)
    rw [htokens, hmore, endsAfter, endsAfter, Cursor.kind_of_errorToken herror]
    exact ih (stop_of_emit (stop_of_emit h))
  | case5 ended c hrest s hselect htext token ih =>
    obtain ⟨placed, hplaced, htokens⟩ := LineTokens.exists_of_stop_emit h
    rw [htokens, endsAfter, Cursor.kind_of_place hplaced]
    exact ih (stop_of_emit h)

/-- At the start of a line the column is no reason to break off, so that there is a token. -/
theorem plainTokens_ne_nil {c : Cursor} (hrest : c.rest ≠ []) {column : Nat}
    (hcolumn : c.column = .ok column) (ended : Bool) :
    (plainTokens rules marker ended c).tokens ≠ [] := by
  have hemit : ∀ (token : Token) (more : LineTokens),
      (LineTokens.emit (c.place token) more).tokens ≠ [] := by
    intro token more
    rw [Cursor.place, hcolumn]
    exact List.cons_ne_nil _ _
  rw [plainTokens, dif_neg hrest]
  split
  · exact hemit _ _
  · split
    · exact hemit _ _
    · exact hemit _ _

end Plain

/-! ## Ends of lines within a line -/

/-- No rule makes an end of line of a text that goes on. -/
def EndsOnlyAtEnd (rules : List Rule) : Prop :=
  ∀ rest ≠ [], ∀ s, select rules rest = some s →
    ∀ line, (s.rule.action s.text line).kind ≠ .endOfLine

theorem kind_continued_ne_endOfLine {token : Token} (h : token.kind ≠ .endOfLine)
    (marker : String) : (continued marker token).kind ≠ .endOfLine := by
  rw [continued]
  split
  · simp
  · exact h

theorem LineTokens.forall_mem_dropLast_emit {p : Token → Prop} {token : Except Fault Token}
    {more : LineTokens} (htoken : ∀ t, token = .ok t → p t)
    (hmore : ∀ t ∈ more.tokens.dropLast, p t) : ∀ t ∈ (emit token more).tokens.dropLast, p t := by
  cases token with
  | error fault => exact List.forall_mem_nil _
  | ok t =>
    obtain ⟨tokens, stop⟩ := more
    rcases tokens with _ | ⟨next, tokens⟩
    · exact List.forall_mem_nil _
    · exact List.forall_mem_cons.2 ⟨htoken t rfl, hmore⟩

/-- Tokens before the last one are no ends of lines. -/
theorem endOfLine_not_mem_dropLast_plainTokens {rules : List Rule} (hrules : EndsOnlyAtEnd rules)
    (marker : String) (ended : Bool) (c : Cursor) :
    ∀ token ∈ (plainTokens rules marker ended c).tokens.dropLast, token.kind ≠ .endOfLine := by
  have herror : ∀ {c : Cursor} (t : Token), c.errorToken = .ok t → t.kind ≠ .endOfLine := by
    intro c t ht
    simp [Cursor.kind_of_errorToken ht]
  fun_induction plainTokens rules marker ended c with
  | case1 => exact List.forall_mem_nil _
  | case2 ended c hrest =>
    -- the end of line that ends the line is the last token
    cases c.endToken rules <;> exact List.forall_mem_nil _
  | case3 ended c hrest hselect ih => exact LineTokens.forall_mem_dropLast_emit herror ih
  | case4 ended c hrest s hselect htext ih =>
    refine LineTokens.forall_mem_dropLast_emit (fun t ht => ?_)
      (LineTokens.forall_mem_dropLast_emit herror ih)
    rw [Cursor.kind_of_place ht, ← htext]
    exact hrules _ hrest _ hselect _
  | case5 ended c hrest s hselect htext token ih =>
    refine LineTokens.forall_mem_dropLast_emit (fun t ht => ?_) ih
    rw [Cursor.kind_of_place ht]
    exact kind_continued_ne_endOfLine (hrules _ hrest _ hselect _) marker

/-- With no end of line before the last token, there is one in all or none. -/
theorem countP_endOfLine {tokens : List Token} {last : Token} (hlast : tokens.getLast? = some last)
    (hends : last.kind.endsLine = true)
    (hearly : ∀ token ∈ tokens.dropLast, token.kind ≠ .endOfLine) :
    tokens.countP (·.kind == .endOfLine) = if last.kind = .lineContinuation then 0 else 1 := by
  have hsplit : tokens.dropLast ++ [last] = tokens :=
    List.dropLast_append_getLast? last hlast
  have hzero : tokens.dropLast.countP (·.kind == .endOfLine) = 0 := by
    rw [List.countP_eq_zero]
    simpa using hearly
  rw [← hsplit, List.countP_append, hzero]
  rcases Kind.endsLine_iff.1 hends with h | h
  · simp [h]
  · simp [h]

/-! ## The grammar of Equelle -/

theorem keepText_ofEntry (table : List (Pattern × Kind)) : KeepText (table.map Rule.ofEntry) := by
  intro rule hrule
  obtain ⟨entry, -, rfl⟩ := List.mem_map.1 hrule
  exact ⟨entry.1, entry.2, rfl⟩

/-- A kind with a single rule has a single pattern. -/
theorem Equelle.pattern_eq_of_mem_entries {entry : Pattern × Kind} (hentry : entry ∈ entries)
    {pattern : Pattern} (hfilter : entries.filter (·.2 == entry.2) = [(pattern, entry.2)]) :
    entry.1 = pattern := by
  have hmem : entry ∈ entries.filter (·.2 == entry.2) := by simp [List.mem_filter, hentry]
  rw [hfilter, List.mem_singleton] at hmem
  rw [hmem]

/-- The rule for the end of line does not match text. -/
theorem Equelle.endsOnlyAtEnd_rules : EndsOnlyAtEnd (entries.map Rule.ofEntry) := by
  intro rest hrest s hselect line hkind
  obtain ⟨c, rest, rfl⟩ := List.exists_cons_of_ne_nil hrest
  obtain ⟨hmem, hmatched⟩ := mem_and_matched?_of_select hselect
  obtain ⟨entry, hentry, hrule⟩ := List.mem_map.1 hmem
  rw [← hrule] at hkind hmatched
  have hends : entry.2 = .endOfLine := hkind
  have hpattern : entry.1 = expression "$" endExpr :=
    pattern_eq_of_mem_entries hentry (by rw [hends]; rfl)
  have hnone : entry.1.matched? (c :: rest) = none := by
    rw [hpattern]
    exact matched?_end _ c rest
  cases hnone.symm.trans hmatched

/-! ## The tokens of the scan -/

namespace LineScan

section Start

variable {rules : List Rule} {marker : String} {cursor : Cursor}

/-- An empty line has no tokens. -/
theorem scan_of_text_eq_nil (rules : List Rule) (marker : String) (htext : cursor.text = []) :
    (start cursor rules marker).scan = ⟨[], .ok (start cursor rules marker)⟩ := by
  have hfinished : (start cursor rules marker).finished = true := List.isEmpty_iff.2 htext
  rw [scan, run, next_of_finished hfinished]

/-- The scan gives the tokens of the recursion, where an empty line has ended from the start. -/
theorem plain_scan (hrules : KeepEmpty rules) (marker : String) (cursor : Cursor) :
    (start cursor rules marker).scan.plain =
      plainTokens rules marker cursor.text.isEmpty cursor := by
  by_cases htext : cursor.text = []
  · have hrest : cursor.rest = [] := (List.append_eq_nil_iff.1 htext).2
    rw [scan_of_text_eq_nil rules marker htext, htext, List.isEmpty_nil,
      plainTokens_of_ended hrest]
    rfl
  · rw [plain_scan_start hrules marker htext, List.isEmpty_eq_false_iff.2 htext]

theorem stop_of_outcome_scan (hrules : KeepEmpty rules) {outcome : Except Fault LineScan}
    (h : (start cursor rules marker).scan.outcome = outcome) :
    (plainTokens rules marker cursor.text.isEmpty cursor).stop = outcome.map LineScan.cursor := by
  rw [← plain_scan hrules, ← h]
  rfl

/-- A scan breaks off for one reason only. -/
theorem fault_of_scan_start (hrules : KeepEmpty rules) {fault : Fault}
    (h : (start cursor rules marker).scan.outcome = .error fault) :
    fault = .overflow ∧ columnAfter (max cursor.tabSize 1) 0 cursor.text = .error .overflow := by
  have hcolumn := columnAfter_eq_error_of_stop (stop_of_outcome_scan hrules h)
  obtain rfl := columnAfter_fault hcolumn
  exact ⟨rfl, hcolumn⟩

/-- The last token of a scan ends the line. -/
theorem endsLine_of_scan_start (hrules : KeepEmpty rules) {stop : LineScan}
    (hstop : (start cursor rules marker).scan.outcome = .ok stop) {last : Token}
    (hlast : ((start cursor rules marker).scan.steps.map Step.token).getLast? = some last) :
    last.kind.endsLine = true := by
  have hends := endsAfter_plainTokens (stop_of_outcome_scan hrules hstop)
  rw [← plain_scan hrules] at hends
  exact (endsAfter_of_getLast? hlast _).symm.trans hends

/-- Tokens of a scan before the last one are no ends of lines. -/
theorem endOfLine_not_mem_dropLast_scan_start (hrules : KeepEmpty rules)
    (hends : EndsOnlyAtEnd rules) (marker : String) (cursor : Cursor) :
    ∀ token ∈ ((start cursor rules marker).scan.steps.map Step.token).dropLast,
      token.kind ≠ .endOfLine := by
  have hearly := endOfLine_not_mem_dropLast_plainTokens hends marker cursor.text.isEmpty cursor
  rwa [← plain_scan hrules] at hearly

theorem tokens_scan_start_eq_nil_iff (hrules : KeepEmpty rules) (marker : String)
    (text : List Char) (line tabSize : Nat) :
    (start (Cursor.start text line tabSize) rules marker).scan.steps.map Step.token = [] ↔
      trimEnding text = [] := by
  constructor
  · contrapose!
    intro htext
    have hplain := plain_scan hrules marker (Cursor.start text line tabSize)
    have htokens : (plainTokens rules marker (trimEnding text).isEmpty _).tokens ≠ [] :=
      plainTokens_ne_nil (c := Cursor.start text line tabSize) htext rfl _
    exact (congrArg LineTokens.tokens hplain).trans_ne htokens
  · intro htext
    have hempty : (Cursor.start text line tabSize).text = [] := htext
    rw [scan_of_text_eq_nil rules marker hempty, List.map_nil]

end Start

/-- **How a line ends.**  Without its line ending, a line is empty if and only if it has no tokens.
Otherwise its last token is an end of line or a line continuation, provided that the scan comes to
the end of the line; only columns that are too large can prevent this.  In Equelle no token before
the last one is an end of line, so that there is one end of line in all, or none after a line
continuation. -/
theorem scan_ends_line :
    (∀ rules, KeepEmpty rules → ∀ (marker : String) (text : List Char) (line tabSize : Nat),
      let scanned := (start (Cursor.start text line tabSize) rules marker).scan
      let tokens := scanned.steps.map Step.token
      (tokens = [] ↔ trimEnding text = []) ∧
        (∀ fault, scanned.outcome = .error fault →
          fault = .overflow ∧
            columnAfter (max tabSize 1) 0 (trimEnding text) = .error .overflow) ∧
        ∀ stop, scanned.outcome = .ok stop → ∀ last, tokens.getLast? = some last →
          last.kind = .endOfLine ∨ last.kind = .lineContinuation) ∧
      ∃ grammar, Equelle.rules = .ok grammar ∧ KeepEmpty grammar ∧
        ∀ (marker : String) (text : List Char) (line tabSize : Nat),
          let scanned := (start (Cursor.start text line tabSize) grammar marker).scan
          let tokens := scanned.steps.map Step.token
          (∀ token ∈ tokens.dropLast, token.kind ≠ .endOfLine) ∧
            ∀ stop, scanned.outcome = .ok stop → ∀ last, tokens.getLast? = some last →
              tokens.countP (·.kind == .endOfLine) =
                if last.kind = .lineContinuation then 0 else 1 := by
  refine ⟨fun rules hrules marker text line tabSize => ?_,
    _, Equelle.rules_eq, (keepText_ofEntry _).keepEmpty, fun marker text line tabSize => ?_⟩
  · intro scanned tokens
    refine ⟨tokens_scan_start_eq_nil_iff hrules marker text line tabSize, fun fault hfault => ?_,
      fun stop hstop last hlast => ?_⟩
    · obtain ⟨rfl, hcolumn⟩ := fault_of_scan_start hrules hfault
      have hcolumn' : columnAfter (max (max tabSize 1) 1) 0 (trimEnding text) = .error .overflow :=
        hcolumn
      exact ⟨rfl, by rwa [Nat.max_assoc, Nat.max_self] at hcolumn'⟩
    · exact Kind.endsLine_iff.1 (endsLine_of_scan_start hrules hstop hlast)
  · intro scanned tokens
    have hearly : ∀ token ∈ tokens.dropLast, token.kind ≠ .endOfLine :=
      endOfLine_not_mem_dropLast_scan_start (keepText_ofEntry _).keepEmpty
        Equelle.endsOnlyAtEnd_rules marker _
    refine ⟨hearly, fun stop hstop last hlast => countP_endOfLine hlast ?_ hearly⟩
    exact endsLine_of_scan_start (keepText_ofEntry _).keepEmpty hstop hlast

/-- A line continuation and an end of line in the middle of a line do not end it. -/
theorem scan_ends_line_after_marks :
    let rules : List Rule := [.literal "..." (.named "DOTS"), .literal ";" .endOfLine]
    let scanned := (start (Cursor.start "...;x\r\n".toList 0 4) rules "...").scan
    KeepEmpty rules ∧ (∃ stop, scanned.outcome = .ok stop) ∧
      scanned.steps.map (·.token.kind) = [.lineContinuation, .endOfLine, .error, .endOfLine] ∧
      ∀ last, (scanned.steps.map Step.token).getLast? = some last →
        last.kind = .endOfLine ∨ last.kind = .lineContinuation := by
  intro rules scanned
  have hrules : KeepEmpty rules := by
    intro rule hrule rest _ line
    rcases List.mem_pair.1 hrule with rfl | rfl
    · rfl
    · rfl
  obtain ⟨-, hfault, hlast⟩ := scan_ends_line.1 rules hrules "..." "...;x\r\n".toList 0 4
  have hcolumns : columnAfter (max 4 1) 0 (trimEnding "...;x\r\n".toList) = .ok 5 := by
    decide +kernel
  have hstop : ∃ stop, scanned.outcome = .ok stop := by
    cases houtcome : scanned.outcome with
    | error fault => cases hcolumns.symm.trans (hfault fault houtcome).2
    | ok stop => exact ⟨stop, rfl⟩
  obtain ⟨stop, houtcome⟩ := hstop
  exact ⟨hrules, ⟨stop, houtcome⟩, by decide +kernel, hlast stop houtcome⟩

end LineScan

end EditorMode
