import EditorMode.Proofs.Mode

/-!
# Between two lines

Within a line the flags of a document move back and forth: an end of line in the middle sets one, a
line continuation another, and any token after them may take the first one back.  Between two lines
the state is simple again.  Either nothing but blank lines has been read, and the state is that of a
new document, or the last token of the last line that is not blank decides: the document is at the
end of a line or its logical line is continued, and never both (`Mode.atBoundary_of_reparse`).

The step lemma is `Mode.atBoundary_step`, for one more line at the end; a blank line keeps the
token that decides, and any other line brings a new one.
-/

set_option autoImplicit false

namespace EditorMode

open Text

/-! ## The last token decides -/

/-- The state between two lines, if a token of this kind was the last one. -/
structure Document.EndedBy (d : Document) (kind : Kind) : Prop where
  /-- Just one of the two holds. -/
  one : d.atLineEnd = !d.continued
  atLineEnd : d.atLineEnd = true ↔ kind = .endOfLine
  continued : d.continued = true ↔ kind = .lineContinuation
  anchor : d.continued = false → d.anchor = 0

namespace Tracker

/-- Whatever the flags were before, a token that ends the line sets them. -/
theorem endedBy_advanced (t : Tracker) (d : Document) {token : Token}
    (hkind : token.kind.endsLine = true) (indentation : Nat) :
    (t.advanced d token indentation).EndedBy token.kind := by
  rw [advanced]
  rcases Kind.endsLine_iff.1 hkind with h | h
  · rw [h]
    exact ⟨rfl, by simp, by simp, fun _ => rfl⟩
  · rw [h]
    exact ⟨atLineEnd_leaveLine d, by simp [atLineEnd_leaveLine], by simp, by simp⟩

theorem endedBy_of_trackRun (t : Tracker) {d e : Document} (hd : d.Consistent) {indentation : Nat}
    {tokens : List Token} {last : Token} (hlast : tokens.getLast? = some last)
    (hkind : last.kind.endsLine = true)
    (h : (t.trackRun d (tokens.map (·, indentation))).outcome = .ok e) : e.EndedBy last.kind := by
  obtain ⟨early, rfl⟩ := List.getLast?_eq_some_iff.1 hlast
  rw [List.map_append] at h
  obtain ⟨before, -, rfl⟩ := t.exists_of_trackRun_concat hd h
  exact t.endedBy_advanced before hkind indentation

end Tracker

/-! ## Safety -/

namespace Mode

open LineScan (KeepEmpty)

section Safe

variable {m : Mode} (hrules : KeepEmpty m.rules)

include hrules

theorem safe_advanceLine {d : Document} (hd : d.Consistent) (line : Nat) (text : List Char) :
    Safe (m.advanceLine d line text).outcome := by
  have hstop : ∀ fault, (m.scan line text).scan.plain.stop = .error fault → fault = .overflow := by
    intro fault h
    rw [scan, LineScan.plain_scan hrules] at h
    exact columnAfter_fault (columnAfter_eq_error_of_stop h)
  rw [outcome_advanceLine]
  cases hindentation : (m.scan line text).cursor.indentation with
  | error fault => exact columnAfter_fault hindentation
  | ok indentation =>
    refine (m.tracker.safe_trackRun hd _).bind fun e he => ?_
    cases h : (m.scan line text).scan.plain.stop with
    | error fault => exact hstop fault h
    | ok stop => exact he

theorem safe_advanceLines {d : Document} (hd : d.Consistent) (line : Nat)
    (texts : List (List Char)) : Safe (m.advanceLines d line texts).outcome := by
  induction texts generalizing d line with
  | nil => exact hd
  | cons text texts ih =>
    rw [advanceLines, Logged.outcome_bind]
    exact (safe_advanceLine hrules hd _ text).bind fun e he => ih he _

theorem consistent_of_advanceLines {texts : List (List Char)} {d : Document}
    (h : (m.advanceLines .start 0 texts).outcome = .ok d) : d.Consistent :=
  (safe_advanceLines hrules Document.consistent_start 0 texts).consistent h

end Safe

/-! ## Lines -/

/-- The state after lines: that of a new document after blank lines only, and otherwise one that the
last token of the last line that is not blank decides. -/
def AtBoundary (m : Mode) (texts : List (List Char)) (d : Document) : Prop :=
  d = .start ∧ (∀ text ∈ texts, trimEnding text = []) ∨
    ∃ early text blank tokens last, texts = early ++ text :: blank ∧ trimEnding text ≠ [] ∧
      (∀ text ∈ blank, trimEnding text = []) ∧
      (m.tokens (early.length % offsetBound) text).outcome = .ok tokens ∧
      tokens.getLast? = some last ∧ d.EndedBy last.kind

section Boundary

variable {m : Mode} (hrules : KeepEmpty m.rules)

include hrules

/-- A line that is not blank has a last token, and that token decides. -/
theorem endedBy_of_advanceLine {d e : Document} (hd : d.Consistent) {line : Nat}
    {text : List Char} (htext : trimEnding text ≠ [])
    (h : (m.advanceLine d line text).outcome = .ok e) :
    ∃ tokens last, (m.tokens line text).outcome = .ok tokens ∧ tokens.getLast? = some last ∧
      e.EndedBy last.kind := by
  obtain ⟨tokens, indentation, htokens, -, hrun⟩ := (m.outcome_advanceLine_eq_ok_iff d line).1 h
  obtain ⟨stop, hstop, rfl⟩ := map_eq_ok_iff.1 htokens
  have hne : (m.scan line text).scan.steps.map Step.token ≠ [] :=
    mt (LineScan.tokens_scan_start_eq_nil_iff hrules _ text line _).1 htext
  obtain ⟨last, hlast⟩ := Option.ne_none_iff_exists'.1 (mt List.getLast?_eq_none_iff.1 hne)
  have hkind : last.kind.endsLine = true := LineScan.endsLine_of_scan_start hrules hstop hlast
  exact ⟨_, last, htokens, hlast, m.tracker.endedBy_of_trackRun hd hlast hkind hrun⟩

/-- **One more line.** -/
theorem atBoundary_step {texts : List (List Char)} {d e : Document} (hd : d.Consistent)
    (hboundary : m.AtBoundary texts d) {text : List Char}
    (h : (m.advanceLine d (texts.length % offsetBound) text).outcome = .ok e) :
    m.AtBoundary (texts ++ [text]) e := by
  by_cases htext : trimEnding text = []
  · rw [m.advanceLine_of_blank _ _ htext] at h
    obtain rfl := Except.ok.inj h
    rcases hboundary with
      ⟨hstart, hblank⟩ | ⟨early, line, blank, tokens, last, rfl, hline, hblank, hlast⟩
    · refine .inl ⟨hstart, ?_⟩
      simpa [or_imp, forall_and, htext] using hblank
    · refine .inr ⟨early, line, blank ++ [text], tokens, last, by simp, hline, ?_, hlast⟩
      simpa [or_imp, forall_and, htext] using hblank
  · obtain ⟨tokens, last, htokens, hlast, hended⟩ := endedBy_of_advanceLine hrules hd htext h
    exact .inr ⟨texts, text, [], tokens, last, rfl, htext, List.forall_mem_nil _, htokens, hlast,
      hended⟩

theorem atBoundary_of_advanceLines {texts : List (List Char)} {e : Document}
    (h : (m.advanceLines .start 0 texts).outcome = .ok e) : m.AtBoundary texts e := by
  induction texts using List.reverseRecOn generalizing e with
  | nil =>
    obtain rfl := Except.ok.inj h
    exact .inl ⟨rfl, List.forall_mem_nil _⟩
  | append_singleton texts text ih =>
    rw [advanceLines_append, Logged.outcome_bind, bind_eq_ok_iff] at h
    obtain ⟨d, hd, hlast⟩ := h
    refine atBoundary_step hrules (consistent_of_advanceLines hrules hd) (ih hd) ?_
    simpa [advanceLines] using hlast

end Boundary

theorem AtBoundary.anchor {m : Mode} {texts : List (List Char)} {d : Document}
    (h : m.AtBoundary texts d) (hcontinued : d.continued = false) : d.anchor = 0 := by
  rcases h with ⟨rfl, -⟩ | ⟨_, _, _, _, _, -, -, -, -, -, hended⟩
  · rfl
  · exact hended.anchor hcontinued

/-- A document that can be read can be read up to any of its lines. -/
theorem outcome_advanceLines_take_ne {m : Mode} {fault : Fault} {text : List Char}
    (h : (m.reparse text).outcome ≠ .error fault) (count : Nat) :
    (m.advanceLines .start 0 ((lines text).take count)).outcome ≠ .error fault := by
  intro hfault
  refine h ?_
  rw [reparse, ← List.take_append_drop count (lines text), advanceLines_append,
    Logged.outcome_bind, hfault]
  rfl

/-- **Between two lines.**  Unless a sum passes its bound, a document has a state after any number
of its lines.  After blank lines only this is the state of a new document.  Otherwise the document
is at the end of a line or its logical line is continued, and not both, as the last token of the
last line that is not blank is an end of line or a line continuation.  Where the line is not
continued, there is no column to align to. -/
theorem atBoundary_of_reparse {m : Mode} (hrules : KeepEmpty m.rules) {text : List Char}
    (hfits : (m.reparse text).outcome ≠ .error .overflow) (count : Nat) :
    ∃ d, (m.advanceLines .start 0 ((lines text).take count)).outcome = .ok d ∧
      m.AtBoundary ((lines text).take count) d ∧ (d.continued = false → d.anchor = 0) := by
  have hsafe := safe_advanceLines hrules Document.consistent_start 0 ((lines text).take count)
  have hne := outcome_advanceLines_take_ne hfits count
  cases h : (m.advanceLines .start 0 ((lines text).take count)).outcome with
  | error fault =>
    rw [h] at hsafe hne
    exact absurd (congrArg _ hsafe) hne
  | ok d =>
    have hboundary := atBoundary_of_advanceLines hrules h
    exact ⟨d, rfl, hboundary, hboundary.anchor⟩

/-- A function marker on a continued line; the blank line after it leaves the state as it is, and
the end of line before the marker does not count. -/
theorem atBoundary_after_continuation :
    let rules : List Rule :=
      [.literal "Function" .function, .literal ";" .endOfLine, .literal "..." .lineContinuation]
    let m : Mode := ⟨rules, .empty, .standard⟩
    let text := "\n;Function...\n\r\nx".toList
    KeepEmpty m.rules ∧ (m.reparse text).outcome ≠ .error .overflow ∧
      ∃ d, (m.advanceLines .start 0 ((lines text).take 3)).outcome = .ok d ∧
        m.AtBoundary ((lines text).take 3) d ∧ d = ⟨0, [0], false, false, true, 9⟩ := by
  intro rules m text
  have hrules : KeepEmpty m.rules := by
    refine KeepText.keepEmpty fun rule hrule => ?_
    simp only [m, rules, List.mem_cons, List.not_mem_nil, or_false] at hrule
    rcases hrule with rfl | rfl | rfl <;> exact ⟨_, _, rfl⟩
  have hfits : (m.reparse text).outcome ≠ .error .overflow := by decide +kernel
  have hstate : (m.advanceLines .start 0 ((lines text).take 3)).outcome =
      .ok ⟨0, [0], false, false, true, 9⟩ := by decide +kernel
  obtain ⟨d, hd, hboundary, -⟩ := atBoundary_of_reparse hrules hfits 3
  exact ⟨hrules, hfits, d, hd, hboundary, Except.ok.inj (hd.symm.trans hstate)⟩

end Mode

end EditorMode
