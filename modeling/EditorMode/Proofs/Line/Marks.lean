import EditorMode.Proofs.Line.Columns

/-!
# Line continuations among the tokens of a line

A token that a rule makes becomes a line continuation if it starts with the continuation marker.
The other tokens of a line keep their kinds: the end of the line has no text, but the error token of
a character that is given up may well be the marker.  So a marker of a single character that no rule
matches does not continue a line (`LineScan.error_of_marker`), and this is the only exception
(`LineScan.lineContinuation_iff_of_mem_scan`).

`Step.KindFits` says for each origin of a token what its text and its kind are.  It holds of the
token of a single call (`LineScan.kindFits_of_next`), and so of all tokens of a scan.
-/

set_option autoImplicit false

namespace EditorMode

/-- The text and the kind of a token, by its origin. -/
def Step.KindFits (rules : List Rule) (marker : String) (step : Step) : Prop :=
  match step.origin with
  | .rule s _ => ∃ pattern kind, s.rule = .ofKind pattern kind ∧ s.rule ∈ rules ∧
      step.token.text = s.text ∧
      step.token.kind = if marker.toList <+: s.text then .lineContinuation else kind
  | .unmatched _ => (∃ c, step.token.text = [c]) ∧ step.token.kind = .error
  | .lineEnd _ => step.token.text = [] ∧ step.token.kind = .endOfLine

namespace Cursor

variable {c : Cursor} {token : Token}

theorem text_of_place {made : Token} (h : c.place made = .ok token) : token.text = made.text := by
  obtain ⟨column, -, rfl⟩ := exists_of_place h
  rfl

theorem exists_text_of_errorToken (hrest : c.rest ≠ []) (h : c.errorToken = .ok token) :
    ∃ x, token.text = [x] := by
  obtain ⟨x, rest, hx⟩ := List.exists_cons_of_ne_nil hrest
  refine ⟨x, (text_of_place h).trans ?_⟩
  show c.rest.take 1 = [x]
  rw [hx]
  rfl

end Cursor

namespace Step.KindFits

variable {rules : List Rule} {marker : String} {step : Step}

theorem lineContinuation_iff (h : step.KindFits rules marker) :
    step.token.kind = .lineContinuation ↔ ∃ selection was, step.origin = .rule selection was ∧
      selection.rule ∈ rules ∧ (marker.toList <+: step.token.text ∨
        ∃ pattern, selection.rule = .ofKind pattern .lineContinuation) := by
  obtain ⟨token, origin, position⟩ := step
  cases origin with
  | rule s was =>
    obtain ⟨pattern, kind, hrule, hmem, htext, hkind⟩ := h
    constructor
    · intro hcontinuation
      refine ⟨s, was, rfl, hmem, ?_⟩
      by_cases hstarts : marker.toList <+: s.text
      · exact .inl (htext ▸ hstarts)
      · rw [if_neg hstarts] at hkind
        exact .inr ⟨pattern, hrule.trans (by rw [← hkind, hcontinuation])⟩
    · rintro ⟨selection, _, horigin, -, hstarts | ⟨other, hother⟩⟩
      · rw [hkind, if_pos (htext ▸ hstarts)]
      · obtain rfl := (Origin.rule.inj horigin).1
        have hsame : kind = .lineContinuation :=
          congrArg (fun rule => (rule.action [] 0).kind) (hrule.symm.trans hother)
        rw [hkind, hsame, ite_self]
  | unmatched error =>
    refine ⟨fun hcontinuation => ?_, ?_⟩
    · cases h.2.symm.trans hcontinuation
    · rintro ⟨_, _, horigin, -⟩
      cases horigin
  | lineEnd selection =>
    refine ⟨fun hcontinuation => ?_, ?_⟩
    · cases h.2.symm.trans hcontinuation
    · rintro ⟨_, _, horigin, -⟩
      cases horigin

theorem error_of_prefix (h : step.KindFits rules marker) (hmarker : marker.toList ≠ [])
    (hstarts : marker.toList <+: step.token.text) (hkind : step.token.kind ≠ .lineContinuation) :
    step.token.kind = .error ∧ (∃ error, step.origin = .unmatched error) ∧
      ∃ c, marker.toList = [c] ∧ step.token.text = [c] := by
  obtain ⟨token, origin, position⟩ := step
  cases origin with
  | rule s was =>
    obtain ⟨pattern, kind, hrule, hmem, htext, hmade⟩ := h
    exact absurd (hmade.trans (if_pos (htext ▸ hstarts))) hkind
  | unmatched error =>
    obtain ⟨⟨c, htext⟩, hmade⟩ := h
    rw [htext] at hstarts
    have hlength := List.length_pos_iff.2 hmarker
    exact ⟨hmade, ⟨error, rfl⟩, c, hstarts.eq_of_length_le hlength, htext⟩
  | lineEnd selection =>
    rw [h.1] at hstarts
    exact absurd (List.prefix_nil.1 hstarts) hmarker

end Step.KindFits

namespace LineScan

variable {s after : LineScan} {step : Step}

theorem kindFits_of_recover (hrest : s.cursor.rest ≠ []) {error : LexError}
    (h : some <$> s.recover error = .ok (some (step, after))) :
    step.KindFits s.rules s.marker ∧ after.rules = s.rules ∧ after.marker = s.marker := by
  rw [recover_eq, map_eq_ok_iff] at h
  obtain ⟨token, htoken, heq⟩ := h
  obtain ⟨rfl, rfl⟩ := Prod.mk.inj (Option.some.inj heq)
  have htext := Cursor.exists_text_of_errorToken hrest htoken
  exact ⟨⟨htext, Cursor.kind_of_errorToken htoken⟩, rfl, rfl⟩

theorem kindFits_of_lineEnd (hrules : KeepText s.rules) (hrest : s.cursor.rest = [])
    (h : some <$> s.lineEnd = .ok (some (step, after))) :
    step.KindFits s.rules s.marker ∧ after.rules = s.rules ∧ after.marker = s.marker := by
  rw [lineEnd_eq, map_eq_ok_iff] at h
  obtain ⟨token, htoken, heq⟩ := h
  obtain ⟨rfl, rfl⟩ := Prod.mk.inj (Option.some.inj heq)
  rw [hrules.endToken_eq hrest] at htoken
  exact ⟨⟨Cursor.text_of_place htoken, Cursor.kind_of_place htoken⟩, rfl, rfl⟩

/-- A token from a rule has the kind of the rule, unless it starts with the marker. -/
theorem kindFits_of_matched (hrules : KeepText s.rules) (hmarker : s.marker.toList ≠ [])
    (hfinished : s.finished = false) (hrest : s.cursor.rest ≠ [])
    (hstalled : s.stalledAt ≠ some s.cursor.position) {selection : Selection}
    (hselect : select s.rules s.cursor.rest = some selection)
    (h : s.next = .ok (some (step, after))) :
    step.KindFits s.rules s.marker ∧ after.rules = s.rules ∧ after.marker = s.marker := by
  rw [next_of_matched hfinished hrest hstalled hselect, map_eq_ok_iff] at h
  obtain ⟨token, htoken, heq⟩ := h
  obtain ⟨rfl, rfl⟩ := Prod.mk.inj (Option.some.inj heq)
  obtain ⟨hmem, -⟩ := mem_and_matched?_of_select hselect
  obtain ⟨pattern, kind, hrule⟩ := hrules _ hmem
  have hmade : selection.rule.action selection.text s.cursor.line =
      .new kind selection.text s.cursor.line := by
    rw [hrule]
    rfl
  rw [hmade] at htoken
  refine ⟨⟨pattern, kind, hrule, hmem, ?_, ?_⟩, rfl, rfl⟩
  · exact (Cursor.text_of_place htoken).trans (text_continued _ _)
  · rw [Cursor.kind_of_place htoken, continued]
    by_cases hstarts : s.marker.toList <+: selection.text
    · rw [if_pos hstarts, if_pos ⟨hmarker, hstarts⟩]
    · rw [if_neg hstarts, if_neg fun hboth => hstarts hboth.2]
      rfl

/-- **One call**, whichever way its token leaves it. -/
theorem kindFits_of_next (hrules : KeepText s.rules) (hmarker : s.marker.toList ≠ [])
    (h : s.next = .ok (some (step, after))) :
    step.KindFits s.rules s.marker ∧ after.rules = s.rules ∧ after.marker = s.marker := by
  cases hfinished : s.finished with
  | true => cases (next_of_finished hfinished).symm.trans h
  | false =>
    by_cases hrest : s.cursor.rest = []
    · cases hterminated : s.terminated with
      | true => cases (next_of_terminated hrest hterminated).symm.trans h
      | false =>
        rw [next_at_end hfinished hrest hterminated] at h
        exact kindFits_of_lineEnd hrules hrest h
    · by_cases hstalled : s.stalledAt = some s.cursor.position
      · rw [next_of_stalled hfinished hrest hstalled] at h
        exact kindFits_of_recover hrest h
      · cases hselect : select s.rules s.cursor.rest with
        | none =>
          rw [next_of_unmatched hfinished hrest hstalled hselect] at h
          exact kindFits_of_recover hrest h
        | some selection =>
          exact kindFits_of_matched hrules hmarker hfinished hrest hstalled hselect h

/-- All calls. -/
theorem kindFits_of_mem_run {count : Nat} (hrules : KeepText s.rules)
    (hmarker : s.marker.toList ≠ []) (h : step ∈ (s.run count).steps) :
    step.KindFits s.rules s.marker := by
  induction count generalizing s with
  | zero => cases h
  | succ count ih =>
    rw [run] at h
    cases hnext : s.next with
    | error fault =>
      rw [hnext] at h
      cases h
    | ok result =>
      rw [hnext] at h
      cases result with
      | none => cases h
      | some result =>
        obtain ⟨first, after⟩ := result
        obtain ⟨hfirst, hafterRules, hafterMarker⟩ := kindFits_of_next hrules hmarker hnext
        rcases List.mem_cons.1 h with rfl | h
        · exact hfirst
        · rw [← hafterRules, ← hafterMarker]
          exact ih (hafterRules ▸ hrules) (hafterMarker ▸ hmarker) h

/-- **Which tokens are line continuations.**  Where all rules make tokens of one kind each, a token
is a line continuation if and only if a rule made it and it starts with the marker or the rule is
one for line continuations.  A token that starts with the marker and is no line continuation is the
error token of a single character, which is the whole marker. -/
theorem lineContinuation_iff_of_mem_scan {rules : List Rule} (hrules : KeepText rules)
    {marker : String} (hmarker : marker.toList ≠ []) {text : List Char} {line tabSize : Nat}
    (hstep : step ∈ (start (.start text line tabSize) rules marker).scan.steps) :
    (step.token.kind = .lineContinuation ↔ ∃ selection was, step.origin = .rule selection was ∧
      selection.rule ∈ rules ∧ (marker.toList <+: step.token.text ∨
        ∃ pattern, selection.rule = .ofKind pattern .lineContinuation)) ∧
    (marker.toList <+: step.token.text → step.token.kind ≠ .lineContinuation →
      step.token.kind = .error ∧ (∃ error, step.origin = .unmatched error) ∧
        ∃ c, marker.toList = [c] ∧ step.token.text = [c]) := by
  have hfits : step.KindFits rules marker :=
    kindFits_of_mem_run (s := start (.start text line tabSize) rules marker) hrules hmarker hstep
  exact ⟨hfits.lineContinuation_iff, hfits.error_of_prefix hmarker⟩

/-- A rule for line continuations, a rule whose token starts with the marker, and the marker where
no rule matches. -/
theorem lineContinuation_iff_of_mem_scan_tilde :
    let rules : List Rule := [.literal "&" .lineContinuation, .literal "~x" (.named "X")]
    let scanned := (start (.start "&~x~".toList 0 4) rules "~").scan
    KeepText rules ∧
      scanned.steps.map (fun step => (step.token.kind, step.token.text)) =
        [(.lineContinuation, ['&']), (.lineContinuation, ['~', 'x']), (.error, ['~']),
          (.endOfLine, [])] ∧
      ∀ step ∈ scanned.steps, "~".toList <+: step.token.text →
        step.token.kind ≠ .lineContinuation →
        step.token.kind = .error ∧ (∃ error, step.origin = .unmatched error) ∧
          ∃ c, "~".toList = [c] ∧ step.token.text = [c] := by
  intro rules scanned
  have hrules : KeepText rules := keepText_ofEntry
    [(.literal "&", .lineContinuation), (.literal "~x", .named "X")]
  refine ⟨hrules, by decide +kernel, ?_⟩
  intro step hstep
  exact (lineContinuation_iff_of_mem_scan hrules (by decide) hstep).2

/-- In Equelle no rule matches a backslash.  As the continuation marker it is an error, and the line
ends. -/
theorem error_of_marker :
    let config := { Config.standard with continuationMarker := "\\" }
    ∃ m, Equelle.modeWith config = .ok m ∧ KeepText m.rules ∧
      ((m.scan 0 "x \\".toList).scan.steps.map fun step => (step.token.kind, step.token.text)) =
        [(.named "ID", ['x']), (.named "WS", [' ']), (.error, ['\\']), (.endOfLine, [])] ∧
      ∃ step ∈ (m.scan 0 "x \\".toList).scan.steps,
        m.config.continuationMarker.toList <+: step.token.text ∧
          step.token.kind ≠ .lineContinuation := by
  intro config
  let m : Mode := ⟨Equelle.entries.map Rule.ofEntry, Equelle.styles, config⟩
  have hm : Equelle.modeWith config = .ok m := by
    rw [Equelle.modeWith, Equelle.rules_eq]
    rfl
  exact ⟨m, hm, keepText_ofEntry _, by decide +kernel, by decide +kernel⟩

end LineScan

end EditorMode
