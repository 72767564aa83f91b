import EditorMode.Proofs.Equelle.Code
import EditorMode.Proofs.Mode.Boundary
import EditorMode.Proofs.Tracking.Levels

/-!
# Braces and levels

In Equelle the nesting level of a document can be read off its braces, without any tokens:
`braceLevel` counts the braces in the code of a line, and `level_of_reparse` says that the level at
the end of a document is what this count comes to over all lines.

One token changes the level as its own braces do (`IsLexeme.braceLevel`), a line as all its braces
do (`clampedLevel_lexemes`).
-/

set_option autoImplicit false

namespace EditorMode.Equelle

open Regex Text

/-! ## The braces of a line -/

/-- The level after a part of a line: a brace of a text in quotes does not count. -/
def Part.levelAfter (level : Nat) : Part → Nat
  | .plain '\x7b' => level + 1
  | .plain '\x7d' => level - 1
  | _ => level

/-- The level after a line, by its braces. -/
def braceLevel (level : Nat) (line : List Char) : Nat := (code line).foldl Part.levelAfter level

theorem IsPlain.braceLevel {text : List Char} (h : IsPlain text) (level : Nat) :
    braceLevel level text = level := by
  rw [Equelle.braceLevel, h.code_eq]
  induction text with
  | nil => rfl
  | cons c text ih =>
    rw [IsPlain, List.forall_mem_cons] at h
    have hc : Part.levelAfter level (.plain c) = level := by
      rw [Part.levelAfter]
      · rintro ⟨⟩
        exact h.1 (by decide)
      · rintro ⟨⟩
        exact h.1 (by decide)
    rw [List.map_cons, List.foldl_cons, hc, ih h.2]

theorem levelAfter_of_isOrdinary {kind : Kind} (h : kind.isOrdinary = true) (level : Nat) :
    Tracker.levelAfter level kind = level := by
  cases kind <;> first | rfl | cases h

/-- A token changes the level as its braces do. -/
theorem IsLexeme.braceLevel {kind : Kind} {found after : List Char} (h : IsLexeme kind found after)
    (level : Nat) : braceLevel level found = Tracker.levelAfter level kind := by
  cases h with
  | opening => simp [Equelle.braceLevel, code, Part.levelAfter, Tracker.levelAfter]
  | closing => simp [Equelle.braceLevel, code, Part.levelAfter, Tracker.levelAfter]
  | quoted h =>
    rw [Equelle.braceLevel, code_quotes h]
    rfl
  | stray h =>
    rw [Equelle.braceLevel, code_stray rfl]
    simp [code, Part.levelAfter, Tracker.levelAfter]
  | comment text =>
    rw [Equelle.braceLevel, code_comment]
    rfl
  | continuation hblanks => exact (isPlain_continuation hblanks).braceLevel level
  | commented hblanks text =>
    rw [Equelle.braceLevel, code_commented hblanks]
    exact (isPlain_continuation hblanks).braceLevel level
  | dot => exact IsPlain.braceLevel (by decide) level
  | blanks hne htext => exact (isPlain_of_forall_isIndent htext).braceLevel level
  | word hkind htext => rw [htext.isPlain.braceLevel, levelAfter_of_isOrdinary hkind]

/-- The level after the tokens of a line is that after its braces. -/
theorem clampedLevel_lexemes (ended : Bool) (level : Nat) (text : List Char) :
    Tracker.clampedLevel level ((lexemes ended text).map Prod.fst) = braceLevel level text := by
  induction text using lexemes_induction generalizing ended level with
  | nil =>
    rw [lexemes, braceLevel, code]
    cases ended <;> rfl
  | append kind found after hlexeme hlexemes ih =>
    have hfound := hlexeme.braceLevel level
    rw [braceLevel] at hfound
    rw [hlexemes, List.map_cons, braceLevel, hlexeme.code_append, List.foldl_append, hfound]
    exact ih _ _

theorem braceLevel_trimEnding (level : Nat) (line : List Char) :
    braceLevel level (trimEnding line) = braceLevel level line := by
  have hsplit : line = trimEnding line ++ line.rtakeWhile isEnding :=
    (List.rdropWhile_append_rtakeWhile ..).symm
  have hplain : IsPlain (line.rtakeWhile isEnding) :=
    isPlain_of_forall rfl fun c hc => List.mem_rtakeWhile_imp hc
  conv_rhs => rw [hsplit]
  rw [braceLevel, braceLevel]
  rcases code_append_or (trimEnding line) hplain with h | h
  · rw [h]
  · rw [h, List.foldl_append]
    exact (hplain.braceLevel _).symm

/-! ## Documents -/

section Documents

variable {d e : Document} (hd : d.Consistent)

include hd

/-- A line changes the level as its braces do. -/
theorem level_of_advanceLine {line : Nat} {text : List Char} (htext : '\n' ∉ text)
    (h : (standardMode.advanceLine d line text).outcome = .ok e) :
    e.level = braceLevel d.level text := by
  obtain ⟨tokens, indentation, htokens, -, hrun⟩ :=
    (standardMode.outcome_advanceLine_eq_ok_iff d line).1 h
  have hline : '\n' ∉ trimEnding text := fun hmem => htext ((List.rdropWhile_prefix _ _).mem hmem)
  have hkinds : (tokens.map (·, indentation)).map (·.1.kind) =
      (lexemes (trimEnding text).isEmpty (trimEnding text)).map Prod.fst := by
    rw [← offers_tokens hline htokens, List.map_map, List.map_map]
    rfl
  rw [standardMode.tracker.level_of_trackRun hd hrun, hkinds, clampedLevel_lexemes,
    braceLevel_trimEnding]

theorem level_of_advanceLines {line : Nat} {texts : List (List Char)}
    (htexts : ∀ text ∈ texts, '\n' ∉ text)
    (h : (standardMode.advanceLines d line texts).outcome = .ok e) :
    e.level = texts.foldl braceLevel d.level := by
  induction texts generalizing d line with
  | nil =>
    obtain rfl := Except.ok.inj h
    rfl
  | cons text texts ih =>
    rw [List.forall_mem_cons] at htexts
    rw [Mode.advanceLines, Logged.outcome_bind, bind_eq_ok_iff] at h
    obtain ⟨next, hnext, hrest⟩ := h
    have hconsistent := (Mode.safe_advanceLine keepText_standardMode.keepEmpty hd
      (line % offsetBound) text).consistent hnext
    rw [ih hconsistent htexts.2 hrest, level_of_advanceLine hd htexts.1 hnext, List.foldl_cons]

end Documents

/-- **Levels are counted by braces.**  Unless a sum passes its bound, the level at the end of a
document is found by a scan of its lines: from zero on, one more for a brace that opens a block, and
one less, but never below zero, for a brace that closes one.  Braces in texts in quotes and in
comments do not count. -/
theorem level_of_reparse : mode = .ok standardMode ∧
    ∀ text : List Char, (standardMode.reparse text).outcome ≠ .error .overflow →
      ∃ d, (standardMode.reparse text).outcome = .ok d ∧
        d.level = (lines text).foldl braceLevel 0 := by
  refine ⟨mode_eq, fun text hfits => ?_⟩
  have hsafe : Safe (standardMode.reparse text).outcome :=
    Mode.safe_advanceLines keepText_standardMode.keepEmpty Document.consistent_start 0 (lines text)
  obtain ⟨d, hd, -⟩ := hsafe.exists_eq_ok hfits
  exact ⟨d, hd, level_of_advanceLines Document.consistent_start
    (fun line => newline_not_mem_of_mem_lines) hd⟩

/-- A brace after a quote that is never closed counts; one in quotes and one in a comment do not,
and neither does the second of two closing braces for one block. -/
theorem level_of_reparse_quotes :
    let text := "\x7b \"a\\\" \x7b\" # \x7b\n\x7d\x7d \"\x7b\\\"\r\n\"\" \x7b".toList
    (standardMode.reparse text).outcome ≠ .error .overflow ∧
      ∃ d, (standardMode.reparse text).outcome = .ok d ∧ d.level = 2 := by
  intro text
  have hfits : (standardMode.reparse text).outcome ≠ .error .overflow := by decide +kernel
  obtain ⟨d, hd, hlevel⟩ := level_of_reparse.2 text hfits
  exact ⟨hfits, d, hd, hlevel.trans (by decide +kernel)⟩

end EditorMode.Equelle
