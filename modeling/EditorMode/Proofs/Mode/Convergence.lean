import EditorMode.Proofs.Mode.Bounds
import EditorMode.Proofs.Mode.Content
import EditorMode.Proofs.Tracking.Alike

/-!
# Where two histories meet

After an edit the lines below it have to be indented anew, but only as far as the edit reaches.  It
reaches no further than the first place between two lines at which the columns are those from before
the edit and no line is continued (`Mode.indentLines_of_columns_eq`): from there on the suggestions
are the same, and the first line that is not blank makes the states the same in every field.

At such a place the states may still differ, in whether a line has ended and in whether it opened a
block.  But they are alike (`Document.Alike`): the next token asks for neither before it leaves the
line, a suggestion does not tell them apart, and blank lines do not touch them.
-/

set_option autoImplicit false

namespace EditorMode

open Text

namespace Mode

open LineScan (KeepEmpty)

/-! ## Alike states -/

section Alike

variable {m : Mode} (hrules : KeepText m.rules) {d e : Document} (h : d.Alike e)

include hrules h

theorem outcome_advanceLine_of_alike {text : List Char} (htext : trimEnding text ≠ [])
    (line : Nat) : (m.advanceLine d line text).outcome = (m.advanceLine e line text).outcome := by
  have htokens : (m.scan line text).scan.plain.tokens ≠ [] :=
    mt (LineScan.tokens_scan_start_eq_nil_iff hrules.keepEmpty _ text line _).1 htext
  rw [outcome_advanceLine, outcome_advanceLine]
  refine bind_congr fun indentation => ?_
  simp only [m.tracker.outcome_trackRun_of_alike h (mt List.map_eq_nil_iff.1 htokens)]

/-- One line that is not blank is enough. -/
theorem outcome_advanceLines_of_alike {texts : List (List Char)}
    (htexts : ∃ text ∈ texts, trimEnding text ≠ []) (line other : Nat) :
    (m.advanceLines d line texts).outcome = (m.advanceLines e other texts).outcome := by
  rw [outcome_advanceLines hrules, outcome_advanceLines hrules]
  cases hcontent : (texts.map trimEnding).filter (· ≠ []) with
  | nil =>
    obtain ⟨text, hmem, hne⟩ := htexts
    have hall : ∀ text ∈ texts, trimEnding text = [] := by
      simpa [List.filter_eq_nil_iff] using hcontent
    exact absurd (hall text hmem) hne
  | cons text content =>
    have htext : text ∈ (texts.map trimEnding).filter (· ≠ []) := hcontent ▸ List.mem_cons_self
    obtain ⟨hmem, hne⟩ := List.mem_filter.1 htext
    obtain ⟨original, -, rfl⟩ := List.mem_map.1 hmem
    have hline : trimEnding (trimEnding original) ≠ [] := by
      rw [trimEnding_trimEnding]
      exact of_decide_eq_true hne
    rw [List.foldlM_cons, List.foldlM_cons, outcome_advanceLine_of_alike hrules h hline]

/-- Alike states have the same suggestions for all lines that may come. -/
theorem suggestions_of_alike (line other : Nat) (texts : List (List Char)) :
    m.suggestions d line texts = m.suggestions e other texts := by
  refine List.ext_getElem (by simp only [length_suggestions]) fun i _ _ => ?_
  simp only [suggestions, List.getElem_mapIdx]
  by_cases htexts : ∃ text ∈ texts.take i, trimEnding text ≠ []
  · rw [outcome_advanceLines_of_alike hrules h htexts line other]
  · simp only [not_exists, not_and, not_not] at htexts
    rw [m.advanceLines_of_blank _ _ htexts, m.advanceLines_of_blank _ _ htexts]
    exact m.tracker.suggest_of_alike h _

end Alike

/-! ## Between two lines -/

/-- Between two lines, where no line is continued, only the columns are left of what was before. -/
theorem AtBoundary.leaveLine_eq {m : Mode} {texts : List (List Char)} {d : Document}
    (h : m.AtBoundary texts d) (hcontinued : d.continued = false) :
    Tracker.leaveLine d = ⟨d.level, d.columns, false, false, false, 0⟩ := by
  have hanchor := h.anchor hcontinued
  rcases h with ⟨rfl, -⟩ | ⟨_, _, _, _, _, -, -, -, -, -, hended⟩
  · rfl
  · have hend : d.atLineEnd = true := by rw [hended.one, hcontinued, Bool.not_false]
    rw [Tracker.leaveLine, if_pos hend, hcontinued, hanchor]

theorem alike_of_columns_eq {m : Mode} (hrules : KeepEmpty m.rules) {a a' : List Char}
    {d d' : Document} (hd : (m.reparse a).outcome = .ok d) (hd' : (m.reparse a').outcome = .ok d')
    (hcontinued : d.continued = false) (hcontinued' : d'.continued = false)
    (hcolumns : d.columns = d'.columns) : d.Alike d' := by
  have hlevel : d.level + 1 = d'.level + 1 := by
    rw [← consistent_of_advanceLines hrules hd, hcolumns, consistent_of_advanceLines hrules hd']
  rw [Document.Alike, (atBoundary_of_advanceLines hrules hd).leaveLine_eq hcontinued,
    (atBoundary_of_advanceLines hrules hd').leaveLine_eq hcontinued', hcolumns, Nat.succ.inj hlevel]

/-- A document can be read by its lines as they are when a newline follows. -/
theorem advanceLines_map_dropReturn (m : Mode) (a : List Char) :
    m.advanceLines .start 0 ((newlinePieces a).map dropReturn) = m.reparse a := by
  have h := m.reparse_append_newline a []
  rw [reparse, lines_append_newline] at h
  simpa [lines, newlinePieces, linesOfPieces, advanceLines] using h

/-- The suggestions for a document that goes on after a newline, in two parts. -/
theorem exists_indentLines_append_newline {m : Mode} (hrules : KeepEmpty m.rules)
    {a : List Char} {d : Document} (hd : (m.reparse a).outcome = .ok d) (b : List Char)
    (hfits : (m.indentLines (a ++ '\n' :: b)).outcome ≠ .error .overflow) :
    ∃ before after e, (m.indentLines (a ++ '\n' :: b)).outcome = .ok (before ++ after) ∧
      before.length = 1 + a.count '\n' ∧
      m.suggestions d (1 + a.count '\n') (lines b) = after.map .ok ∧
      (m.reparse (a ++ '\n' :: b)).outcome = .ok e ∧
      (m.advanceLines d (1 + a.count '\n') (lines b)).outcome = .ok e := by
  obtain ⟨columns, e, hcolumns, hall, he⟩ := exists_of_indentLines_ne hrules hfits
  have hearly : (m.advanceLines .start 0 ((newlinePieces a).map dropReturn)).outcome = .ok d := by
    rw [advanceLines_map_dropReturn, hd]
  rw [lines_append_newline, m.suggestions_append _ _ hearly, List.length_map,
    length_newlinePieces, Nat.zero_add] at hall
  obtain ⟨before, after, rfl, hbefore, hafter⟩ := List.map_eq_append_iff.1 hall.symm
  refine ⟨before, after, e, hcolumns, ?_, hafter.symm, he, ?_⟩
  · have hlength := congrArg List.length hbefore
    rwa [List.length_map, length_suggestions, List.length_map, length_newlinePieces] at hlength
  · rwa [reparse_append_newline, Logged.outcome_bind, hd, ok_bind] at he

/-- **Where two histories meet.**  Let two texts lead to the same columns, and neither of them to a
line that is continued.  Then the lines that come after a newline have the same suggestions after
both texts, unless a sum passes its bound.  And if one of these lines is not blank, the states at
the end are the same. -/
theorem indentLines_of_columns_eq {m : Mode} (hrules : KeepText m.rules) {a a' : List Char}
    {d d' : Document} (hd : (m.reparse a).outcome = .ok d) (hd' : (m.reparse a').outcome = .ok d')
    (hcontinued : d.continued = false) (hcontinued' : d'.continued = false)
    (hcolumns : d.columns = d'.columns) {b : List Char}
    (hfits : (m.indentLines (a ++ '\n' :: b)).outcome ≠ .error .overflow)
    (hfits' : (m.indentLines (a' ++ '\n' :: b)).outcome ≠ .error .overflow) :
    (∃ before before' after, (m.indentLines (a ++ '\n' :: b)).outcome = .ok (before ++ after) ∧
      (m.indentLines (a' ++ '\n' :: b)).outcome = .ok (before' ++ after) ∧
      before.length = 1 + a.count '\n' ∧ before'.length = 1 + a'.count '\n' ∧
      after.length = (lines b).length) ∧
    ∃ e e', (m.reparse (a ++ '\n' :: b)).outcome = .ok e ∧
      (m.reparse (a' ++ '\n' :: b)).outcome = .ok e' ∧
      ((∃ line ∈ lines b, trimEnding line ≠ []) → e = e') := by
  have halike := alike_of_columns_eq hrules.keepEmpty hd hd' hcontinued hcontinued' hcolumns
  obtain ⟨before, after, e, hall, hbefore, hafter, he, hlast⟩ :=
    exists_indentLines_append_newline hrules.keepEmpty hd b hfits
  obtain ⟨before', after', e', hall', hbefore', hafter', he', hlast'⟩ :=
    exists_indentLines_append_newline hrules.keepEmpty hd' b hfits'
  obtain rfl : after = after' := by
    rw [suggestions_of_alike hrules halike _ (1 + a'.count '\n'), hafter'] at hafter
    exact (List.map_injective_iff.2 fun _ _ => Except.ok.inj) hafter.symm
  have hlength : after.length = (lines b).length := by
    rw [← m.length_suggestions d (1 + a.count '\n'), hafter, List.length_map]
  refine ⟨⟨before, before', after, hall, hall', hbefore, hbefore', hlength⟩, e, e', he, he', ?_⟩
  intro hnonblank
  rw [outcome_advanceLines_of_alike hrules halike hnonblank _ (1 + a'.count '\n'), hlast'] at hlast
  exact (Except.ok.inj hlast).symm

/-- A block that has just been opened, and one that has its first line already. -/
theorem indentLines_of_columns_eq_block :
    let rules : List Rule := [.literal "\x7b" .blockOpen, .literal "\x7d" .blockClose]
    let m : Mode := ⟨rules, .empty, .standard⟩
    let a := "x \x7b".toList
    let a' := "x\n\x7b\n  y".toList
    let b := "\n  z\n\x7d".toList
    (m.reparse a).outcome = .ok ⟨1, [0, 2], true, true, false, 0⟩ ∧
      (m.reparse a').outcome = .ok ⟨1, [0, 2], false, true, false, 0⟩ ∧
      (∃ before before', (m.indentLines (a ++ '\n' :: b)).outcome = .ok (before ++ [2, 2, 0]) ∧
        (m.indentLines (a' ++ '\n' :: b)).outcome = .ok (before' ++ [2, 2, 0])) ∧
      ∃ e, (m.reparse (a ++ '\n' :: b)).outcome = .ok e ∧
        (m.reparse (a' ++ '\n' :: b)).outcome = .ok e := by
  intro rules m a a' b
  have hrules : KeepText m.rules :=
    keepText_ofEntry [(.literal "\x7b", .blockOpen), (.literal "\x7d", .blockClose)]
  have hd : (m.reparse a).outcome = .ok ⟨1, [0, 2], true, true, false, 0⟩ := by decide +kernel
  have hd' : (m.reparse a').outcome = .ok ⟨1, [0, 2], false, true, false, 0⟩ := by decide +kernel
  have hcolumns : (m.indentLines (a ++ '\n' :: b)).outcome = .ok [0, 2, 2, 0] := by decide +kernel
  obtain ⟨⟨before, before', after, hall, hall', hbefore, -, -⟩, e, e', he, he', heq⟩ :=
    indentLines_of_columns_eq hrules hd hd' rfl rfl rfl (by rw [hcolumns]; simp)
      (b := b) (by decide +kernel)
  have hafter : before ++ after = [0] ++ [2, 2, 0] := Except.ok.inj (hall.symm.trans hcolumns)
  obtain ⟨-, rfl⟩ := List.append_inj hafter (by rw [hbefore]; decide)
  obtain rfl := heq ⟨"  z".toList, by decide +kernel, by decide⟩
  exact ⟨hd, hd', ⟨before, before', hall, hall'⟩, e, he, he'⟩

end Mode

end EditorMode
