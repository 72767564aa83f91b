import EditorMode.Proofs.Equelle.Lexemes
import EditorMode.Proofs.Mode.Convergence
import EditorMode.Proofs.Mode.Suggested

/-!
# Statements over several lines

A statement goes on over several lines by a line continuation at the end of each of them but the
last one.  The lines after the first one are indented for alignment, and one would expect that this
indentation means nothing for the block: the column of the block should be that of the first line.
The end of the last line does keep to that, since it is the end of a line that is continued.  But a
line continuation adopts the indentation of its own line, whether or not that line continues
another one.  So the column of the block after the statement is that of the last line that contains
a line continuation (`columns_of_statement`), which is the first line of the statement only if the
statement has two lines.  With three lines the column moves (`columns_ne_of_three_lines`).
-/

set_option autoImplicit false

namespace EditorMode

open Text

/-- The lines of a statement, of which `last` is the last one: all others end with a line
continuation, and no line opens or closes a block. -/
structure Mode.IsStatement (m : Mode) (early : List (List Char)) (last : List Char) : Prop where
  flat : ∀ line ∈ early ++ [last], .blockOpen ∉ m.kinds line ∧ .blockClose ∉ m.kinds line
  continued : ∀ line ∈ early, (m.kinds line).getLast? = some .lineContinuation
  ended : (m.kinds last).getLast? = some .endOfLine

namespace Tracker

variable (t : Tracker) {d : Document} {token : Token}

/-- A new line has opened no block, and within a line only the start of a block counts. -/
theorem openedBlock_leaveLine_advanced (h : (leaveLine d).openedBlock = false)
    (hkind : token.kind ≠ .blockOpen) (indentation : Nat) :
    (leaveLine (t.advanced d token indentation)).openedBlock = false := by
  by_cases hend : token.kind = .endOfLine
  · rw [leaveLine, atLineEnd_advanced, hend]
    rfl
  · rw [t.leaveLine_advanced d hend, openedBlock_advanced, h]
    simpa using hkind

end Tracker

namespace Mode

section Line

variable {m : Mode} (hrules : KeepText m.rules) (hends : EndsOnlyAtEnd m.rules)

include hrules hends

/-- A line that ends with a line continuation has no end of line. -/
theorem endOfLine_not_mem_kinds {line : List Char}
    (h : (m.kinds line).getLast? = some .lineContinuation) : .endOfLine ∉ m.kinds line := by
  have hearly := LineScan.endOfLine_not_mem_dropLast_scan_start hrules.keepEmpty hends
    m.config.continuationMarker (.start line 0 m.config.tabSize)
  have hkinds : .endOfLine ∉ (m.kinds line).dropLast := by
    rw [← map_kind_scan, ← List.map_dropLast, List.mem_map]
    rintro ⟨token, htoken, hkind⟩
    exact hearly token htoken hkind
  rw [← List.dropLast_append_getLast? _ h, List.mem_append, List.mem_singleton]
  rintro (hmem | hlast)
  · exact hkinds hmem
  · cases hlast

variable {d e : Document} (hd : d.Consistent) (hopened : (Tracker.leaveLine d).openedBlock = false)
  {line : List Char} (hflat : .blockOpen ∉ m.kinds line ∧ .blockClose ∉ m.kinds line)
  {number : Nat} (h : (m.advanceLine d number line).outcome = .ok e) {indentation : Nat}
  (hindentation : indentationWidth line m.config.tabSize = .ok indentation)

include hd hopened hflat h hindentation

/-- A line without braces that is not the end of a statement of its own gives its indentation to its
block if it contains a line continuation, and only then. -/
theorem columns_of_flat_line (hpart : d.continued = true ∨ .endOfLine ∉ m.kinds line) :
    e.level = d.level ∧ e.columns =
      if .lineContinuation ∈ m.kinds line then d.columns.set d.level indentation
      else d.columns := by
  refine advanceLine_induction h hrules hends hd hindentation
    (motive := fun early e => e.level = d.level ∧ e.columns =
      if .lineContinuation ∈ early then d.columns.set d.level indentation else d.columns)
    ⟨rfl, rfl⟩ fun early token late before hkinds hmid ⟨hlevel, hcolumns⟩ => ?_
  have hmem : token.kind ∈ m.kinds line := by simp [hkinds]
  have hopen : .blockOpen ∉ early := fun hopen => hflat.1 (by simp [hkinds, hopen])
  have hadopts : d.Adopts early token.kind ↔ token.kind = .lineContinuation := by
    refine ⟨fun hadopts => hadopts.ends.resolve_right fun hend => ?_, fun hkind =>
      ⟨hopened, hopen, .inl hkind⟩⟩
    rcases hpart with hcontinued | hnot
    · exact Bool.false_ne_true (hend.2.1.symm.trans hcontinued)
    · exact hnot (hend.1 ▸ hmem)
  rcases hmid.columns_advanced m.tracker token indentation with
    ⟨hkind, -⟩ | ⟨hkind, -⟩ | ⟨hkind, hset⟩ | ⟨⟨hne, hne', hkind⟩, hset⟩
  · exact absurd (hkind ▸ hmem) hflat.1
  · exact absurd (hkind ▸ hmem) hflat.2
  · rw [hadopts] at hkind
    rw [Tracker.level_advanced, hset, hcolumns, hlevel, hkind]
    refine ⟨rfl, ?_⟩
    split <;> simp
  · rw [hadopts] at hkind
    rw [Tracker.level_advanced, Tracker.levelAfter_of_ne hne hne', hlevel, hset, hcolumns]
    simp [Ne.symm hkind]

/-- It opens no block either. -/
theorem openedBlock_of_flat_line : (Tracker.leaveLine e).openedBlock = false := by
  refine advanceLine_induction h hrules hends hd hindentation
    (motive := fun _ e => (Tracker.leaveLine e).openedBlock = false) hopened
    fun early token late before hkinds _ hbefore => ?_
  refine m.tracker.openedBlock_leaveLine_advanced hbefore (fun hkind => hflat.1 ?_) _
  simp [hkinds, hkind]

end Line

/-! ## The lines before the last one -/

/-- The state `e` within a statement that starts in the state `d`, after the lines `early` of it. -/
structure WithinStatement (m : Mode) (d : Document) (early : List (List Char)) (e : Document) :
    Prop where
  consistent : e.Consistent
  unopened : (Tracker.leaveLine e).openedBlock = false
  level : e.level = d.level
  /-- No other column has changed. -/
  others : ∀ column, e.columns.set d.level column = d.columns.set d.level column
  last : ∀ line ∈ early.getLast?, e.continued = true ∧
    ∃ column, indentationWidth line m.config.tabSize = .ok column ∧
      e.columns = d.columns.set d.level column

section Statement

variable {m : Mode} (hrules : KeepText m.rules) (hends : EndsOnlyAtEnd m.rules) {d e : Document}
  (hd : d.Consistent) (hopened : (Tracker.leaveLine d).openedBlock = false) {number : Nat}

include hrules hends hd hopened

/-- Each line before the last one moves the column of the block. -/
theorem withinStatement_of_advanceLines {early : List (List Char)}
    (hearly : ∀ line ∈ early, (.blockOpen ∉ m.kinds line ∧ .blockClose ∉ m.kinds line) ∧
      (m.kinds line).getLast? = some .lineContinuation)
    (h : (m.advanceLines d number early).outcome = .ok e) : m.WithinStatement d early e := by
  induction early using List.reverseRecOn generalizing e with
  | nil =>
    obtain rfl := Except.ok.inj h
    exact ⟨hd, hopened, rfl, fun _ => rfl, by simp⟩
  | append_singleton early line ih =>
    rw [List.forall_mem_append, List.forall_mem_singleton] at hearly
    obtain ⟨hbefore, hflat, hlast⟩ := hearly
    obtain ⟨before, hrun, hline⟩ := exists_of_advanceLines_concat hrules h
    obtain ⟨hconsistent, hunopened, hlevel, hothers, -⟩ := ih hbefore hrun
    obtain ⟨column, hcolumn⟩ := exists_indentationWidth hline
    obtain ⟨hafter, hcolumns⟩ := columns_of_flat_line hrules hends hconsistent hunopened hflat hline
      hcolumn (.inr (endOfLine_not_mem_kinds hrules hends hlast))
    rw [if_pos (List.mem_of_getLast? hlast), hlevel, hothers] at hcolumns
    refine ⟨(safe_advanceLine hrules.keepEmpty hconsistent _ line).consistent hline, ?_,
      hafter.trans hlevel, fun other => by rw [hcolumns, List.set_set], ?_⟩
    · exact openedBlock_of_flat_line hrules hends hconsistent hunopened hflat hline hcolumn
    · have hended := endedBy_of_getLast?_kinds hline hrules hconsistent hlast
      simpa using ⟨hended.continued.2 rfl, column, hcolumn, hcolumns⟩

/-- **The column after a statement.** -/
theorem columns_of_isStatement {first last : List Char} {more : List (List Char)}
    (hstatement : m.IsStatement (first :: more) last)
    (h : (m.advanceLines d number (first :: more ++ [last])).outcome = .ok e) :
    e.level = d.level ∧ ∃ column,
      indentationWidth (if .lineContinuation ∈ m.kinds last then last else more.getLastD first)
        m.config.tabSize = .ok column ∧
      e.columns = d.columns.set d.level column := by
  obtain ⟨hflat, hcontinued, -⟩ := hstatement
  rw [List.forall_mem_append, List.forall_mem_singleton] at hflat
  obtain ⟨before, hrun, hlast⟩ := exists_of_advanceLines_concat hrules h
  obtain ⟨hconsistent, hunopened, hlevel, hothers, hwithin⟩ :=
    withinStatement_of_advanceLines hrules hends hd hopened
      (fun line hline => ⟨hflat.1 line hline, hcontinued line hline⟩) hrun
  have hprevious : more.getLastD first ∈ (first :: more).getLast? := by
    rw [List.getLast?_cons, List.getLastD_eq_getLast?]
    rfl
  obtain ⟨hbefore, column, hcolumn, hcolumns⟩ := hwithin _ hprevious
  obtain ⟨own, hown⟩ := exists_indentationWidth hlast
  obtain ⟨hafter, hset⟩ := columns_of_flat_line hrules hends hconsistent hunopened hflat.2 hlast
    hown (.inl hbefore)
  refine ⟨hafter.trans hlevel, ?_⟩
  split
  · rename_i hmem
    rw [if_pos hmem, hlevel, hothers] at hset
    exact ⟨own, hown, hset⟩
  · rename_i hmem
    rw [if_neg hmem] at hset
    exact ⟨column, hcolumn, hset.trans hcolumns⟩

end Statement

end Mode

namespace Equelle

/-! ## Statements of Equelle -/

/-- **The column of a block after a statement over several lines.**  Let the state between two lines
be that of a text whose last line is not continued, and let the next lines be a statement, the last
line of which may contain a line continuation too.  Unless a sum passes its bound, the statement
leaves the level and all other columns as they were, and the column of the block is the indentation
of the last line with a line continuation in it: that of the last line but one, or that of the last
line itself.  So it is the indentation of the first line if and only if the two are the same. -/
theorem columns_of_statement {m : Mode} (hm : mode = .ok m) {text : List Char} {d : Document}
    (hd : (m.reparse text).outcome = .ok d) (hcontinued : d.continued = false)
    {first last : List Char} {more : List (List Char)}
    (hstatement : m.IsStatement (first :: more) last) (number : Nat)
    (hfits : (m.advanceLines d number (first :: more ++ [last])).outcome ≠ .error .overflow) :
    ∃ e column, (m.advanceLines d number (first :: more ++ [last])).outcome = .ok e ∧
      indentationWidth (if .lineContinuation ∈ m.kinds last then last else more.getLastD first)
        m.config.tabSize = .ok column ∧
      e.level = d.level ∧ e.columns = d.columns.set d.level column ∧
      ∀ expected, indentationWidth first m.config.tabSize = .ok expected →
        (e.columns = d.columns.set d.level expected ↔ column = expected) := by
  obtain rfl : standardMode = m := Except.ok.inj (mode_eq.symm.trans hm)
  have hrules := keepText_standardMode
  have hconsistent := Mode.consistent_of_advanceLines hrules.keepEmpty hd
  have hopened : (Tracker.leaveLine d).openedBlock = false := by
    rw [(Mode.atBoundary_of_advanceLines hrules.keepEmpty hd).leaveLine_eq hcontinued]
  obtain ⟨e, he, -⟩ := (Mode.safe_advanceLines hrules.keepEmpty hconsistent number _).exists_eq_ok
    hfits
  obtain ⟨hlevel, column, hcolumn, hcolumns⟩ := Mode.columns_of_isStatement hrules
    endsOnlyAtEnd_rules hconsistent hopened hstatement he
  refine ⟨e, column, he, hcolumn, hlevel, hcolumns, fun expected _ => ?_⟩
  rw [hcolumns]
  refine ⟨fun heq => ?_, fun heq => by rw [heq]⟩
  have hlt : d.level < d.columns.length := hconsistent ▸ Nat.lt_succ_self _
  have hat := congrArg (·[d.level]?) heq
  simpa [List.getElem?_set, hlt] using hat

/-- A block on its second level, and a line continuation in the middle of the last line. -/
theorem columns_of_statement_inner :
    let text := "f \x7b".toList
    let first := "  x = Function(a, ...".toList
    let more := ["           b, ...  # and".toList]
    let last := "        ... c)".toList
    ∃ m d e, mode = .ok m ∧ (m.reparse text).outcome = .ok d ∧ d.continued = false ∧
      m.IsStatement (first :: more) last ∧
      (m.advanceLines d 1 (first :: more ++ [last])).outcome = .ok e ∧ d.columns = [0, 2] ∧
      e.columns = [0, 8] := by
  intro text first more last
  have hd : (standardMode.reparse text).outcome = .ok ⟨1, [0, 2], true, true, false, 0⟩ := by
    decide +kernel
  have hstatement : standardMode.IsStatement (first :: more) last :=
    ⟨by decide +kernel, by decide +kernel, by decide +kernel⟩
  obtain ⟨e, column, he, hcolumn, -, hcolumns, -⟩ :=
    columns_of_statement mode_eq hd rfl hstatement 1 (by decide +kernel)
  have hwidth : indentationWidth (if .lineContinuation ∈ standardMode.kinds last then last
      else more.getLastD first) standardMode.config.tabSize = .ok 8 := by decide +kernel
  obtain rfl := Except.ok.inj (hcolumn.symm.trans hwidth)
  exact ⟨_, _, e, mode_eq, hd, rfl, hstatement, he, rfl, hcolumns⟩

/-- With three lines the column of the block is not that of the first one, although the last line is
nothing but an end. -/
theorem columns_ne_of_three_lines :
    let first := "a ...".toList
    let more := ["    b ...".toList]
    let last := "  c".toList
    ∃ m e, mode = .ok m ∧ (m.reparse []).outcome = .ok .start ∧
      m.IsStatement (first :: more) last ∧
      (m.advanceLines .start 0 (first :: more ++ [last])).outcome = .ok e ∧
      indentationWidth first m.config.tabSize = .ok 0 ∧
      e.columns ≠ Document.start.columns.set Document.start.level 0 := by
  intro first more last
  have he : (standardMode.advanceLines .start 0 (first :: more ++ [last])).outcome =
      .ok ⟨0, [4], false, true, false, 0⟩ := by decide +kernel
  exact ⟨_, _, mode_eq, rfl, ⟨by decide +kernel, by decide +kernel, by decide +kernel⟩, he, rfl,
    by decide⟩

end Equelle

end EditorMode
