import EditorMode.Proofs.Equelle.Closing
import EditorMode.Proofs.Tracking.OuterLevels

/-!
# Where a balanced document ends

At the end of a document whose blocks are all closed there is one column left, that of the outermost
level.  It is zero at the start, and one would expect it to be zero again if every line stands at
the column that is suggested for it.

It need not be.  A line gives its indentation to the level that it ends at, and what is suggested
for it belongs to the level that it starts at.  A brace at the start of the line is taken into
account, others are not: after `  y` in a block, a closing brace on the same line makes the
indentation of the block that of the outermost level (`columns_ne_of_trailing_brace`).  Continued
lines do the same, since they are suggested to be aligned after a function marker.

`columns_eq_iff_of_balanced` says that nothing else can happen: the column is zero at the end if and
only if each line that gives its indentation to the outermost level (`Document.Settles`) is a line
whose suggestion is the column of that level (`Document.Suits`).  Once the column has been moved, it
does not come back, since no other column of a document written as suggested is zero.
-/

set_option autoImplicit false

namespace EditorMode

open Text

namespace Document

/-- A line with tokens of these kinds gives its indentation to the outermost level: all blocks are
closed by then. -/
def Settles (d : Document) (kinds : List Kind) : Prop :=
  ∃ early kind late, kinds = early ++ kind :: late ∧ d.Adopts early kind ∧
    d.level ≤ early.count .blockClose

/-- The suggestion for the line is the column of the outermost level. -/
def Suits (d : Document) (t : Tracker) (line : List Char) : Prop :=
  if t.closesBlock line then d.level ≤ 1 else d.level = 0 ∧ (d.continued = true → d.anchor = 0)

theorem not_settles_nil (d : Document) : ¬d.Settles [] := by
  rintro ⟨early, kind, late, h, -⟩
  simp at h

theorem settles_concat {d : Document} {early : List Kind} {kind : Kind} :
    d.Settles (early ++ [kind]) ↔
      d.Settles early ∨ d.Adopts early kind ∧ d.level ≤ early.count .blockClose := by
  constructor
  · rintro ⟨first, found, late, hsplit, hadopts⟩
    rcases List.eq_nil_or_concat late with rfl | ⟨late, last, rfl⟩
    · obtain ⟨rfl, rfl⟩ : early = first ∧ kind = found := by simpa using hsplit
      exact .inr hadopts
    · rw [List.concat_eq_append, ← List.cons_append, ← List.append_assoc] at hsplit
      obtain ⟨rfl, hlast⟩ := List.append_inj' hsplit rfl
      exact .inl ⟨first, found, late, rfl, hadopts⟩
  · rintro (⟨first, found, late, rfl, hadopts⟩ | hadopts)
    · exact ⟨first, found, late ++ [kind], by simp, hadopts⟩
    · exact ⟨early, kind, [], rfl, hadopts⟩

/-! ## The column of the outermost level -/

/-- The column of the outermost level is `top`, and no other one is zero. -/
def Rooted (d : Document) (top : Nat) : Prop :=
  ∃ inner, d.columns = top :: inner ∧ ∀ column ∈ inner, 0 < column

theorem rooted_start : start.Rooted 0 := ⟨[], rfl, List.forall_mem_nil _⟩

namespace Rooted

variable {d e : Document} {top column : Nat} (h : d.Rooted top)

include h

theorem eq_of_getElem?_zero (hcolumn : d.columns[0]? = some column) : column = top := by
  obtain ⟨inner, hcolumns, -⟩ := h
  rw [hcolumns] at hcolumn
  exact (Option.some.inj hcolumn).symm

theorem pos_of_getElem? {level : Nat} (hlevel : 0 < level)
    (hcolumn : d.columns[level]? = some column) : 0 < column := by
  obtain ⟨inner, hcolumns, hpos⟩ := h
  obtain ⟨level, rfl⟩ := Nat.exists_eq_succ_of_ne_zero hlevel.ne'
  rw [hcolumns, List.getElem?_cons_succ] at hcolumn
  exact hpos column (List.mem_of_getElem? hcolumn)

theorem congr (hcolumns : e.columns = d.columns) : e.Rooted top := by
  rwa [Rooted, hcolumns]

theorem concat (hcolumn : 0 < column) (hcolumns : e.columns = d.columns ++ [column]) :
    e.Rooted top := by
  obtain ⟨inner, hinner, hpos⟩ := h
  refine ⟨inner ++ [column], by rw [hcolumns, hinner, List.cons_append], ?_⟩
  exact List.forall_mem_append.2 ⟨hpos, List.forall_mem_singleton.2 hcolumn⟩

theorem dropLast (hd : d.Consistent)
    (hcolumns : e.columns = if d.level = 0 then d.columns else d.columns.dropLast) :
    e.Rooted top := by
  obtain ⟨inner, hinner, hpos⟩ := h
  rw [Rooted, hcolumns]
  split
  · exact ⟨inner, hinner, hpos⟩
  · rename_i hlevel
    have hne : inner ≠ [] := by
      rintro rfl
      rw [Consistent, hinner] at hd
      exact hlevel (Nat.succ.inj hd).symm
    exact ⟨inner.dropLast, by rw [hinner, List.dropLast_cons_of_ne_nil hne],
      fun column hmem => hpos column (List.dropLast_subset _ hmem)⟩

theorem set_zero (hcolumns : e.columns = d.columns.set 0 column) : e.Rooted column := by
  obtain ⟨inner, hinner, hpos⟩ := h
  exact ⟨inner, by rw [hcolumns, hinner, List.set_cons_zero], hpos⟩

theorem set {level : Nat} (hlevel : 0 < level) (hcolumn : 0 < column)
    (hcolumns : e.columns = d.columns.set level column) : e.Rooted top := by
  obtain ⟨inner, hinner, hpos⟩ := h
  obtain ⟨level, rfl⟩ := Nat.exists_eq_succ_of_ne_zero hlevel.ne'
  refine ⟨inner.set level column, by rw [hcolumns, hinner, List.set_cons_succ], fun c hc => ?_⟩
  rcases List.mem_or_eq_of_mem_set hc with hmem | rfl
  · exact hpos c hmem
  · exact hcolumn

/-- A suggestion is zero where the outermost column is zero and the line suits it. -/
theorem suggest_eq_zero_iff {t : Tracker} {line : List Char}
    (hsuggest : t.suggest d line = .ok column) : column = 0 ↔ top = 0 ∧ d.Suits t line := by
  have hcolumn := Tracker.eq_of_suggest hsuggest
  rw [Suits]
  split at hcolumn
  · rename_i hcloses
    rw [if_pos hcloses]
    rcases Nat.lt_or_ge 1 d.level with hlevel | hlevel
    · have hpos := h.pos_of_getElem? (by omega) hcolumn
      omega
    · rw [Nat.sub_eq_zero_of_le hlevel] at hcolumn
      have htop := h.eq_of_getElem?_zero hcolumn
      omega
  · rename_i hcloses
    obtain ⟨block, hblock, rfl⟩ := hcolumn
    rw [if_neg hcloses]
    rcases Nat.eq_zero_or_pos d.level with hlevel | hlevel
    · rw [hlevel] at hblock
      rw [h.eq_of_getElem?_zero hblock]
      simp [hlevel]
    · have hpos := h.pos_of_getElem? hlevel hblock
      omega

end Rooted

end Document

/-! ## Levels -/

theorem Balanced.clampedLevel_eq_zero {kinds : List Kind} (h : Balanced kinds) :
    Tracker.clampedLevel 0 kinds = 0 :=
  h.clampedLevel_eq 0

namespace Equelle

/-! ## Lines -/

section Line

variable {m : Mode} (hm : IsEquelle m) {line : List Char} {d e : Document} {column top : Nat}
  (h : m.SuggestedLine d line column e)

include hm h

theorem level_of_suggestedLine :
    e.level = Tracker.clampedLevel d.level (m.kinds line) := by
  refine h.induction hm.keepText hm.endsOnlyAtEnd
    (motive := fun kinds e => e.level = Tracker.clampedLevel d.level kinds) rfl
    fun early token late before _ hmid _ => ?_
  rw [Tracker.level_advanced, hmid.level, Tracker.clampedLevel_concat]

variable (hline : '\n' ∉ line) (hd : d.Rooted top)

include hline hd

/-- A line gives no zero to an inner level. -/
theorem column_pos_of_adopts {early late : List Kind} {kind : Kind}
    (hkinds : m.kinds line = early ++ kind :: late) (hadopts : d.Adopts early kind)
    (hlevel : early.count .blockClose < d.level) : 0 < column := by
  have hcolumn := Tracker.eq_of_suggest h.suggest
  split at hcolumn
  · rename_i hcloses
    obtain ⟨hordinary, hkind⟩ : kind.isOrdinary = false ∧ kind ≠ .blockClose := by
      rcases hadopts.ends with rfl | ⟨rfl, -⟩
      · exact ⟨rfl, by simp⟩
      · exact ⟨rfl, by simp⟩
    have hmem := hm.blockClose_mem_of_closesBlock hline h.advance hcloses hkinds hordinary hkind
    have hpos := List.count_pos_iff.2 hmem
    exact hd.pos_of_getElem? (by omega) hcolumn
  · obtain ⟨block, hblock, rfl⟩ := hcolumn
    have hpos := hd.pos_of_getElem? (by omega) hblock
    omega

/-- The outermost column after the line is its indentation, if the line gives it that, and is the
same as before if not. -/
theorem rooted_of_suggestedLine (hunit : 0 < m.config.indentUnit) :
    (d.Settles (m.kinds line) → e.Rooted column) ∧ (¬d.Settles (m.kinds line) → e.Rooted top) := by
  refine h.induction hm.keepText hm.endsOnlyAtEnd
    (motive := fun kinds e =>
      (d.Settles kinds → e.Rooted column) ∧ (¬d.Settles kinds → e.Rooted top))
    ⟨fun hnil => absurd hnil d.not_settles_nil, fun _ => hd⟩
    fun early token late before hkinds hmid ⟨hcolumn, htop⟩ => ?_
  have hsome : ∃ top, before.Rooted top :=
    (Classical.em (d.Settles early)).elim (fun hs => ⟨_, hcolumn hs⟩) fun hs => ⟨_, htop hs⟩
  -- all but one kind of step keep what is there
  have hkeep : (∀ top, before.Rooted top → (m.tracker.advanced before token column).Rooted top) →
      ¬(d.Adopts early token.kind ∧ d.level ≤ early.count .blockClose) →
      (d.Settles (early ++ [token.kind]) →
        (m.tracker.advanced before token column).Rooted column) ∧
      (¬d.Settles (early ++ [token.kind]) →
        (m.tracker.advanced before token column).Rooted top) := by
    intro hstep hnot
    rw [Document.settles_concat, or_iff_left hnot]
    exact ⟨fun hs => hstep _ (hcolumn hs), fun hs => hstep _ (htop hs)⟩
  rcases hmid.columns_advanced m.tracker token column with
    ⟨hkind, hset⟩ | ⟨hkind, hset⟩ | ⟨hadopts, hset⟩ | ⟨⟨-, -, hnot⟩, hset⟩
  · refine hkeep (fun _ hroot => hroot.concat (Nat.add_pos_right _ hunit) hset) ?_
    rintro ⟨hadopts, -⟩
    simpa [hkind] using hadopts.ends
  · refine hkeep (fun _ hroot => hroot.dropLast hmid.consistent hset) ?_
    rintro ⟨hadopts, -⟩
    simpa [hkind] using hadopts.ends
  · have hlevel := hmid.level
    rw [Tracker.clampedLevel_of_not_mem hadopts.blockOpen_not_mem] at hlevel
    rcases Nat.lt_or_ge (early.count .blockClose) d.level with hlt | hge
    · have hpos := column_pos_of_adopts hm h hline hd hkinds hadopts hlt
      exact hkeep (fun _ hroot => hroot.set (by omega) hpos hset) fun hs => by omega
    · rw [hlevel, Nat.sub_eq_zero_of_le hge] at hset
      obtain ⟨_, hroot⟩ := hsome
      exact ⟨fun _ => hroot.set_zero hset,
        fun hs => absurd (Document.settles_concat.2 (.inr ⟨hadopts, hge⟩)) hs⟩
  · exact hkeep (fun _ hroot => hroot.congr hset) fun hs => hnot hs.1

/-- **One more line.**  The outermost column is zero after it if and only if it was before, and the
line suits it unless it does not touch it. -/
theorem exists_rooted_of_suggestedLine (hunit : 0 < m.config.indentUnit) :
    ∃ next, e.Rooted next ∧
      (next = 0 ↔ top = 0 ∧ (d.Settles (m.kinds line) → d.Suits m.tracker line)) := by
  obtain ⟨hcolumn, htop⟩ := rooted_of_suggestedLine hm h hline hd hunit
  by_cases hsettles : d.Settles (m.kinds line)
  · refine ⟨column, hcolumn hsettles, ?_⟩
    rw [hd.suggest_eq_zero_iff h.suggest]
    simp [hsettles]
  · exact ⟨top, htop hsettles, by simp [hsettles]⟩

end Line

/-! ## Documents -/

/-- Each of the first lines of the text that gives its indentation to the outermost level suits
it. -/
def AllSuit (m : Mode) (text : List Char) (count : Nat) : Prop :=
  ∀ i < count, ∀ line before, (lines text)[i]? = some line →
    (m.advanceLines .start 0 ((lines text).take i)).outcome = .ok before →
    before.Settles (m.kinds line) → before.Suits m.tracker line

theorem allSuit_succ {m : Mode} {text : List Char} {count : Nat} {line : List Char}
    (hline : (lines text)[count]? = some line) {d : Document}
    (hd : (m.advanceLines .start 0 ((lines text).take count)).outcome = .ok d) :
    AllSuit m text (count + 1) ↔
      AllSuit m text count ∧ (d.Settles (m.kinds line) → d.Suits m.tracker line) := by
  constructor
  · intro hall
    exact ⟨fun i hi => hall i (Nat.lt_succ_of_lt hi),
      hall count (Nat.lt_succ_self _) line d hline hd⟩
  · rintro ⟨hall, hlast⟩ i hi other before hother hbefore
    rcases Nat.lt_succ_iff_lt_or_eq.1 hi with hlt | rfl
    · exact hall i hlt other before hother hbefore
    · obtain rfl := Option.some.inj (hline.symm.trans hother)
      obtain rfl := Except.ok.inj (hd.symm.trans hbefore)
      exact hlast

/-- The outermost column and the level at the end of a document that is written as suggested. -/
theorem exists_rooted_of_asSuggested {m : Mode} (hm : IsEquelle m)
    (hunit : 0 < m.config.indentUnit) {text : List Char}
    (hfits : (m.indentLines text).outcome ≠ .error .overflow) (hwritten : m.AsSuggested text) :
    ∃ d, (m.reparse text).outcome = .ok d ∧
      (∃ top, d.Rooted top ∧ (top = 0 ↔ AllSuit m text (lines text).length)) ∧
      d.level = Tracker.clampedLevel 0 ((lines text).flatMap m.kinds) := by
  have hall := Mode.asSuggested_induction hm.keepText hfits hwritten
    (motive := fun count d => (∃ top, d.Rooted top ∧ (top = 0 ↔ AllSuit m text count)) ∧
      d.level = Tracker.clampedLevel 0 (((lines text).take count).flatMap m.kinds))
    ⟨⟨0, Document.rooted_start, by simp [AllSuit]⟩, rfl⟩ ?_ (Nat.le_refl _)
  · rwa [List.take_length] at hall
  · rintro count d line column e hline hd ⟨⟨top, hroot, htop⟩, hlevel⟩ h
    have hnewline := newline_not_mem_of_mem_lines (List.mem_of_getElem? hline)
    obtain ⟨next, hnext, hzero⟩ := exists_rooted_of_suggestedLine hm h hnewline hroot hunit
    refine ⟨⟨next, hnext, by rw [hzero, htop, allSuit_succ hline hd]⟩, ?_⟩
    rw [level_of_suggestedLine hm h, hlevel, List.take_add_one, hline, Option.toList_some,
      List.flatMap_append, Tracker.clampedLevel_append, List.flatMap_singleton]

/-- **Where a balanced document ends.**  Let each line of the document stand at the column that is
suggested for it, or be blank, and let its blocks be balanced.  Unless a sum passes its bound, no
block is open at the end, and the column that is left is zero if and only if each line that gives
its indentation to the outermost level suits that level: it is no line of a block, but for the
closing brace at its start, and no line that is aligned after a function marker. -/
theorem columns_eq_iff_of_balanced {m : Mode} (hm : mode = .ok m) {text : List Char}
    (hfits : (m.indentLines text).outcome ≠ .error .overflow) (hwritten : m.AsSuggested text)
    (hbalanced : Balanced ((lines text).flatMap m.kinds)) :
    ∃ d, (m.reparse text).outcome = .ok d ∧ d.level = 0 ∧
      (d.columns = [0] ↔ ∀ i line before, (lines text)[i]? = some line →
        (m.advanceLines .start 0 ((lines text).take i)).outcome = .ok before →
        before.Settles (m.kinds line) → before.Suits m.tracker line) := by
  obtain rfl : standardMode = m := Except.ok.inj (mode_eq.symm.trans hm)
  have hequelle := isEquelle_standardMode
  obtain ⟨d, hd, ⟨top, ⟨inner, hinner, -⟩, htop⟩, hclamped⟩ :=
    exists_rooted_of_asSuggested hequelle (by decide) hfits hwritten
  have hlevel : d.level = 0 := hclamped.trans hbalanced.clampedLevel_eq_zero
  have hconsistent := Mode.consistent_of_advanceLines hequelle.keepText.keepEmpty hd
  obtain rfl : inner = [] := by
    rw [Document.Consistent, hinner, hlevel] at hconsistent
    exact List.length_eq_zero_iff.1 (Nat.succ.inj hconsistent)
  refine ⟨d, hd, hlevel, ?_⟩
  rw [hinner, List.cons.injEq, and_iff_left rfl, htop]
  refine ⟨fun hall i line before hline => ?_, fun hall i _ => hall i⟩
  exact hall i (List.getElem?_eq_some_iff.1 hline).1 line before hline

/-- A statement that is continued to the line on which it opens a block. -/
theorem columns_eq_iff_of_balanced_function :
    let text := "f = Function(a, ...\n            b) \x7b\n              x\n\x7d".toList
    ∃ m d, mode = .ok m ∧ (m.indentLines text).outcome = .ok [0, 12, 14, 0] ∧
      m.AsSuggested text ∧ Balanced ((lines text).flatMap m.kinds) ∧
      (m.reparse text).outcome = .ok d ∧ d.level = 0 ∧ d.columns = [0] ∧
      ∀ before, (m.advanceLines .start 0 ((lines text).take 3)).outcome = .ok before →
        before.Settles (m.kinds "\x7d".toList) → before.Suits m.tracker "\x7d".toList := by
  intro text
  have hcolumns : (standardMode.indentLines text).outcome = .ok [0, 12, 14, 0] := by decide +kernel
  have hwritten : standardMode.AsSuggested text :=
    Mode.asSuggested_of_indentLines hcolumns (by decide +kernel)
  have hbalanced : Balanced ((lines text).flatMap standardMode.kinds) := by decide +kernel
  have hstate : (standardMode.reparse text).outcome = .ok ⟨0, [0], false, true, false, 0⟩ := by
    decide +kernel
  obtain ⟨d, hd, hlevel, hiff⟩ := columns_eq_iff_of_balanced mode_eq
    (hcolumns.trans_ne (by simp)) hwritten hbalanced
  have hzero : d.columns = [0] := by rw [Except.ok.inj (hd.symm.trans hstate)]
  exact ⟨standardMode, d, mode_eq, hcolumns, hwritten, hbalanced, hd, hlevel, hzero,
    fun before => hiff.1 hzero 3 _ before (by decide +kernel)⟩

/-- A closing brace at the end of a line leaves the column of its block to the outermost level. -/
theorem columns_ne_of_trailing_brace :
    let text := "x \x7b\n  y \x7d".toList
    ∃ m d, mode = .ok m ∧ (m.indentLines text).outcome = .ok [0, 2] ∧ m.AsSuggested text ∧
      Balanced ((lines text).flatMap m.kinds) ∧ (m.reparse text).outcome = .ok d ∧
      d.continued = false ∧ d.columns ≠ [0] := by
  intro text
  have hcolumns : (standardMode.indentLines text).outcome = .ok [0, 2] := by decide +kernel
  have hstate : (standardMode.reparse text).outcome = .ok ⟨0, [2], false, true, false, 0⟩ := by
    decide +kernel
  exact ⟨standardMode, _, mode_eq, hcolumns,
    Mode.asSuggested_of_indentLines hcolumns (by decide +kernel), by decide +kernel, hstate, rfl,
    by decide⟩

end Equelle

end EditorMode
