import EditorMode.Proofs.Equelle.Closing

/-!
# Columns as multiples of the indent unit

The column of a block is whatever the author makes it, since every line gives its own indentation to
its block.  If the author follows the suggestions, and if the lines are orderly, this changes
nothing: the column of a level is that level times the indent unit, at all places between two lines
(`columns_eq_multiples`).

A line is orderly if it closes at most one block, and does so before anything else, opens at most
one, and is not continued.  Then the indentation of the line is the column of its level wherever it
counts, for the block that the line opens and at the end of the line: a block that is closed has
been closed by then (`count_blockClose_eq`).
-/

set_option autoImplicit false

namespace EditorMode

open Text

/-- The column of each level is that level times the unit. -/
def Document.Regular (d : Document) (unit : Nat) : Prop :=
  d.columns = (List.range (d.level + 1)).map (· * unit)

/-- A line that first closes at most one block, then opens at most one, and is not continued. -/
structure Mode.IsOrderly (m : Mode) (line : List Char) : Prop where
  opens : (m.kinds line).count .blockOpen ≤ 1
  closes : (m.kinds line).count .blockClose ≤ 1
  closesFirst : .blockClose ∈ m.kinds line →
    (m.kinds line).find? (· != .named "WS") = some .blockClose
  uncontinued : .lineContinuation ∉ m.kinds line

instance (m : Mode) (line : List Char) : Decidable (m.IsOrderly line) :=
  decidable_of_iff ((m.kinds line).count .blockOpen ≤ 1 ∧ (m.kinds line).count .blockClose ≤ 1 ∧
      (.blockClose ∈ m.kinds line →
        (m.kinds line).find? (· != .named "WS") = some .blockClose) ∧
      .lineContinuation ∉ m.kinds line)
    ⟨fun h => ⟨h.1, h.2.1, h.2.2.1, h.2.2.2⟩,
      fun h => ⟨h.opens, h.closes, h.closesFirst, h.uncontinued⟩⟩

/-! ## Steps -/

theorem Document.regular_start (unit : Nat) : start.Regular unit := by
  simp [Regular, start]

namespace Document.Regular

variable {d : Document} {unit : Nat} (hd : d.Regular unit)

include hd

theorem getElem?_columns {level : Nat} (h : level ≤ d.level) :
    d.columns[level]? = some (level * unit) := by
  rw [hd, List.getElem?_map, List.getElem?_range (Nat.lt_succ_of_le h), Option.map_some]

/-- What is suggested for a line that is not continued. -/
theorem column_eq {t : Tracker} {line : List Char} {column : Nat}
    (hcontinued : d.continued = false) (h : t.suggest d line = .ok column) :
    column = unit * if t.closesBlock line then d.level - 1 else d.level := by
  have hcolumn := Tracker.eq_of_suggest h
  split at hcolumn
  · rename_i hcloses
    rw [hd.getElem?_columns (Nat.sub_le _ _)] at hcolumn
    rw [if_pos hcloses, Nat.mul_comm, Option.some.inj hcolumn]
  · rename_i hcloses
    obtain ⟨block, hblock, rfl⟩ := hcolumn
    rw [hd.getElem?_columns (Nat.le_refl _)] at hblock
    rw [if_neg hcloses, hcontinued, Nat.mul_comm, Option.some.inj hblock]
    rfl

variable {e : Document} {column : Nat}

theorem concat (hcolumn : column = d.level * unit) (hlevel : e.level = d.level + 1)
    (hcolumns : e.columns = d.columns ++ [column + unit]) : e.Regular unit := by
  rw [Regular, hlevel, hcolumns, hcolumn, hd, List.range_succ (n := d.level + 1), List.map_append,
    List.map_singleton, Nat.succ_mul]

theorem dropLast (hlevel : e.level = d.level - 1)
    (hcolumns : e.columns = if d.level = 0 then d.columns else d.columns.dropLast) :
    e.Regular unit := by
  rw [Regular, hlevel, hcolumns]
  split
  · rename_i hzero
    rw [hd, hzero]
  · rename_i hpos
    rw [hd, List.range_succ, List.map_append, List.map_singleton, List.dropLast_concat,
      Nat.sub_add_cancel (Nat.pos_of_ne_zero hpos)]

theorem set (hcolumn : column = d.level * unit) (hlevel : e.level = d.level)
    (hcolumns : e.columns = d.columns.set d.level column) : e.Regular unit := by
  rw [Regular, hlevel, hcolumns, hcolumn, ← hd]
  refine List.ext_getElem? fun i => ?_
  rw [List.getElem?_set]
  split
  · rename_i hi
    rw [← hi, hd.getElem?_columns (Nat.le_refl _), if_pos]
    rw [hd, List.length_map, List.length_range]
    exact Nat.lt_succ_self _
  · rfl

end Document.Regular

namespace Equelle

/-! ## Lines -/

section Line

variable {m : Mode} (hm : IsEquelle m) {line : List Char} (hline : '\n' ∉ line)
  (horderly : m.IsOrderly line) {d e : Document}

include hm hline horderly

/-- A block that the line closes has been closed when its indentation counts. -/
theorem count_blockClose_eq {number : Nat} (h : (m.advanceLine d number line).outcome = .ok e)
    {early late : List Kind} {kind : Kind} (hkinds : m.kinds line = early ++ kind :: late)
    (hordinary : kind.isOrdinary = false) (hkind : kind ≠ .blockClose) :
    early.count .blockClose = if m.tracker.closesBlock line then 1 else 0 := by
  split
  · rename_i hcloses
    have hmem := hm.blockClose_mem_of_closesBlock hline h hcloses hkinds hordinary hkind
    have hpos := List.count_pos_iff.2 hmem
    have hcount := horderly.closes
    rw [hkinds, List.count_append] at hcount
    omega
  · rename_i hcloses
    rw [List.count_eq_zero]
    intro hmem
    have hfind := horderly.closesFirst (hkinds ▸ List.mem_append_left _ hmem)
    exact hcloses (hm.closesBlock_of_find? hline h hfind)

/-- **One more line.** -/
theorem regular_of_suggestedLine {column : Nat} (h : m.SuggestedLine d line column e)
    (hd : d.Regular m.config.indentUnit) (hcontinued : d.continued = false) :
    e.Regular m.config.indentUnit ∧ e.continued = false := by
  have hcolumn := hd.column_eq hcontinued h.suggest
  refine h.induction hm.keepText hm.endsOnlyAtEnd
    (motive := fun _ e => e.Regular m.config.indentUnit ∧ e.continued = false) ⟨hd, hcontinued⟩
    fun early token late before hkinds hmid ⟨hregular, hbefore⟩ => ?_
  have hmem : token.kind ∈ m.kinds line := by simp [hkinds]
  have huncontinued : token.kind ≠ .lineContinuation := fun hk => horderly.uncontinued (hk ▸ hmem)
  refine ⟨?_, by rw [Tracker.continued_advanced, hbefore]; simp [huncontinued]⟩
  -- where the indentation counts, no block has been opened yet
  have hcounts : .blockOpen ∉ early → token.kind.isOrdinary = false → token.kind ≠ .blockClose →
      column = before.level * m.config.indentUnit := by
    intro hopen hordinary hclose
    rw [hcolumn, hmid.level, Tracker.clampedLevel_of_not_mem hopen,
      count_blockClose_eq hm hline horderly h.advance hkinds hordinary hclose, Nat.mul_comm]
    split <;> rfl
  have hlevel := m.tracker.level_advanced before token column
  rcases hmid.columns_advanced m.tracker token column with
    ⟨hkind, hset⟩ | ⟨hkind, hset⟩ | ⟨hadopts, hset⟩ | ⟨⟨hne, hne', -⟩, hset⟩
  · rw [hkind] at hlevel
    have hopen : .blockOpen ∉ early := by
      intro hearly
      have hopens := horderly.opens
      have hpos := List.count_pos_iff.2 hearly
      rw [hkinds, hkind, List.count_append, List.count_cons_self] at hopens
      omega
    exact hregular.concat (hcounts hopen (by rw [hkind]; rfl) (by simp [hkind])) hlevel hset
  · rw [hkind] at hlevel
    exact hregular.dropLast hlevel hset
  · have hkind : token.kind = .endOfLine := (hadopts.ends.resolve_left huncontinued).1
    rw [hkind] at hlevel
    have hopen := hadopts.blockOpen_not_mem
    exact hregular.set (hcounts hopen (by rw [hkind]; rfl) (by simp [hkind])) hlevel hset
  · rw [Tracker.levelAfter_of_ne hne hne'] at hlevel
    rw [Document.Regular, hlevel, hset]
    exact hregular

end Line

/-! ## Documents -/

theorem isEquelle_of_modeWith {config : Config} {m : Mode} (hm : modeWith config = .ok m)
    (hmarker : config.continuationMarker = Config.standard.continuationMarker)
    (hclose : config.closeMarker = Config.standard.closeMarker) :
    IsEquelle m ∧ m.config = config := by
  obtain ⟨hrules, rfl⟩ := rules_config_of_modeWith hm
  exact ⟨⟨hrules, hmarker, hclose⟩, rfl⟩

/-- **Columns are multiples of the indent unit.**  Take the mode of Equelle with its standard
markers and any other settings, and a document of orderly lines, each of which stands at the column
that is suggested for it, or is blank.  Unless a sum passes its bound, the column of every level is
that level times the indent unit, before the first line, after the last one and between any two.
And for each line that many units are suggested as blocks are open before it, or one unit less, but
not less than none, if the line starts with a closing brace. -/
theorem columns_eq_multiples {config : Config} {m : Mode} (hm : modeWith config = .ok m)
    (hmarker : config.continuationMarker = Config.standard.continuationMarker)
    (hclose : config.closeMarker = Config.standard.closeMarker) {text : List Char}
    (hfits : (m.indentLines text).outcome ≠ .error .overflow)
    (horderly : ∀ line ∈ lines text, m.IsOrderly line) (hwritten : m.AsSuggested text) :
    ∃ columns, (m.indentLines text).outcome = .ok columns ∧
      columns.length = (lines text).length ∧
      ∀ count ≤ (lines text).length, ∃ d,
        (m.advanceLines .start 0 ((lines text).take count)).outcome = .ok d ∧
        d.columns = (List.range (d.level + 1)).map (· * config.indentUnit) ∧
        ∀ line ∈ (lines text)[count]?,
          columns[count]? = some (config.indentUnit *
            if (skipBlank line).head? = some '\x7d' then d.level - 1 else d.level) := by
  obtain ⟨hequelle, rfl⟩ := isEquelle_of_modeWith hm hmarker hclose
  obtain ⟨columns, -, hcolumns, -⟩ :=
    Mode.exists_of_indentLines_ne hequelle.keepText.keepEmpty hfits
  refine ⟨columns, hcolumns, Mode.length_of_indentLines hcolumns, fun count hcount => ?_⟩
  obtain ⟨d, hd, hregular, hcontinued⟩ : ∃ d,
      (m.advanceLines .start 0 ((lines text).take count)).outcome = .ok d ∧
        d.Regular m.config.indentUnit ∧ d.continued = false := by
    refine Mode.asSuggested_induction hequelle.keepText hfits hwritten
      (motive := fun _ d => d.Regular m.config.indentUnit ∧ d.continued = false)
      ⟨Document.regular_start _, rfl⟩ ?_ hcount
    intro count d line column e hline _ hd h
    have hmem := List.mem_of_getElem? hline
    exact regular_of_suggestedLine hequelle (newline_not_mem_of_mem_lines hmem) (horderly line hmem)
      h hd.1 hd.2
  refine ⟨d, hd, hregular, fun line hline => ?_⟩
  obtain ⟨column, hcolumn, hsuggest⟩ := Mode.exists_getElem?_of_indentLines hcolumns hline hd
  rw [hcolumn, hregular.column_eq hcontinued hsuggest]
  simp only [hequelle.closesBlock_iff]

/-- A unit of three columns and tabs of two; a block that ends where the next one starts, a line of
blanks, an empty line and a brace too many. -/
theorem columns_eq_multiples_of_three :
    let config := { Config.standard with indentUnit := 3, tabSize := 2 }
    let text := "a \x7b\n   b \x7b\n\n\t\t  \n   \x7d c \x7b # \x7d\n   \x7d\n\x7d\n\x7d\nd".toList
    ∃ m columns, modeWith config = .ok m ∧ (∀ line ∈ lines text, m.IsOrderly line) ∧
      m.AsSuggested text ∧ (m.indentLines text).outcome = .ok columns ∧
      columns = [0, 3, 6, 6, 3, 3, 0, 0, 0] ∧
      ∃ d, (m.advanceLines .start 0 ((lines text).take 5)).outcome = .ok d ∧ d.level = 2 ∧
        d.columns = [0, 3, 6] ∧ columns[5]? = some (3 * (2 - 1)) := by
  intro config text
  let m : Mode := ⟨entries.map Rule.ofEntry, styles, config⟩
  have hm : modeWith config = .ok m := by
    rw [modeWith, rules_eq]
    rfl
  have hcolumns : (m.indentLines text).outcome = .ok [0, 3, 6, 6, 3, 3, 0, 0, 0] := by
    decide +kernel
  have horderly : ∀ line ∈ lines text, m.IsOrderly line := by decide +kernel
  have hwritten : m.AsSuggested text :=
    Mode.asSuggested_of_indentLines hcolumns (by decide +kernel)
  obtain ⟨columns, hall, -, hstates⟩ := columns_eq_multiples hm rfl rfl
    (hcolumns.trans_ne (by simp)) horderly hwritten
  obtain rfl := Except.ok.inj (hcolumns.symm.trans hall)
  obtain ⟨d, hd, hmultiples, hnext⟩ := hstates 5 (by decide +kernel)
  have hlevel : d.level = 2 := by
    have hstate : (m.advanceLines .start 0 ((lines text).take 5)).outcome =
        .ok ⟨2, [0, 3, 6], true, true, false, 0⟩ := by decide +kernel
    rw [Except.ok.inj (hd.symm.trans hstate)]
  rw [hlevel] at hmultiples hnext
  exact ⟨m, _, hm, horderly, hwritten, hall, rfl, d, hd, hlevel, hmultiples,
    hnext "   \x7d".toList (by decide +kernel)⟩

end Equelle

end EditorMode
