import EditorMode.Proofs.Line

/-!
# Which token is read next

`Cursor.next` tries all rules of a grammar.  `Wins` says which of them applies, in terms of the
lengths of the matches in bytes: there is no longer match, and no earlier rule has a match of the
same length.  A match without characters counts.

The rules are compared by the characters that they match and not by the bytes.  All matches start at
the same place, so that one of two is always a part of the other and both orders are the same
(`byteLength_le_iff`).

`Cursor.next_firstLongest` says what the token is made of, and where reading goes on.
-/

set_option autoImplicit false

namespace EditorMode

open Text

/-! ## Bytes and characters -/

/-- Of two texts with the same start, the one with more characters has more bytes. -/
theorem byteLength_le_iff {s t text : List Char} (hs : s <+: text) (ht : t <+: text) :
    byteLength s ≤ byteLength t ↔ s.length ≤ t.length := by
  rcases List.prefix_or_prefix_of_prefix hs ht with ⟨more, rfl⟩ | ⟨more, rfl⟩
  · simp
  · rw [byteLength_append, List.length_append]
    constructor
    · intro h
      have hmore : more = [] := byteLength_eq_zero_iff.1 (by omega)
      simp [hmore]
    · intro h
      have hmore : more = [] := List.length_eq_zero_iff.1 (by omega)
      simp [hmore]

theorem Pattern.prefix_of_matched? {p : Pattern} {text found : List Char}
    (h : p.matched? text = some found) : found <+: text :=
  ⟨_, append_drop_of_matched? h⟩

theorem Pattern.matchLength_eq_some_iff {p : Pattern} {text : List Char} {length : Nat} :
    p.matchLength text = some length ↔
      ∃ found, p.matched? text = some found ∧ byteLength found = length :=
  Option.map_eq_some_iff

/-! ## The rule that applies -/

/-- Of all rules the one at `index` has the first of the longest matches at the start of `rest`,
with `length` bytes. -/
structure Wins (rules : List Rule) (rest : List Char) (index : Nat) (rule : Rule)
    (length : Nat) : Prop where
  rule_eq : rules[index]? = some rule
  matchLength : rule.pattern.matchLength rest = some length
  longest : ∀ (i : Nat) (other : Rule) (n : Nat), rules[i]? = some other →
    other.pattern.matchLength rest = some n → n ≤ length
  first : ∀ (i : Nat) (other : Rule), rules[i]? = some other →
    other.pattern.matchLength rest = some length → index ≤ i

section Select

variable {rules : List Rule} {rest : List Char}

/-- A rule that matches is among the candidates. -/
theorem exists_mem_candidates {i length : Nat} {rule : Rule} (hrule : rules[i]? = some rule)
    (hlength : rule.pattern.matchLength rest = some length) :
    ∃ found, byteLength found = length ∧ found <+: rest ∧
      ⟨i, rule, found⟩ ∈ candidates rest rules 0 := by
  obtain ⟨found, hfound, rfl⟩ := Pattern.matchLength_eq_some_iff.1 hlength
  refine ⟨found, rfl, Pattern.prefix_of_matched? hfound, ?_⟩
  exact mem_candidates_iff.2 ⟨i, (Nat.zero_add i).symm, hrule, hfound⟩

/-- The candidates are in the order of the grammar, so the first one of a length is the earliest. -/
theorem le_of_select {s t : Selection} (h : select rules rest = some s)
    (ht : t ∈ candidates rest rules 0) :
    t.text.length ≤ s.text.length ∧ (t.text.length = s.text.length → s.index ≤ t.index) := by
  obtain ⟨early, late, hcandidates, hearly, hlate⟩ := exists_of_firstLongest h
  have horder := pairwise_candidates rest rules 0
  rw [hcandidates, List.pairwise_append, List.pairwise_cons] at horder
  rw [hcandidates, List.mem_append, List.mem_cons] at ht
  rcases ht with ht | rfl | ht
  · have hlt := hearly t ht
    exact ⟨Nat.le_of_lt hlt, fun heq => absurd heq (Nat.ne_of_lt hlt)⟩
  · exact ⟨Nat.le_refl _, fun _ => Nat.le_refl _⟩
  · exact ⟨hlate t ht, fun _ => Nat.le_of_lt (horder.2.1.1 t ht)⟩

/-- **The rule that applies wins.** -/
theorem wins_of_select {s : Selection} (h : select rules rest = some s) :
    Wins rules rest s.index s.rule (byteLength s.text) := by
  obtain ⟨early, late, hcandidates, -⟩ := exists_of_firstLongest h
  have hs : s ∈ candidates rest rules 0 := by simp [hcandidates]
  obtain ⟨index, hindex, hrule, hmatched⟩ := mem_candidates_iff.1 hs
  rw [Nat.zero_add] at hindex
  have hprefix := Pattern.prefix_of_matched? hmatched
  refine ⟨hindex ▸ hrule, Pattern.matchLength_eq_some_iff.2 ⟨s.text, hmatched, rfl⟩, ?_, ?_⟩
  · intro i other n hother hn
    obtain ⟨found, rfl, hfound, hmem⟩ := exists_mem_candidates hother hn
    exact (byteLength_le_iff hfound hprefix).2 (le_of_select h hmem).1
  · intro i other hother hn
    obtain ⟨found, hlength, hfound, hmem⟩ := exists_mem_candidates hother hn
    refine (le_of_select h hmem).2 (Nat.le_antisymm (le_of_select h hmem).1 ?_)
    exact (byteLength_le_iff hprefix hfound).1 (Nat.le_of_eq hlength.symm)

/-- Some rule applies if and only if one matches. -/
theorem exists_select_iff :
    (∃ s, select rules rest = some s) ↔
      ∃ rule ∈ rules, ∃ length, rule.pattern.matchLength rest = some length := by
  constructor
  · rintro ⟨s, h⟩
    have hwins := wins_of_select h
    exact ⟨s.rule, List.mem_of_getElem? hwins.rule_eq, _, hwins.matchLength⟩
  · rintro ⟨rule, hrule, length, hlength⟩
    obtain ⟨i, hi⟩ := List.mem_iff_getElem?.1 hrule
    obtain ⟨found, -, -, hmem⟩ := exists_mem_candidates hi hlength
    cases hselect : select rules rest with
    | none =>
      rw [select, firstLongest_eq_none_iff] at hselect
      simp [hselect] at hmem
    | some s => exact ⟨s, rfl⟩

end Select

/-! ## Reading -/

namespace Cursor

/-- The cursor with which reading goes on: it has moved past the token, or it has not moved if no
rule matches. -/
def following (c : Cursor) : Except LexError Reading → Cursor
  | .ok r => r.after
  | .error _ => c

/-- A cursor stands between two characters. -/
theorem takeBytes_position (c : Cursor) : takeBytes c.text c.position = .ok c.before := by
  rw [c.position_eq, text, before, takeBytes_byteLength]

theorem exists_column {c : Cursor} (h : c.column ≠ .error .overflow) :
    ∃ column, c.column = .ok column := by
  cases hcolumn : c.column with
  | error fault =>
    have hfault := c.column_eq.symm.trans hcolumn
    exact absurd (columnAfter_fault hfault ▸ hcolumn) h
  | ok column => exact ⟨column, rfl⟩

theorem next_of_select {rules : List Rule} {c : Cursor} {s : Selection} {column : Nat}
    (hselect : select rules c.rest = some s) (hcolumn : c.column = .ok column) :
    c.next rules = .ok (.ok ⟨s, (s.rule.action s.text c.line).placed c.offset column,
      c.advance s.text.length⟩) := by
  rw [next, hselect, hcolumn]
  rfl

/-- **The first of the longest matches.**  Unless the column of the cursor passes its bound, reading
gives a token if and only if some rule matches at the cursor.  It is then made by the rule that
wins, from the matched part of the rest and the number of the line, and placed where the cursor was;
and the cursor moves on by the length of the match, to a place between two characters of the same
line.  If no rule matches, the report has the place of the cursor, and the cursor does not move. -/
theorem next_firstLongest (rules : List Rule) (c : Cursor) (hcolumn : c.column ≠ .error .overflow) :
    ∃ answer, c.next rules = .ok answer ∧
      ((∃ r, answer = .ok r) ↔
        ∃ rule ∈ rules, ∃ length, rule.pattern.matchLength c.rest = some length) ∧
      (∀ r, answer = .ok r → ∃ length matched column,
        Wins rules c.rest r.selection.index r.selection.rule length ∧
        takeBytes c.rest length = .ok matched ∧ c.column = .ok column ∧
        r.token = { r.selection.rule.action matched c.line with offset := c.offset, column } ∧
        (c.following answer).position = c.position + length ∧
        takeBytes c.text (c.following answer).position = .ok (c.before ++ matched) ∧
        (c.following answer).text = c.text ∧ (c.following answer).line = c.line ∧
        (c.following answer).tabSize = c.tabSize) ∧
      (∀ e, answer = .error e →
        e.line = c.line ∧ e.position = c.position ∧ c.following answer = c) := by
  obtain ⟨column, hok⟩ := exists_column hcolumn
  rw [← exists_select_iff]
  cases hselect : select rules c.rest with
  | none =>
    refine ⟨.error c.unmatched, by rw [next, hselect], by simp, ?_, ?_⟩
    · intro r hr
      cases hr
    · intro e he
      obtain rfl := Except.error.inj he
      exact ⟨rfl, rfl, rfl⟩
  | some s =>
    have hmatched := (mem_and_matched?_of_select hselect).2
    have hrest := Pattern.append_drop_of_matched? hmatched
    have htake : c.rest.take s.text.length = s.text := by
      rw [← hrest, List.take_left]
    refine ⟨_, next_of_select hselect hok, by simp, ?_, ?_⟩
    · intro r hr
      obtain rfl := Except.ok.inj hr
      refine ⟨byteLength s.text, s.text, column, wins_of_select hselect, ?_, hok, rfl, ?_, ?_,
        c.text_advance _, rfl, rfl⟩
      · rw [← hrest, takeBytes_byteLength]
      · rw [following, position_advance, htake]
      · rw [following, ← c.text_advance s.text.length, takeBytes_position, before_advance, htake]
    · intro e he
      cases he

/-- Two rules match three bytes, and the first of them is taken, though a rule that matches nothing
comes before both. -/
theorem next_firstLongest_tie :
    let first : Rule := .literal "øa" (.named "FIRST")
    let rules : List Rule := [.literal "" (.named "NONE"), first, .literal "øa" (.named "SECOND"),
      .literal "ø" (.named "SHORT")]
    let c := (Cursor.start "\tøab".toList 5 8).advance 1
    c.column ≠ .error .overflow ∧ ∃ r, c.next rules = .ok (.ok r) ∧
      Wins rules c.rest 1 first 3 ∧ r.token = ⟨.named "FIRST", ['ø', 'a'], 5, 1, 8⟩ ∧
      r.after.position = 4 := by
  intro first rules c
  have hcolumn : c.column ≠ .error .overflow := by
    rw [show c.column = .ok 8 from rfl]
    simp
  have hnext : c.next rules = .ok (.ok ⟨⟨1, first, ['ø', 'a']⟩,
      ⟨.named "FIRST", ['ø', 'a'], 5, 1, 8⟩, c.advance 2⟩) := rfl
  obtain ⟨answer, hanswer, -, hread, -⟩ := next_firstLongest rules c hcolumn
  obtain rfl := Except.ok.inj (hnext.symm.trans hanswer)
  obtain ⟨length, matched, column, hwins, -, -, -, hposition, -⟩ := hread _ rfl
  have hlength : first.pattern.matchLength c.rest = some 3 := rfl
  obtain rfl := Option.some.inj (hlength.symm.trans hwins.matchLength)
  exact ⟨hcolumn, _, hnext, hwins, rfl, hposition⟩

end Cursor

end EditorMode
