import EditorMode.Rule
import Mathlib.Data.List.Basic

/-!
# Selection

The rules that match are the candidates, in the order of the grammar (`mem_candidates_iff`,
`pairwise_candidates`), and `select` takes the first of the longest (`exists_of_firstLongest`).  So
what it finds is one of the rules, and it matches (`mem_and_matched?_of_select`).

When every rule of a grammar makes tokens of one kind, the grammar is a table of patterns and kinds.
Each entry makes an `offer` for a text, the kind and the part of the text that the pattern matches,
and `select` takes the first of the longest offers (`select_ofEntry`).

Offers of parts of a table can be looked at one by one (`bestOffer_append`).  For tables of fixed
texts the best offer is given by a search for the text: for texts of one length (`bestOffer_words`),
and for texts that compete with a kind for whole runs of characters (`longer_bestOffer_words`).
-/

set_option autoImplicit false

namespace EditorMode

/-! ## Selections -/

theorem firstLongest_cons_of_none {selections : List Selection}
    (h : firstLongest selections = none) (s : Selection) :
    firstLongest (s :: selections) = some s := by
  rw [firstLongest, h]

theorem firstLongest_cons_of_some {selections : List Selection} {t : Selection}
    (h : firstLongest selections = some t) (s : Selection) :
    firstLongest (s :: selections) =
      if s.text.length < t.text.length then some t else some s := by
  rw [firstLongest, h]

theorem firstLongest_eq_none_iff {selections : List Selection} :
    firstLongest selections = none ↔ selections = [] := by
  cases selections with
  | nil => simp [firstLongest]
  | cons s selections =>
    cases hrest : firstLongest selections with
    | none => simp [firstLongest_cons_of_none hrest]
    | some t =>
      rw [firstLongest_cons_of_some hrest]
      split <;> simp

/-- Whatever comes before the first of the longest selections is shorter, and whatever comes after
it is not longer. -/
theorem exists_of_firstLongest {selections : List Selection} {s : Selection}
    (h : firstLongest selections = some s) :
    ∃ early late, selections = early ++ s :: late ∧
      (∀ t ∈ early, t.text.length < s.text.length) ∧
      ∀ t ∈ late, t.text.length ≤ s.text.length := by
  induction selections generalizing s with
  | nil => cases h
  | cons t selections ih =>
    cases hrest : firstLongest selections with
    | none =>
      rw [firstLongest_cons_of_none hrest] at h
      obtain rfl := Option.some.inj h
      obtain rfl := firstLongest_eq_none_iff.1 hrest
      exact ⟨[], [], rfl, by simp, by simp⟩
    | some u =>
      obtain ⟨early, late, rfl, hearly, hlate⟩ := ih hrest
      rw [firstLongest_cons_of_some hrest] at h
      split at h
      · rename_i hlt
        obtain rfl := Option.some.inj h
        exact ⟨t :: early, late, rfl, List.forall_mem_cons.2 ⟨hlt, hearly⟩, hlate⟩
      · rename_i hle
        obtain rfl := Option.some.inj h
        refine ⟨[], early ++ u :: late, rfl, by simp, ?_⟩
        intro v hv
        have huv : v.text.length ≤ u.text.length := by
          rcases List.mem_append.1 hv with hv | hv
          · exact Nat.le_of_lt (hearly v hv)
          · rcases List.mem_cons.1 hv with rfl | hv
            · exact Nat.le_refl _
            · exact hlate v hv
        omega

/-- The candidates are the rules that match, each with its place in the grammar. -/
theorem mem_candidates_iff {rest : List Char} {rules : List Rule} {index : Nat} {s : Selection} :
    s ∈ candidates rest rules index ↔
      ∃ i, s.index = index + i ∧ rules[i]? = some s.rule ∧
        s.rule.pattern.matched? rest = some s.text := by
  induction rules generalizing index with
  | nil => simp [candidates]
  | cons rule rules ih =>
    -- the rule at the front, or one of the others
    rw [← Nat.or_exists_add_one, candidates]
    simp only [List.getElem?_cons_zero, List.getElem?_cons_succ, Option.some.injEq, Nat.add_zero]
    have hothers : s ∈ candidates rest rules (index + 1) ↔
        ∃ i, s.index = index + (i + 1) ∧ rules[i]? = some s.rule ∧
          s.rule.pattern.matched? rest = some s.text := by
      simp only [ih, Nat.add_assoc, Nat.add_comm 1]
    cases hmatched : rule.pattern.matched? rest with
    | none =>
      rw [hothers, or_iff_right]
      rintro ⟨-, rfl, hsome⟩
      rw [hmatched] at hsome
      cases hsome
    | some text =>
      rw [List.mem_cons, hothers]
      refine or_congr_left ?_
      constructor
      · rintro rfl
        exact ⟨rfl, rfl, hmatched⟩
      · rintro ⟨hindex, rfl, hsome⟩
        obtain rfl := Option.some.inj (hmatched.symm.trans hsome)
        rw [← hindex]

theorem pairwise_candidates (rest : List Char) (rules : List Rule) (index : Nat) :
    (candidates rest rules index).Pairwise (·.index < ·.index) := by
  induction rules generalizing index with
  | nil => exact .nil
  | cons rule rules ih =>
    rw [candidates]
    cases rule.pattern.matched? rest with
    | none => exact ih (index + 1)
    | some text =>
      refine List.pairwise_cons.2 ⟨?_, ih (index + 1)⟩
      intro s hs
      obtain ⟨i, hi, -⟩ := mem_candidates_iff.1 hs
      show index < s.index
      omega

/-- The rule that applies is one of the rules, and it matches the text. -/
theorem mem_and_matched?_of_select {rules : List Rule} {rest : List Char} {s : Selection}
    (h : select rules rest = some s) :
    s.rule ∈ rules ∧ s.rule.pattern.matched? rest = some s.text := by
  obtain ⟨early, late, hcandidates, -⟩ := exists_of_firstLongest h
  have hs : s ∈ candidates rest rules 0 := by simp [hcandidates]
  obtain ⟨i, -, hrule, hmatched⟩ := mem_candidates_iff.1 hs
  exact ⟨List.mem_of_getElem? hrule, hmatched⟩

/-! ## Tables of patterns and kinds -/

/-- A kind with the part of a text that is to become a token of it. -/
abbrev Offer := Kind × List Char

/-- The first offer, unless the second one is longer. -/
def longer : Option Offer → Option Offer → Option Offer
  | none, y => y
  | some x, none => some x
  | some x, some y => if x.2.length < y.2.length then some y else some x

@[simp]
theorem longer_none_left (y : Option Offer) : longer none y = y := rfl

@[simp]
theorem longer_none_right (x : Option Offer) : longer x none = x := by
  cases x <;> rfl

theorem longer_of_le {x y : Offer} (h : y.2.length ≤ x.2.length) :
    longer (some x) (some y) = some x := if_neg (Nat.not_lt.2 h)

theorem longer_of_lt {x y : Offer} (h : x.2.length < y.2.length) :
    longer (some x) (some y) = some y := if_pos h

theorem longer_assoc (x y z : Option Offer) :
    longer (longer x y) z = longer x (longer y z) := by
  rcases x with _ | x
  · rfl
  rcases y with _ | y
  · rfl
  rcases z with _ | z
  · rw [longer_none_right, longer_none_right]
  rcases Nat.lt_or_ge x.2.length y.2.length with hxy | hxy
  · rcases Nat.lt_or_ge y.2.length z.2.length with hyz | hyz
    · rw [longer_of_lt hxy, longer_of_lt hyz, longer_of_lt (Nat.lt_trans hxy hyz)]
    · rw [longer_of_lt hxy, longer_of_le hyz, longer_of_lt hxy]
  · rcases Nat.lt_or_ge y.2.length z.2.length with hyz | hyz
    · rw [longer_of_le hxy, longer_of_lt hyz]
    · rw [longer_of_le hxy, longer_of_le hyz, longer_of_le hxy, longer_of_le (Nat.le_trans hyz hxy)]

/-- What an entry of the table makes of the text. -/
def offer (text : List Char) (entry : Pattern × Kind) : Option Offer :=
  (entry.1.matched? text).map (entry.2, ·)

/-- The first of the longest offers. -/
def bestOffer (text : List Char) : List (Pattern × Kind) → Option Offer
  | [] => none
  | entry :: table => longer (offer text entry) (bestOffer text table)

theorem bestOffer_append (text : List Char) (early late : List (Pattern × Kind)) :
    bestOffer text (early ++ late) = longer (bestOffer text early) (bestOffer text late) := by
  induction early with
  | nil => rfl
  | cons entry early ih => rw [List.cons_append, bestOffer, bestOffer, ih, longer_assoc]

theorem bestOffer_eq_none {text : List Char} {table : List (Pattern × Kind)}
    (h : ∀ entry ∈ table, entry.1.matched? text = none) : bestOffer text table = none := by
  induction table with
  | nil => rfl
  | cons entry table ih =>
    rw [List.forall_mem_cons] at h
    rw [bestOffer, offer, h.1, ih h.2]
    rfl

/-- The rule of an entry. -/
def Rule.ofEntry (entry : Pattern × Kind) : Rule := .ofKind entry.1 entry.2

/-- **The rule that applies makes the best offer.** -/
theorem select_ofEntry (table : List (Pattern × Kind)) (text : List Char) :
    ((select (table.map Rule.ofEntry) text).map fun s => (s.rule.action, s.text)) =
      (bestOffer text table).map fun o => (Token.new o.1, o.2) := by
  rw [select]
  generalize 0 = index
  induction table generalizing index with
  | nil => rfl
  | cons entry table ih =>
    have ih' := ih (index + 1)
    have hpattern : (Rule.ofEntry entry).pattern = entry.1 := rfl
    rw [List.map_cons, candidates, bestOffer, offer, hpattern]
    cases entry.1.matched? text with
    | none => exact ih'
    | some found =>
      cases hlong : firstLongest (candidates text (table.map Rule.ofEntry) (index + 1)) with
      | none =>
        rw [hlong] at ih'
        rw [Option.map_eq_none_iff.1 ih'.symm, longer_none_right]
        exact congrArg (Option.map _) (firstLongest_cons_of_none hlong _)
      | some t =>
        rw [hlong] at ih'
        refine (congrArg (Option.map _) (firstLongest_cons_of_some hlong _)).trans ?_
        obtain ⟨o, ho, heq⟩ := Option.map_eq_some_iff.1 ih'.symm
        have htext : o.2 = t.text := congrArg Prod.snd heq
        rw [ho]
        rcases Nat.lt_or_ge found.length t.text.length with hlt | hle
        · show (if _ then _ else _ : Option Selection).map _ = _
          rw [if_pos hlt, Option.map_some, Option.map_some, longer_of_lt (htext ▸ hlt),
            Option.map_some, heq]
        · show (if _ then _ else _ : Option Selection).map _ = _
          rw [if_neg (Nat.not_lt.2 hle), Option.map_some, Option.map_some,
            longer_of_le (htext ▸ hle)]
          rfl

/-! ## Fixed texts -/

/-- The entry of a fixed text. -/
def literalEntry (word : String × Kind) : Pattern × Kind := (.literal word.1, word.2)

theorem matched?_literal (word : String) (text : List Char) :
    (Pattern.literal word).matched? text =
      if word.toList.isPrefixOf text then some word.toList else none := by
  rw [Pattern.matched?, Pattern.matchChars]
  split
  · rename_i h
    rw [Option.map_some, ← List.prefix_iff_eq_take.1 (List.isPrefixOf_iff_prefix.1 h)]
  · rfl

section Words

variable {words : List (String × Kind)} {text : List Char}

/-- Words whose first character has a property do not match a text whose first character has not. -/
theorem bestOffer_words_eq_none {p : Char → Bool} {c : Char}
    (hwords : ∀ word ∈ words, word.1.toList.head?.any p = true) (hc : p c = false)
    (rest : List Char) : bestOffer (c :: rest) (words.map literalEntry) = none := by
  refine bestOffer_eq_none fun entry hentry => ?_
  obtain ⟨word, hword, rfl⟩ := List.mem_map.1 hentry
  have hhead := hwords word hword
  rw [literalEntry, matched?_literal, if_neg]
  intro hprefix
  cases hlist : word.1.toList with
  | nil => simp [hlist] at hhead
  | cons d tail =>
    rw [hlist, List.isPrefixOf_cons_cons, Bool.and_eq_true, beq_iff_eq] at hprefix
    rw [hlist, List.head?_cons, Option.any_some, hprefix.1, hc] at hhead
    exact Bool.false_ne_true hhead

/-- Of words of the same length at most one matches. -/
theorem bestOffer_words (count : Nat) (hwords : ∀ word ∈ words, word.1.toList.length = count) :
    bestOffer text (words.map literalEntry) =
      (words.find? fun word => word.1.toList == text.take count).map fun word =>
        (word.2, text.take count) := by
  induction words with
  | nil => rfl
  | cons word words ih =>
    rw [List.forall_mem_cons] at hwords
    have ih' := ih hwords.2
    have hiff : word.1.toList.isPrefixOf text = true ↔ word.1.toList = text.take count := by
      rw [List.isPrefixOf_iff_prefix, List.prefix_iff_eq_take, hwords.1]
    rw [List.map_cons, bestOffer, ih', offer, literalEntry, matched?_literal, List.find?_cons]
    by_cases h : word.1.toList = text.take count
    · rw [if_pos (hiff.2 h), beq_iff_eq.2 h, h]
      cases words.find? fun word => word.1.toList == text.take count with
      | none => rfl
      | some other => exact longer_of_le (Nat.le_refl _)
    · rw [if_neg (mt hiff.1 h), beq_eq_false_iff_ne.2 h]
      rfl

/-- Words compete with a kind for all runs of characters: a word wins if it is the whole run. -/
theorem longer_bestOffer_words {p : Char → Bool}
    (hwords : ∀ word ∈ words, word.1.toList.all p = true) (kind : Kind) :
    longer (bestOffer text (words.map literalEntry)) (some (kind, text.takeWhile p)) =
      some (((words.find? fun word => word.1.toList == text.takeWhile p).map Prod.snd).getD kind,
        text.takeWhile p) := by
  induction words with
  | nil => rfl
  | cons word words ih =>
    rw [List.forall_mem_cons] at hwords
    rw [List.map_cons, bestOffer, longer_assoc, ih hwords.2, offer, literalEntry,
      matched?_literal, List.find?_cons]
    by_cases h : word.1.toList = text.takeWhile p
    · have hprefix : word.1.toList.isPrefixOf text = true :=
        List.isPrefixOf_iff_prefix.2 (h ▸ List.takeWhile_prefix p)
      rw [if_pos hprefix, beq_iff_eq.2 h, h]
      exact longer_of_le (Nat.le_refl _)
    · rw [beq_eq_false_iff_ne.2 h]
      by_cases hprefix : word.1.toList.isPrefixOf text = true
      · -- a word within the run is shorter than the run
        have hrun : word.1.toList <+: text.takeWhile p := by
          obtain ⟨rest, rfl⟩ := List.isPrefixOf_iff_prefix.1 hprefix
          rw [List.takeWhile_append_of_pos (List.all_eq_true.1 hwords.1)]
          exact List.prefix_append _ _
        have hlt : word.1.toList.length < (text.takeWhile p).length :=
          Nat.lt_of_le_of_ne hrun.length_le fun heq => h (hrun.eq_of_length heq)
        rw [if_pos hprefix]
        exact longer_of_lt hlt
      · rw [if_neg hprefix]
        rfl

end Words

end EditorMode
