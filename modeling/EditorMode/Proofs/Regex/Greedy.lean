import EditorMode.Proofs.Regex.Search
import EditorMode.Pattern

/-!
# Greedy repetitions

A greedy repetition whose rounds leave no choice goes on as long as it can; its other ways stop
before a further round (`Greedy`).  If what follows the repetition fails wherever a further round is
possible, these ways lead nowhere (`Greedy.flatMap_eq`), and if what follows does not fail at the
end of the repetition, they are not needed (`Greedy.head?_flatMap`).  In both cases the match is
found without going back.

The last section says what a pattern matches that is bound to the start of the text.
-/

set_option autoImplicit false

namespace EditorMode.Regex

open Spot

/-! ## The ways of simple expressions -/

theorem Expr.ways_chars (set : CharSet) (s : Spot) :
    (chars set).ways s = if s.rest.head?.any set.holds then [s.forward 1] else [] := by
  rw [ways, read_eq]
  split <;> rfl

theorem Expr.ways_literal (text : List Char) (s : Spot) :
    (literal text).ways s = if text.isPrefixOf s.rest then [s.forward text.length] else [] := by
  rw [ways, readText_eq]
  split <;> rfl

theorem Expr.ways_literal_singleton (c : Char) (s : Spot) :
    (literal [c]).ways s = if s.rest.head? = some c then [s.forward 1] else [] := by
  rw [ways_literal]
  cases s.rest with
  | nil => rfl
  | cons d rest =>
    refine if_congr ?_ rfl rfl
    rw [List.isPrefixOf_cons_cons, List.isPrefixOf_nil_left, Bool.and_true, beq_iff_eq,
      List.head?_cons, Option.some.injEq, eq_comm]

/-- An optional part is left out only if it does not match or what follows fails. -/
theorem Expr.ways_optional (e : Expr) (s : Spot) :
    (times e 0 (some 1) true).ways s = e.ways s ++ [s] := by
  simp [ways, exactly, upTo, prefer]

/-! ## Loops without a choice -/

/-- The way `last` comes first, and at the end of each of the others there could be another
round. -/
def Greedy (round : Spot → List Spot) (last : Spot) (ways : List Spot) : Prop :=
  ∃ others, ways = last :: others ∧ ∀ t ∈ others, round t ≠ []

section Greedy

variable {round next : Spot → List Spot} {s t last : Spot} {ways : List Spot}

theorem Greedy.head? (h : Greedy round last ways) : ways.head? = some last := by
  obtain ⟨others, rfl, -⟩ := h
  rfl

/-- What fails before another round follows the longest way only. -/
theorem Greedy.flatMap_eq (h : Greedy round last ways)
    (hnext : ∀ t, round t ≠ [] → next t = []) : ways.flatMap next = next last := by
  obtain ⟨others, rfl, hothers⟩ := h
  have hnil : others.flatMap next = [] :=
    List.flatMap_eq_nil_iff.2 fun t ht => hnext t (hothers t ht)
  rw [List.flatMap_cons, hnil, List.append_nil]

/-- What can follow the longest way does so. -/
theorem Greedy.head?_flatMap (h : Greedy round last ways) (hnext : (next last).head? = some t) :
    (ways.flatMap next).head? = some t := by
  obtain ⟨others, rfl, -⟩ := h
  rw [List.flatMap_cons, List.head?_append, hnext]
  rfl

theorem greedy_loop_of_nil (hround : round s = []) : Greedy round s (loop round true s) := by
  rw [loop, hround]
  exact ⟨[], rfl, List.forall_mem_nil _⟩

/-- A loop that can go on in one way only is as greedy as what comes after its first round. -/
theorem greedy_loop_of_round (hround : round s = [t]) (hlt : t.rest.length < s.rest.length)
    (h : Greedy round last (loop round true t)) : Greedy round last (loop round true s) := by
  obtain ⟨others, hloop, hothers⟩ := h
  refine ⟨others ++ [s], ?_, fun u hu => ?_⟩
  · rw [loop, hround, List.flatMap_singleton, if_pos hlt, hloop]
    rfl
  · rcases List.mem_append.1 hu with hu | hu
    · exact hothers u hu
    · rw [List.mem_singleton.1 hu, hround]
      exact List.cons_ne_nil _ _

end Greedy

/-! ## Runs of characters -/

section Runs

variable {set : CharSet} {s : Spot}

theorem Expr.ways_chars_ne_nil_iff :
    (chars set).ways s ≠ [] ↔ s.rest.head?.any set.holds = true := by
  rw [ways_chars]
  split <;> simp_all

/-- The run of characters of a set that starts at a place. -/
def CharSet.run (set : CharSet) (s : Spot) : List Char := s.rest.takeWhile set.holds

/-- There is no run where the next character is not in the set. -/
theorem CharSet.run_eq_nil_iff : set.run s = [] ↔ s.rest.head?.any set.holds = false := by
  rw [run]
  cases s.rest <;> simp [List.takeWhile_cons]

/-- The run after the first character of a run is one shorter. -/
theorem CharSet.length_run (h : s.rest.head?.any set.holds = true) :
    (set.run s).length = 1 + (set.run (s.forward 1)).length := by
  rw [run, run, rest_forward]
  cases hrest : s.rest with
  | nil => simp [hrest] at h
  | cons c rest =>
    have hc : set.holds c = true := by simpa [hrest] using h
    rw [List.takeWhile_cons_of_pos hc, List.length_cons, Nat.add_comm]
    rfl

theorem CharSet.rest_forward_run (set : CharSet) (s : Spot) :
    (s.forward (set.run s).length).rest = s.rest.dropWhile set.holds :=
  rest_forward_of_eq_append (set.run s) List.takeWhile_append_dropWhile.symm

/-- A loop over the characters of a set prefers the whole run, and can go no further from its end.
By induction on the length of the run. -/
theorem greedy_loop_chars (set : CharSet) (s : Spot) :
    Greedy (Expr.chars set).ways (s.forward (set.run s).length)
      (loop (Expr.chars set).ways true s) := by
  induction hn : s.rest.length using Nat.strong_induction_on generalizing s with
  | _ n ih =>
    cases hhead : s.rest.head?.any set.holds with
    | false =>
      have hround : (Expr.chars set).ways s = [] := by simp [Expr.ways_chars, hhead]
      rw [CharSet.run_eq_nil_iff.2 hhead]
      exact greedy_loop_of_nil hround
    | true =>
      have hround : (Expr.chars set).ways s = [s.forward 1] := by simp [Expr.ways_chars, hhead]
      have hlt : (s.forward 1).rest.length < s.rest.length := by
        rw [rest_forward, List.length_drop]
        cases hrest : s.rest with
        | nil => simp [hrest] at hhead
        | cons c rest => simp
      rw [CharSet.length_run hhead, ← forward_forward]
      exact greedy_loop_of_round hround hlt (ih _ (hn ▸ hlt) _ rfl)

theorem greedy_star_chars (set : CharSet) (s : Spot) :
    Greedy (Expr.chars set).ways (s.forward (set.run s).length)
      ((Expr.times (.chars set) 0 none true).ways s) := by
  rw [Expr.ways, exactly, List.flatMap_singleton]
  exact greedy_loop_chars set s

theorem greedy_plus_chars (hrun : set.run s ≠ []) :
    Greedy (Expr.chars set).ways (s.forward (set.run s).length)
      ((Expr.times (.chars set) 1 none true).ways s) := by
  have h : s.rest.head?.any set.holds = true := by simpa using mt CharSet.run_eq_nil_iff.2 hrun
  have hround : (Expr.chars set).ways s = [s.forward 1] := by simp [Expr.ways_chars, h]
  rw [Expr.ways, exactly_succ, exactly, List.flatMap_singleton, hround, List.flatMap_singleton,
    CharSet.length_run h, ← forward_forward]
  exact greedy_loop_chars set _

theorem Expr.ways_plus_chars_eq_nil (hrun : set.run s = []) :
    (times (chars set) 1 none true).ways s = [] := by
  rw [ways, exactly_succ, exactly, List.flatMap_singleton, ways_chars,
    CharSet.run_eq_nil_iff.1 hrun]
  rfl

end Runs

end EditorMode.Regex

namespace EditorMode.Pattern

open Regex

/-! ## Patterns at the start of a text -/

section

variable {e : Expr} {text found : List Char}

/-- An expression that the search finds by its first way, and at the start of the text only. -/
structure Direct (e : Expr) : Prop where
  counted : e.wellCounted = true
  progressive : e.progressive = true
  atStart : e.atTextStart = true

/-- The pattern matches by the first way through its expression. -/
theorem matchChars_regex (he : Direct e) (source : String) (text : List Char) :
    matchChars text (.regex ⟨source, e.matcher⟩) =
      (e.ways ⟨0, none, text⟩).head?.map Spot.index := by
  have hanchored : e.matcher.anchored = true := he.atStart
  rw [← Expr.matchAt_eq_head?_ways he.counted he.progressive]
  show Option.map _ (e.matcher.search text) = _
  rw [Matcher.search, if_pos hanchored, Option.map_map]
  exact Option.map_id'

/-- A pattern matches the text up to its first way. -/
theorem matched?_regex (he : Direct e) (source : String) (hfound : found <+: text)
    (hway : (e.ways ⟨0, none, text⟩).head? =
      some ((⟨0, none, text⟩ : Spot).forward found.length)) :
    matched? (.regex ⟨source, e.matcher⟩) text = some found := by
  have hindex : ((⟨0, none, text⟩ : Spot).forward found.length).index = found.length := by
    rw [Spot.index_forward hfound.length_le]
    exact Nat.zero_add _
  rw [matched?, matchChars_regex he, hway, Option.map_some, Option.map_some, hindex,
    List.prefix_iff_eq_take.1 hfound, List.length_take,
    Nat.min_eq_left hfound.length_le]

theorem matched?_regex_eq_none (he : Direct e) (source : String)
    (hways : e.ways ⟨0, none, text⟩ = []) :
    matched? (.regex ⟨source, e.matcher⟩) text = none := by
  rw [matched?, matchChars_regex he, hways]
  rfl

end

end EditorMode.Pattern
