import EditorMode.Pattern
import EditorMode.Proofs.Regex.Framed
import EditorMode.Proofs.Regex.Steps

/-!
# Anchored patterns

A pattern is anchored by its text, `^(?:` before it and `)` after it.  This does what it should: a
pattern that is a regular expression by itself matches, in this frame, just where its own leftmost
match begins at the start of the text, and up to the same place (`Pattern.ofRegex_of_compile`).  The
search for the framed expression takes two steps more at the start and is then the search for the
expression itself (`Expr.search_framed`), while a match of the expression that begins later does not
count (`Matcher.search_eq_some_zero_iff`).

The frame takes two of the levels that a pattern may have, though, so that a pattern may be too deep
for it (`Pattern.ofRegex_tooDeep`).
-/

set_option autoImplicit false

namespace EditorMode

namespace Regex

open Text

/-! ## Where a match begins -/

namespace Matcher

variable {m : Matcher} {made : Made} {index : Nat} {previous : Option Char} {text : List Char}
  {span : Span}

/-- A match is found at one of the places that are left. -/
theorem start_of_searchFrom (h : m.searchFrom made index previous text = some span) :
    index ≤ span.start ∧ span.start ≤ index + text.length := by
  fun_induction searchFrom m made index previous text with
  | case1 made index previous =>
    obtain ⟨stop, -, rfl⟩ := Option.map_eq_some_iff.1 h
    exact ⟨Nat.le_refl _, Nat.le_refl _⟩
  | case2 made index previous c rest stop after hmatch =>
    cases h
    exact ⟨Nat.le_refl _, Nat.le_add_right _ _⟩
  | case3 made index previous c rest after hmatch ih =>
    have := ih h
    rw [List.length_cons]
    omega

theorem start_le_of_search (h : m.search text = some span) : span.start ≤ text.length := by
  rw [search] at h
  split at h
  · obtain ⟨stop, -, rfl⟩ := Option.map_eq_some_iff.1 h
    exact Nat.zero_le _
  · have := (start_of_searchFrom h).2
    omega

/-- The leftmost match begins at the start of the text if there is a match there. -/
theorem search_eq_some_zero_iff {stop : Nat} :
    m.search text = some ⟨0, stop⟩ ↔ (m.matchAt .none ⟨0, none, text⟩).1 = some stop := by
  rw [search]
  split
  · simp
  · cases text with
    | nil => simp [searchFrom]
    | cons c rest =>
      rw [searchFrom]
      split
      next found made hmatch => simp [hmatch]
      next made hmatch =>
        rw [hmatch]
        refine iff_of_false (fun h => ?_) (by simp)
        exact absurd (start_of_searchFrom h).1 (by simp)

end Matcher

/-- Where a match begins and where it stops, in bytes. -/
def Span.bytes (text : List Char) (span : Span) : Nat × Nat :=
  (byteLength (text.take span.start), byteLength (text.take span.stop))

/-- In bytes as in characters: only the place before all characters is at byte 0. -/
theorem Matcher.bytes_search_iff {m : Matcher} {text : List Char} {n : Nat} :
    (m.search text).map (Span.bytes text) = some (0, n) ↔
      (m.matchAt .none ⟨0, none, text⟩).1.map (fun stop => byteLength (text.take stop)) =
        some n := by
  rw [Option.map_eq_some_iff, Option.map_eq_some_iff]
  constructor
  · rintro ⟨⟨start, stop⟩, hspan, hbytes⟩
    obtain ⟨hstart, hstop⟩ := Prod.mk.inj hbytes
    have hle := start_le_of_search hspan
    have hzero : start = 0 := by
      rcases List.take_eq_nil_iff.1 (byteLength_eq_zero_iff.1 hstart) with h | h
      · exact h
      · rw [h] at hle
        exact Nat.le_zero.1 hle
    exact ⟨stop, search_eq_some_zero_iff.1 (hzero ▸ hspan), hstop⟩
  · rintro ⟨stop, hmatch, hstop⟩
    exact ⟨⟨0, stop⟩, search_eq_some_zero_iff.2 hmatch, Prod.ext rfl hstop⟩

/-! ## The search for a framed expression -/

/-- The expression after the start of the text. -/
theorem Expr.search_framed {e : Expr} (h : e.Tidy) (text : List Char) :
    (Expr.sequence [.check .textStart, e]).matcher.search text =
      (e.matcher.matchAt .none ⟨0, none, text⟩).1.map (⟨0, ·⟩) := by
  rw [sequence_check h]
  split
  next hempty =>
    rw [hempty]
    rfl
  next =>
    -- The steps of the own search, and those that it takes to get past the assertion.
    let choices := 2 * e.choices * (text.length + 1)
    have hsteps : (Expr.seq (.check .textStart) e).matcher.enoughSteps text.length =
        e.matcher.enoughSteps text.length + 2 * choices + 2 := by
      show (choices + 1) * (1 + e.plan.size + 1 + 2) =
        (choices + 1) * (e.plan.size + 2) + 2 * choices + 2
      ring
    have hmatch : (Expr.seq (.check .textStart) e).matcher.matchAt .none ⟨0, none, text⟩ =
        e.matcher.matchAt .none ⟨0, none, text⟩ := by
      rw [matchAt_eq_runTasks h.wellCounted _ _ (Nat.le_add_right _ (2 * choices)), Matcher.matchAt,
        hsteps]
      rfl
    rw [← hmatch]
    rfl

/-! ## Compiled patterns -/

/-- The depth is looked at before the size. -/
theorem compileWith_of_parse {engine : Engine} {source : String} {part : Part}
    (h : Part.parse engine.known source.toList = .ok part) :
    compileWith engine source =
      if depthLimit < part.depth then .error .tooDeep
      else if engine.fits part.expr = true then .ok ⟨source, part.expr.matcher⟩
      else .error .tooLarge := by
  rw [compileWith, Expr.parse_eq, h, ok_bind]
  split
  · rfl
  · rw [ok_bind]
    cases engine.fits part.expr <;> rfl

/-- A pattern that can be compiled is within both limits. -/
theorem exists_parse_of_compileWith {engine : Engine} {source : String} {own : Regex}
    (h : compileWith engine source = .ok own) :
    ∃ part, Part.parse engine.known source.toList = .ok part ∧ part.depth ≤ depthLimit ∧
      engine.fits part.expr = true ∧ own = ⟨source, part.expr.matcher⟩ := by
  obtain ⟨e, he, -⟩ := bind_eq_ok_iff.1 h
  rw [Expr.parse_eq] at he
  obtain ⟨part, hpart, -⟩ := bind_eq_ok_iff.1 he
  rw [compileWith_of_parse hpart] at h
  split at h
  next => cases h
  next hdepth =>
    split at h
    next hfits => exact ⟨part, hpart, Nat.le_of_not_lt hdepth, hfits, (Except.ok.inj h).symm⟩
    next => cases h

end Regex

namespace Pattern

open Regex Text

/-! ## Patterns -/

theorem toList_anchored (source : String) :
    (anchored source).toList = '^' :: '(' :: '?' :: ':' :: (source.toList ++ [')']) := by
  rw [anchored, String.toList_append, String.toList_append]
  rfl

/-- The number of bytes up to the end of the match of a framed expression. -/
theorem matchLength_framed {e : Expr} (h : e.Tidy) (source : String) (text : List Char) :
    matchLength (.regex ⟨source, (Expr.sequence [.check .textStart, e]).matcher⟩) text =
      (e.matcher.matchAt .none ⟨0, none, text⟩).1.map fun stop => byteLength (text.take stop) := by
  rw [matchLength, matched?, matchChars, Regex.find?, Expr.search_framed h, Option.map_map,
    Option.map_map, Option.map_map]
  rfl

/-- The frame takes two levels and one assertion. -/
theorem ofRegexWith_of_parse {engine : Engine} {source : String} {part : Part}
    (h : Part.parse engine.known source.toList = .ok part) :
    ofRegexWith engine source =
      let framed := Expr.sequence [.check .textStart, part.expr]
      if depthLimit < part.depth + 2 then .error ⟨source, .tooDeep⟩
      else if engine.fits framed = true then .ok (.regex ⟨anchored source, framed.matcher⟩)
      else .error ⟨source, .tooLarge⟩ := by
  have hparse : Part.parse engine.known (anchored source).toList = _ :=
    (congrArg (Part.parse engine.known) (toList_anchored source)).trans (Part.parse_framed h)
  rw [ofRegexWith, compileWith_of_parse hparse]
  by_cases hdepth : depthLimit < part.depth + 2
  · simp only [if_pos hdepth]
  · simp only [if_neg hdepth]
    cases engine.fits (Expr.sequence [.check .textStart, part.expr]) <;> rfl

/-- **Anchoring.**  Let a pattern be a regular expression by itself, whatever classes of characters
have a name and however the size of an expression is limited.  If two more levels and one more
assertion keep it within the limits, then the anchored pattern matches up to byte `n` just if the
leftmost match of the expression begins at byte 0 and stops at byte `n`.  If they do not, the error
names the pattern and the limit. -/
theorem ofRegex_of_compile (engine : Engine) {source : String} {own : Regex}
    (h : Regex.compileWith engine source = .ok own) :
    ∃ part, Part.parse engine.known source.toList = .ok part ∧ part.depth ≤ depthLimit ∧
      engine.fits part.expr = true ∧ own = ⟨source, part.expr.matcher⟩ ∧
      let framed := Expr.sequence [.check .textStart, part.expr]
      (part.depth + 2 ≤ depthLimit → engine.fits framed = true →
        ∃ p, ofRegexWith engine source = .ok p ∧ ∀ text n, p.matchLength text = some n ↔
          (own.find? text).map (Span.bytes text) = some (0, n)) ∧
      (depthLimit < part.depth + 2 → ofRegexWith engine source = .error ⟨source, .tooDeep⟩) ∧
      (part.depth + 2 ≤ depthLimit → engine.fits framed = false →
        ofRegexWith engine source = .error ⟨source, .tooLarge⟩) := by
  obtain ⟨part, hpart, hdepth, hsmall, hown⟩ := exists_parse_of_compileWith h
  have hframed := ofRegexWith_of_parse hpart
  refine ⟨part, hpart, hdepth, hsmall, hown, fun hlimit hfits => ?_, fun hlimit => ?_,
    fun hlimit hfits => ?_⟩
  · have hp := hframed.trans ((if_neg (Nat.not_lt.2 hlimit)).trans (if_pos hfits))
    refine ⟨_, hp, fun text n => ?_⟩
    rw [matchLength_framed (Part.tidy_of_parse hpart), hown]
    exact Matcher.bytes_search_iff.symm
  · exact hframed.trans (if_pos hlimit)
  · exact hframed.trans
      ((if_neg (Nat.not_lt.2 hlimit)).trans (if_neg (Bool.eq_false_iff.1 hfits)))

/-- Alternatives of which one has a class of ASCII characters, and one changes what a caret means
and has a set with a parenthesis and a class by Unicode property in it.  A match at the start of a
later line does not count. -/
theorem ofRegex_of_compile_lines :
    let source := "a|(?-u:\\w\\b)é|(?mR)^[b)\\p{nd}]+世?$"
    ∃ own p, Regex.compile source = .ok own ∧ ofRegex source = .ok p ∧
      (own.find? "b)٣世\r\nx".toList).map (Span.bytes "b)٣世\r\nx".toList) = some (0, 7) ∧
      p.matchLength "b)٣世\r\nx".toList = some 7 ∧
      (own.find? "éé\r3".toList).map (Span.bytes "éé\r3".toList) = some (5, 6) ∧
      p.matchLength "éé\r3".toList = none := by
  intro source
  let bytes (text : List Char) (own : Regex) := (own.find? text).map (Span.bytes text)
  have hown : (Regex.compile source).map (fun own =>
      (bytes "b)٣世\r\nx".toList own, bytes "éé\r3".toList own)) =
        .ok (some (0, 7), some (5, 6)) := by
    decide +kernel
  have hlimits : (Part.parse Engine.standard.known source.toList).map (fun part =>
      (part.depth, Engine.standard.fits (.sequence [.check .textStart, part.expr]))) =
        .ok (5, true) := by
    decide +kernel
  obtain ⟨own, hcompile, hfound⟩ := map_eq_ok_iff.1 hown
  obtain ⟨hfirst, hsecond⟩ := Prod.mk.inj hfound
  obtain ⟨part, hpart, -, -, -, hmatch, -, -⟩ := ofRegex_of_compile .standard hcompile
  rw [hpart] at hlimits
  obtain ⟨hdepth, hfits⟩ := Prod.mk.inj (Except.ok.inj hlimits)
  obtain ⟨p, hp, hlength⟩ := hmatch (by rw [hdepth]; decide) hfits
  refine ⟨own, p, hcompile, hp, hfirst, (hlength _ _).2 hfirst, hsecond, ?_⟩
  refine Option.eq_none_iff_forall_ne_some.2 fun n hn => ?_
  cases ((hlength _ n).1 hn).symm.trans hsecond

/-- Of 249 groups inside each other a regular expression can be made, but in the frame they are too
deep. -/
theorem ofRegex_tooDeep :
    let source := String.ofList (List.replicate 249 '(' ++ 'a' :: List.replicate 249 ')')
    (∃ own, Regex.compile source = .ok own) ∧ ofRegex source = .error ⟨source, .tooDeep⟩ := by
  intro source
  let known := Engine.standard.known
  have hlimits : (Part.parse known (List.replicate 249 '(' ++ 'a' :: List.replicate 249 ')')).map
      (fun part => (part.depth, Engine.standard.fits part.expr)) = .ok (249, true) := by
    decide +kernel
  obtain ⟨part, hpart, heq⟩ := map_eq_ok_iff.1 hlimits
  obtain ⟨hdepth, hfits⟩ := Prod.mk.inj heq
  have hsource : Part.parse known source.toList = .ok part :=
    (congrArg (Part.parse known) String.toList_ofList).trans hpart
  have hcompile := compileWith_of_parse hsource
  have hframed := ofRegexWith_of_parse hsource
  rw [hdepth, if_neg (by decide), if_pos hfits] at hcompile
  rw [hdepth] at hframed
  exact ⟨⟨_, hcompile⟩, hframed⟩

end Pattern

end EditorMode
