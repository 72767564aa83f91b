import EditorMode.Equelle
import EditorMode.Proofs.Regex.Greedy
import Mathlib.Data.List.TakeWhile

/-!
# What the expressions of Equelle match

For each regular expression among the rules of Equelle this file says, without regular expressions,
which part of a line it matches: a run of characters, a number with its fraction and exponent, a
text in quotes, a comment, a line continuation.

The expressions are given as trees, `Expr`; they are the ones that the texts of the rules are read
as (`EditorMode.Equelle.rules_eq`).

An expression matches by the first of its ways through the text (`Pattern.matched?_regex`).  Most of
the ways need not be known for this.  A greedy loop tries its longest run first, so that its other
ways only matter if what follows the loop fails there (`Greedy.head?_flatMap`), and often they
cannot succeed at all: what follows the loop starts with a character that would have been one more
round (`Greedy.flatMap_eq`).  So the rules are given by `takeWhile` and `dropWhile`, and only for a
text in quotes the end of the run takes an induction of its own.
-/

set_option autoImplicit false

namespace EditorMode.Equelle

open Regex Text

/-! ## Characters -/

/-- The characters of names. -/
def isNameChar (c : Char) : Bool := c.isDigit || c.isUpper || c.isLower || c == '_'

/-- A name that does not start with a capital letter starts with one of these. -/
def isSmallStart (c : Char) : Bool := c.isLower || c == '_'

/-- The letters that start an exponent. -/
def isExponentMark (c : Char) : Bool := c == 'e' || c == 'E'

/-- The signs that an exponent may have. -/
def isSign (c : Char) : Bool := c == '+' || c == '-'

/-! ### Sets

The sets that the expressions are made of, as ranges of code points.  Each of them comes with the
predicate that it stands for.  All that follows is stated with the predicates; code points occur in
this section only. -/

def capitals : CharSet := ⟨[(65, 90)]⟩
def smallStarts : CharSet := ⟨[(95, 95), (97, 122)]⟩
def nameChars : CharSet := ⟨[(48, 57), (65, 90), (95, 95), (97, 122)]⟩
def decimals : CharSet := ⟨[(48, 57)]⟩
def indents : CharSet := ⟨[(9, 9), (32, 32)]⟩
def exponentMarks : CharSet := ⟨[(69, 69), (101, 101)]⟩
def signs : CharSet := ⟨[(43, 43), (45, 45)]⟩
def notNewlines : CharSet := ⟨[(0, 9), (11, 1114111)]⟩
def plainQuoted : CharSet := ⟨[(0, 33), (35, 91), (93, 1114111)]⟩

/-- The sets of all characters but a few end at the last code point, which no character is above. -/
theorem toNat_le_lastCode (c : Char) : c.toNat ≤ 1114111 := by
  have h := c.valid
  rcases h with h | ⟨-, h⟩
  · exact Nat.le_of_lt_succ (Nat.lt_of_lt_of_le h (by decide))
  · exact Nat.le_of_lt_succ h

/-! The letters and digits of ASCII are intervals of code points. -/

theorem isUpper_iff_toNat (c : Char) : c.isUpper = true ↔ 65 ≤ c.toNat ∧ c.toNat ≤ 90 := by
  show decide ('A'.val ≤ c.val ∧ c.val ≤ 'Z'.val) = true ↔ _
  rw [decide_eq_true_iff, UInt32.le_iff_toNat_le, UInt32.le_iff_toNat_le]
  rfl

theorem isLower_iff_toNat (c : Char) : c.isLower = true ↔ 97 ≤ c.toNat ∧ c.toNat ≤ 122 := by
  show (decide ('a'.val ≤ c.val) && decide (c.val ≤ 'z'.val)) = true ↔ _
  rw [Bool.and_eq_true, decide_eq_true_iff, decide_eq_true_iff, UInt32.le_iff_toNat_le,
    UInt32.le_iff_toNat_le]
  rfl

theorem isDigit_iff_toNat (c : Char) : c.isDigit = true ↔ 48 ≤ c.toNat ∧ c.toNat ≤ 57 := by
  show (decide ('0'.val ≤ c.val) && decide (c.val ≤ '9'.val)) = true ↔ _
  rw [Bool.and_eq_true, decide_eq_true_iff, decide_eq_true_iff, UInt32.le_iff_toNat_le,
    UInt32.le_iff_toNat_le]
  rfl

/-- A set has the characters of which `p` holds, if this is so for their code points. -/
theorem holds_eq {set : CharSet} {p : Char → Bool} (hset : set.ranges.ascending = true)
    (h : ∀ c : Char, (∃ r ∈ set.ranges, r.1 ≤ c.toNat ∧ c.toNat ≤ r.2) ↔ p c = true) :
    set.holds = p :=
  funext fun c => Bool.eq_iff_iff.2 ((Ranges.holds_iff hset c.toNat).trans (h c))

/-! Given the intervals, whether a set has just the characters of a predicate is linear
arithmetic. -/

theorem holds_capitals : capitals.holds = Char.isUpper :=
  holds_eq rfl fun c => by simp [capitals, isUpper_iff_toNat]

theorem holds_smallStarts : smallStarts.holds = isSmallStart :=
  holds_eq rfl fun c => by
    simp [smallStarts, isSmallStart, isLower_iff_toNat, ← Char.toNat_inj]
    omega

theorem holds_nameChars : nameChars.holds = isNameChar :=
  holds_eq rfl fun c => by
    simp [nameChars, isNameChar, isUpper_iff_toNat, isLower_iff_toNat, isDigit_iff_toNat,
      ← Char.toNat_inj]
    omega

theorem holds_decimals : decimals.holds = Char.isDigit :=
  holds_eq rfl fun c => by simp [decimals, isDigit_iff_toNat]

theorem holds_indents : indents.holds = isIndent :=
  holds_eq rfl fun c => by
    simp [indents, isIndent, ← Char.toNat_inj]
    omega

theorem holds_exponentMarks : exponentMarks.holds = isExponentMark :=
  holds_eq rfl fun c => by
    simp [exponentMarks, isExponentMark, ← Char.toNat_inj]
    omega

theorem holds_signs : signs.holds = isSign :=
  holds_eq rfl fun c => by
    simp [signs, isSign, ← Char.toNat_inj]
    omega

theorem holds_notNewlines : notNewlines.holds = (· != '\n') :=
  holds_eq rfl fun c => by
    have h := toNat_le_lastCode c
    simp [notNewlines, ← Char.toNat_inj]
    omega

theorem holds_plainQuoted : plainQuoted.holds = fun c => c != '"' && c != '\\' :=
  holds_eq rfl fun c => by
    have h := toNat_le_lastCode c
    simp [plainQuoted, ← Char.toNat_inj]
    omega

/-! ## Runs

A name and a run of one or more characters, both of which end before the first character that does
not belong to them. -/

/-- The expression at the start of the text. -/
def anchored (e : Expr) : Expr := .seq (.check .textStart) e

/-- At the start of the text there is one way past the anchor. -/
theorem ways_anchored (e : Expr) (text : List Char) :
    (anchored e).ways ⟨0, none, text⟩ = e.ways ⟨0, none, text⟩ :=
  List.flatMap_singleton ..

/-- A character of the first set and any number of the characters of names. -/
def nameExpr (first : CharSet) : Expr :=
  anchored (.seq (.chars first) (.times (.chars nameChars) 0 none true))

/-- A name is its first character with all the characters of names after it. -/
theorem matched?_name (source : String) (first : CharSet) (c : Char) (rest : List Char) :
    Pattern.matched? (.regex ⟨source, (nameExpr first).matcher⟩) (c :: rest) =
      if first.holds c then some (c :: rest.takeWhile isNameChar) else none := by
  have hdirect : Pattern.Direct (nameExpr first) := ⟨rfl, rfl, rfl⟩
  split
  · rename_i hc
    refine Pattern.matched?_regex hdirect source
      (List.cons_prefix_cons.2 ⟨rfl, List.takeWhile_prefix _⟩) ?_
    -- One way past the first character, and of the ways through the loop after it the first one.
    rw [nameExpr, ways_anchored, Expr.ways, Expr.ways_chars, if_pos (by simpa using hc),
      List.flatMap_singleton, (greedy_star_chars nameChars _).head?, CharSet.run,
      Spot.rest_forward, holds_nameChars, Spot.forward_forward, List.length_cons, Nat.add_comm]
    rfl
  · rename_i hc
    refine Pattern.matched?_regex_eq_none hdirect source ?_
    rw [nameExpr, ways_anchored, Expr.ways, Expr.ways_chars, if_neg (by simpa using hc)]
    rfl

/-- One or more characters of a set. -/
def runExpr (set : CharSet) : Expr := anchored (.times (.chars set) 1 none true)

/-- A run has one character at least, and is matched as far as it goes. -/
theorem matched?_run (source : String) (set : CharSet) (hset : (runExpr set).progressive = true)
    (c : Char) (rest : List Char) :
    Pattern.matched? (.regex ⟨source, (runExpr set).matcher⟩) (c :: rest) =
      if set.holds c then some ((c :: rest).takeWhile set.holds) else none := by
  have hdirect : Pattern.Direct (runExpr set) := ⟨rfl, hset, rfl⟩
  split
  · rename_i hc
    refine Pattern.matched?_regex hdirect source (List.takeWhile_prefix _) ?_
    rw [runExpr, ways_anchored, (greedy_plus_chars (by simp [CharSet.run, hc])).head?]
    rfl
  · rename_i hc
    refine Pattern.matched?_regex_eq_none hdirect source ?_
    rw [runExpr, ways_anchored, Expr.ways_plus_chars_eq_nil (by simp [CharSet.run, hc])]

/-! ## Numbers

A number with a fraction: digits, a point, digits and perhaps an exponent.  The exponent only counts
if it has a digit, with or without a sign before it; a mark that no digit follows is not part of the
number. -/

/-- The sign at the start of the text, if there is one. -/
def sign (text : List Char) : List Char := (text.take 1).filter isSign

/-- The digits of an exponent, after its sign. -/
def exponentDigits (text : List Char) : List Char :=
  (text.drop (sign text).length).takeWhile Char.isDigit

/-- The exponent at the start of the text: nothing, unless it has a digit. -/
def exponent : List Char → List Char
  | [] => []
  | c :: text =>
    if isExponentMark c ∧ exponentDigits text ≠ [] then c :: (sign text ++ exponentDigits text)
    else []

/-- The fraction at the start of the text, with its exponent. -/
def fraction? : List Char → Option (List Char)
  | [] => none
  | c :: text =>
    if c = '.' ∧ text.takeWhile Char.isDigit ≠ [] then
      some ('.' :: (text.takeWhile Char.isDigit ++ exponent (text.dropWhile Char.isDigit)))
    else none

/-- The mark of an exponent, its sign, if there is one, and its digits. -/
def exponentExpr : Expr :=
  .group 1 (.seq (.chars exponentMarks)
    (.seq (.times (.chars signs) 0 (some 1) true) (.times (.chars decimals) 1 none true)))

/-- The point, the digits after it and, if there is one, the exponent. -/
def fractionExpr : Expr :=
  .seq (.literal ['.'])
    (.seq (.times (.chars decimals) 1 none true) (.times exponentExpr 0 (some 1) true))

/-- The digits before the point, and the fraction. -/
def floatExpr : Expr := anchored (.seq (.times (.chars decimals) 1 none true) fractionExpr)

/-! ### The parts of a number are read from the start of a text -/

theorem prefix_sign (text : List Char) : sign text <+: text := by
  cases text with
  | nil => exact List.prefix_rfl
  | cons c text =>
    by_cases h : isSign c = true
    · simp [sign, h]
    · simp [sign, h]

theorem prefix_sign_append_exponentDigits (text : List Char) :
    sign text ++ exponentDigits text <+: text := by
  have h := List.prefix_append_right_inj (sign text) |>.2
    (List.takeWhile_prefix Char.isDigit (l := text.drop (sign text).length))
  rwa [List.prefix_iff_eq_append.1 (prefix_sign text)] at h

theorem prefix_exponent (text : List Char) : exponent text <+: text := by
  cases text with
  | nil => exact List.prefix_rfl
  | cons c text =>
    rw [exponent]
    split
    · exact List.cons_prefix_cons.2 ⟨rfl, prefix_sign_append_exponentDigits text⟩
    · exact List.nil_prefix

/-- A fraction is the start of the text from which it is read. -/
theorem prefix_of_fraction? {text found : List Char} (h : fraction? text = some found) :
    found <+: text := by
  cases text with
  | nil => cases h
  | cons c text =>
    rw [fraction?] at h
    split at h
    · rename_i hc
      obtain rfl := Option.some.inj h
      -- The exponent follows the digits, which are cut off on both sides.
      have hexp := List.prefix_append_right_inj (text.takeWhile Char.isDigit) |>.2
        (prefix_exponent (text.dropWhile Char.isDigit))
      rw [List.takeWhile_append_dropWhile] at hexp
      exact List.cons_prefix_cons.2 ⟨hc.1.symm, hexp⟩
    · cases h

/-! ### The first way through each part -/

theorem run_decimals (s : Spot) : decimals.run s = s.rest.takeWhile Char.isDigit := by
  rw [CharSet.run, holds_decimals]

/-- The digits at a place, if there are any. -/
theorem head?_ways_decimals (s : Spot) :
    ((Expr.times (.chars decimals) 1 none true).ways s).head? =
      if s.rest.takeWhile Char.isDigit ≠ [] then
        some (s.forward (s.rest.takeWhile Char.isDigit).length)
      else none := by
  rw [← run_decimals]
  split
  · rename_i hrun
    exact (greedy_plus_chars hrun).head?
  · rename_i hrun
    rw [Expr.ways_plus_chars_eq_nil (not_not.1 hrun)]
    rfl

/-- Digits do not start with a sign. -/
theorem not_isDigit_of_isSign {c : Char} (h : isSign c = true) : c.isDigit = false := by
  rcases Bool.or_eq_true _ _ ▸ h with h | h
  · rw [eq_of_beq h]
    rfl
  · rw [eq_of_beq h]
    rfl

/-- The digits at a place, with the sign before them. -/
theorem head?_ways_signed (s : Spot) :
    ((Expr.seq (.times (.chars signs) 0 (some 1) true)
        (.times (.chars decimals) 1 none true)).ways s).head? =
      if exponentDigits s.rest ≠ [] then
        some (s.forward (sign s.rest ++ exponentDigits s.rest).length)
      else none := by
  rw [Expr.ways, Expr.ways_optional, List.flatMap_append, List.flatMap_singleton, Expr.ways_chars,
    holds_signs]
  cases hsign : s.rest.head?.any isSign with
  | true =>
    obtain ⟨c, rest, hrest⟩ : ∃ c rest, s.rest = c :: rest := by
      cases hrest : s.rest with
      | nil => simp [hrest] at hsign
      | cons c rest => exact ⟨c, rest, rfl⟩
    have hc : isSign c = true := by simpa [hrest] using hsign
    -- A sign is no digit, so that it cannot be left out.
    have hnil : (Expr.times (.chars decimals) 1 none true).ways s = [] :=
      Expr.ways_plus_chars_eq_nil (by simp [run_decimals, hrest, not_isDigit_of_isSign hc])
    have hsigned : sign s.rest = [c] := by simp [sign, hrest, hc]
    have hdigits : exponentDigits s.rest = (s.forward 1).rest.takeWhile Char.isDigit := by
      rw [exponentDigits, hsigned, Spot.rest_forward]
      rfl
    rw [if_pos rfl, List.flatMap_singleton, hnil, List.append_nil, head?_ways_decimals, hdigits,
      hsigned, Spot.forward_forward]
    simp only [List.length_append, List.length_singleton]
  | false =>
    -- Without a sign, the only way through the option is to leave it out.
    have hunsigned : sign s.rest = [] := by
      cases hrest : s.rest with
      | nil => rfl
      | cons c rest => simp_all [sign]
    have hdigits : exponentDigits s.rest = s.rest.takeWhile Char.isDigit := by
      rw [exponentDigits, hunsigned]
      rfl
    rw [if_neg Bool.false_ne_true, List.flatMap_nil, List.nil_append, head?_ways_decimals, hdigits,
      hunsigned, List.nil_append]

/-- An exponent is read as a whole or, without digits, not at all: leaving it out is the way that
the option has left. -/
theorem head?_ways_exponent (s : Spot) :
    ((Expr.times exponentExpr 0 (some 1) true).ways s).head? =
      some (s.forward (exponent s.rest).length) := by
  rw [Expr.ways_optional, exponentExpr, Expr.ways, Expr.ways, Expr.ways_chars, holds_exponentMarks]
  cases hrest : s.rest with
  | nil => rfl
  | cons c rest =>
    have hrest1 : (s.forward 1).rest = rest := Spot.rest_forward_of_eq_append [c] hrest
    by_cases hc : isExponentMark c = true
    · rw [List.head?_cons, Option.any_some, if_pos hc, List.flatMap_singleton, List.head?_append,
        head?_ways_signed, hrest1, exponent, Spot.forward_forward]
      by_cases hdigits : exponentDigits rest ≠ []
      · rw [if_pos hdigits, if_pos ⟨hc, hdigits⟩, List.length_cons, Nat.add_comm 1]
        rfl
      · rw [if_neg hdigits, if_neg (fun h => hdigits h.2)]
        rfl
    · rw [List.head?_cons, Option.any_some, if_neg hc, exponent, if_neg (fun h => hc h.1)]
      rfl

/-- A fraction takes all the digits after the point, and the exponent after these. -/
theorem head?_ways_fraction (s : Spot) :
    (fractionExpr.ways s).head? = (fraction? s.rest).map fun found => s.forward found.length := by
  rw [fractionExpr, Expr.ways, Expr.ways_literal_singleton]
  cases hrest : s.rest with
  | nil => rfl
  | cons c rest =>
    have hrest1 : (s.forward 1).rest = rest := Spot.rest_forward_of_eq_append [c] hrest
    have hrun : decimals.run (s.forward 1) = rest.takeWhile Char.isDigit := by
      rw [run_decimals, hrest1]
    have hafter : ((s.forward 1).forward (rest.takeWhile Char.isDigit).length).rest =
        rest.dropWhile Char.isDigit := by
      rw [← hrun, CharSet.rest_forward_run, holds_decimals, hrest1]
    rw [List.head?_cons, fraction?]
    by_cases hc : c = '.'
    · rw [if_pos (congrArg some hc), List.flatMap_singleton, Expr.ways]
      by_cases hdigits : rest.takeWhile Char.isDigit ≠ []
      · -- The exponent always has a way, so that no digit is given back to make room for it.
        have hgreedy := greedy_plus_chars (hrun ▸ hdigits)
        rw [hrun] at hgreedy
        rw [hgreedy.head?_flatMap (head?_ways_exponent _), hafter, if_pos ⟨hc, hdigits⟩,
          Spot.forward_forward, Spot.forward_forward, Option.map_some, List.length_cons,
          List.length_append, Nat.add_assoc, Nat.add_comm 1, Nat.add_assoc]
      · rw [Expr.ways_plus_chars_eq_nil (hrun.trans (not_not.1 hdigits)),
          if_neg (fun h => hdigits h.2)]
        rfl
    · rw [if_neg (fun h => hc (Option.some.inj h)), if_neg (fun h => hc h.1)]
      rfl

/-- A fraction does not start with a digit, so that it cannot follow a part of the digits. -/
theorem ways_fraction_eq_nil {s : Spot} (h : (Expr.chars decimals).ways s ≠ []) :
    fractionExpr.ways s = [] := by
  rw [Expr.ways_chars_ne_nil_iff, holds_decimals] at h
  have hne : s.rest.head? ≠ some '.' := by
    intro hdot
    rw [hdot] at h
    exact absurd h (by decide)
  rw [fractionExpr, Expr.ways, Expr.ways_literal_singleton, if_neg hne]
  rfl

/-- A number with a fraction is all the digits at the start and the fraction after them, provided
that there is one. -/
theorem matched?_float (source : String) (c : Char) (rest : List Char) :
    Pattern.matched? (.regex ⟨source, floatExpr.matcher⟩) (c :: rest) =
      if c.isDigit then
        (fraction? ((c :: rest).dropWhile Char.isDigit)).map
          ((c :: rest).takeWhile Char.isDigit ++ ·)
      else none := by
  have hdirect : Pattern.Direct floatExpr := ⟨rfl, rfl, rfl⟩
  have hrun := run_decimals ⟨0, none, c :: rest⟩
  have hafter := CharSet.rest_forward_run decimals ⟨0, none, c :: rest⟩
  rw [hrun, holds_decimals] at hafter
  by_cases hc : c.isDigit = true
  · have hne : decimals.run ⟨0, none, c :: rest⟩ ≠ [] := by simp [hrun, hc]
    have hgreedy := greedy_plus_chars hne
    -- Only the way that takes all the digits can go on with a fraction.
    have hways : floatExpr.ways ⟨0, none, c :: rest⟩ = fractionExpr.ways
        ((⟨0, none, c :: rest⟩ : Spot).forward ((c :: rest).takeWhile Char.isDigit).length) := by
      rw [floatExpr, ways_anchored, Expr.ways,
        hgreedy.flatMap_eq fun _ => ways_fraction_eq_nil, hrun]
    rw [if_pos hc]
    cases hfraction : fraction? ((c :: rest).dropWhile Char.isDigit) with
    | none =>
      refine Pattern.matched?_regex_eq_none hdirect source ?_
      rw [hways, ← List.head?_eq_none_iff, head?_ways_fraction, hafter, hfraction]
      rfl
    | some found =>
      refine Pattern.matched?_regex hdirect source ?_ ?_
      · have h := List.prefix_append_right_inj ((c :: rest).takeWhile Char.isDigit) |>.2
          (prefix_of_fraction? hfraction)
        rwa [List.takeWhile_append_dropWhile] at h
      · rw [hways, head?_ways_fraction, hafter, hfraction, Option.map_some, Spot.forward_forward,
          List.length_append]
  · rw [if_neg hc]
    refine Pattern.matched?_regex_eq_none hdirect source ?_
    rw [floatExpr, ways_anchored, Expr.ways, Expr.ways_plus_chars_eq_nil (by simp [hrun, hc])]
    rfl

/-! ## Texts in quotes

The rounds of the loop between the quotes are not single characters: a backslash goes with the
character after it, so a quote after a backslash does not end the text.  The first way ends at the
first quote that no backslash belongs to.  If there is none, nothing is matched, since a shorter run
of rounds is followed by the start of a round and not by a quote. -/

/-- The text up to the first quote that is not escaped, which it includes.  A backslash escapes the
character after it. -/
def throughQuote? : List Char → Option (List Char)
  | [] => none
  | '"' :: _ => some ['"']
  | '\\' :: c :: text => (throughQuote? text).map ('\\' :: c :: ·)
  | c :: text => (throughQuote? text).map (c :: ·)

/-- A round: a backslash with the character after it, or a character that is neither a backslash
nor a quote. -/
def quotedExpr : Expr :=
  .alt (.seq (.literal ['\\']) (.chars notNewlines)) (.chars plainQuoted)

/-- A quote, any number of rounds and a quote. -/
def stringExpr : Expr :=
  anchored (.seq (.literal ['"'])
    (.seq (.times (.group 1 quotedExpr) 0 none true) (.literal ['"'])))

/-- The text through the quote is the start of the text. -/
theorem prefix_of_throughQuote? {text found : List Char} (h : throughQuote? text = some found) :
    found <+: text := by
  fun_induction throughQuote? text generalizing found with
  | case1 => cases h
  | case2 text =>
    obtain rfl := Option.some.inj h
    exact List.prefix_append ['"'] text
  | case3 c text ih =>
    obtain ⟨found, hfound, rfl⟩ := Option.map_eq_some_iff.1 h
    simpa using ih hfound
  | case4 c text _ _ ih =>
    obtain ⟨found, hfound, rfl⟩ := Option.map_eq_some_iff.1 h
    simpa using ih hfound

/-- A round reads a backslash with the character after it, or a character other than a quote. -/
theorem ways_quoted (s : Spot) :
    quotedExpr.ways s =
      (if s.rest.head? = some '\\' ∧ (s.rest.drop 1).head?.any (· != '\n') then [s.forward 2]
        else []) ++
      if s.rest.head?.any fun c => c != '"' && c != '\\' then [s.forward 1] else [] := by
  rw [quotedExpr, Expr.ways, Expr.ways_chars, holds_plainQuoted, Expr.ways,
    Expr.ways_literal_singleton]
  -- The second alternative is as stated; what is left is the backslash and what follows it.
  congr 1
  by_cases h : s.rest.head? = some '\\'
  · rw [if_pos h, List.flatMap_singleton, Expr.ways_chars, holds_notNewlines, Spot.rest_forward,
      Spot.forward_forward]
    simp only [h, true_and]
  · rw [if_neg h, if_neg fun hh => h hh.1]
    rfl

/-- The rounds go on up to the quote, if there is one. -/
theorem greedy_quoted {text : List Char} (hline : '\n' ∉ text) {s : Spot} (hrest : s.rest = text) :
    ∃ last, Greedy quotedExpr.ways last (Spot.loop quotedExpr.ways true s) ∧
      (Expr.literal ['"']).ways last =
        ((throughQuote? text).map fun found => s.forward found.length).toList := by
  -- By the rounds that are read: the end of the text, a quote, an escape, any other character.
  fun_induction throughQuote? text generalizing s with
  | case1 =>
    refine ⟨s, greedy_loop_of_nil ?_, ?_⟩
    · simp [ways_quoted, hrest]
    · simp [Expr.ways_literal_singleton, hrest]
  | case2 text =>
    refine ⟨s, greedy_loop_of_nil ?_, ?_⟩
    · simp [ways_quoted, hrest]
    · simp [Expr.ways_literal_singleton, hrest]
  | case3 c text ih =>
    have hc : c ≠ '\n' := fun h => hline (by simp [h])
    have hround : quotedExpr.ways s = [s.forward 2] := by simp [ways_quoted, hrest, hc]
    have hrest2 : (s.forward 2).rest = text := Spot.rest_forward_of_eq_append ['\\', c] hrest
    have hlt : (s.forward 2).rest.length < s.rest.length := by
      rw [hrest2, hrest, List.length_cons, List.length_cons]
      omega
    obtain ⟨last, hgreedy, hclose⟩ := ih (fun h => hline (by simp [h])) hrest2
    refine ⟨last, greedy_loop_of_round hround hlt hgreedy, ?_⟩
    rw [hclose, Option.map_map]
    simp only [Spot.forward_forward, Function.comp_def, List.length_cons, Nat.add_comm,
      Nat.add_left_comm]
  | case4 c text hquote hescape ih =>
    by_cases hc : c = '\\'
    · -- A backslash at the end of the line escapes nothing, so that the rounds end before it.
      obtain rfl : text = [] := by
        cases text with
        | nil => rfl
        | cons d text => exact (hescape d text hc rfl).elim
      refine ⟨s, greedy_loop_of_nil ?_, ?_⟩
      · simp [ways_quoted, hrest, hc]
      · simp [Expr.ways_literal_singleton, hrest, hc, throughQuote?]
    · have hround : quotedExpr.ways s = [s.forward 1] := by
        simp [ways_quoted, hrest, hc, show c ≠ '"' from hquote]
      have hrest1 : (s.forward 1).rest = text := Spot.rest_forward_of_eq_append [c] hrest
      have hlt : (s.forward 1).rest.length < s.rest.length := by
        rw [hrest1, hrest, List.length_cons]
        omega
      obtain ⟨last, hgreedy, hclose⟩ := ih (fun h => hline (by simp [h])) hrest1
      refine ⟨last, greedy_loop_of_round hround hlt hgreedy, ?_⟩
      rw [hclose, Option.map_map]
      simp only [Spot.forward_forward, Function.comp_def, List.length_cons, Nat.add_comm]

/-- A quote ends the rounds: where another round is possible, the closing quote is not. -/
theorem ways_quote_eq_nil {s : Spot} (h : quotedExpr.ways s ≠ []) :
    (Expr.literal ['"']).ways s = [] := by
  rw [Expr.ways_literal_singleton, if_neg]
  intro hquote
  exact h (by simp [ways_quoted, hquote])

/-- A text in quotes reaches through the first quote that is not escaped.  There must be no newline,
which a backslash cannot escape. -/
theorem matched?_string (source : String) {c : Char} {rest : List Char} (hline : '\n' ∉ rest) :
    Pattern.matched? (.regex ⟨source, stringExpr.matcher⟩) (c :: rest) =
      if c = '"' then (throughQuote? rest).map ('"' :: ·) else none := by
  have hdirect : Pattern.Direct stringExpr := ⟨rfl, rfl, rfl⟩
  by_cases hc : c = '"'
  · subst hc
    obtain ⟨last, hgreedy, hclose⟩ := greedy_quoted hline
      (show ((⟨0, none, '"' :: rest⟩ : Spot).forward 1).rest = rest from rfl)
    have hopen : (Expr.literal ['"']).ways ⟨0, none, '"' :: rest⟩ =
        [(⟨0, none, '"' :: rest⟩ : Spot).forward 1] := rfl
    -- After the opening quote there is at most one way: all rounds, and then the closing quote.
    have hways : stringExpr.ways ⟨0, none, '"' :: rest⟩ =
        ((throughQuote? rest).map fun found =>
          ((⟨0, none, '"' :: rest⟩ : Spot).forward 1).forward found.length).toList := by
      rw [← hclose, ← hgreedy.flatMap_eq fun _ => ways_quote_eq_nil, stringExpr, ways_anchored,
        Expr.ways, hopen, List.flatMap_singleton, Expr.ways, Expr.ways, Spot.exactly,
        List.flatMap_singleton]
      rfl
    rw [if_pos rfl]
    cases hfound : throughQuote? rest with
    | none =>
      refine Pattern.matched?_regex_eq_none hdirect source ?_
      rw [hways, hfound]
      rfl
    | some found =>
      refine Pattern.matched?_regex hdirect source
        (List.cons_prefix_cons.2 ⟨rfl, prefix_of_throughQuote? hfound⟩) ?_
      rw [hways, hfound, Option.map_some, Spot.forward_forward, List.length_cons, Nat.add_comm 1]
      rfl
  · rw [if_neg hc]
    refine Pattern.matched?_regex_eq_none hdirect source ?_
    rw [stringExpr, ways_anchored, Expr.ways, Expr.ways_literal_singleton,
      if_neg (by simpa using hc)]
    rfl

/-! ## Comments and line continuations

A comment reaches to the end of the line, and a line continuation takes the blanks and the comment
after its dots with it. -/

/-- A hash and everything after it. -/
def commentTail : Expr := .seq (.literal ['#']) (.times (.chars notNewlines) 0 none true)

/-- A comment at the start of the text. -/
def commentExpr : Expr := anchored commentTail

/-- Blanks and, if one follows, a comment. -/
def continuationTail : Expr :=
  .seq (.times (.chars indents) 0 none true) (.times (.group 1 commentTail) 0 (some 1) true)

/-- Three dots, blanks and, if one follows, a comment. -/
def continuationExpr : Expr := anchored (.seq (.literal ['.', '.', '.']) continuationTail)

/-- A comment reaches to the end of the line. -/
theorem head?_ways_commentTail {s : Spot} (hline : '\n' ∉ s.rest) :
    (commentTail.ways s).head? =
      if s.rest.head? = some '#' then some (s.forward s.rest.length) else none := by
  rw [commentTail, Expr.ways, Expr.ways_literal_singleton]
  by_cases hhash : s.rest.head? = some '#'
  · have hlen : 1 ≤ s.rest.length := by
      cases hrest : s.rest with
      | nil => simp [hrest] at hhash
      | cons c rest => simp
    -- Nothing but a newline could end the run.
    have hrun : notNewlines.run (s.forward 1) = (s.forward 1).rest := by
      rw [CharSet.run, List.takeWhile_eq_self_iff]
      intro c hc
      rw [holds_notNewlines, bne_iff_ne]
      rintro rfl
      exact Spot.not_mem_rest_forward hline 1 hc
    rw [if_pos hhash, if_pos hhash, List.flatMap_singleton,
      (greedy_star_chars notNewlines _).head?, hrun, Spot.forward_length_rest hlen]
  · rw [if_neg hhash, if_neg hhash]
    rfl

/-- A comment is the whole rest of the line. -/
theorem matched?_comment (source : String) {c : Char} {rest : List Char}
    (hline : '\n' ∉ c :: rest) :
    Pattern.matched? (.regex ⟨source, commentExpr.matcher⟩) (c :: rest) =
      if c = '#' then some (c :: rest) else none := by
  have hdirect : Pattern.Direct commentExpr := ⟨rfl, rfl, rfl⟩
  have hhead := head?_ways_commentTail (s := ⟨0, none, c :: rest⟩) hline
  rw [← ways_anchored] at hhead
  by_cases hc : c = '#'
  · rw [if_pos hc]
    exact Pattern.matched?_regex hdirect source List.prefix_rfl
      (hhead.trans (if_pos (congrArg some hc)))
  · rw [if_neg hc]
    exact Pattern.matched?_regex_eq_none hdirect source
      (List.head?_eq_none_iff.1 (hhead.trans (if_neg fun h => hc (Option.some.inj h))))

/-- Spaces and tabs and, if one follows, a comment. -/
theorem head?_ways_continuationTail {s : Spot} (hline : '\n' ∉ s.rest) :
    (continuationTail.ways s).head? =
      some (s.forward (if (s.rest.dropWhile isIndent).head? = some '#' then s.rest.length
        else (s.rest.takeWhile isIndent).length)) := by
  have hrun : indents.run s = s.rest.takeWhile isIndent := by rw [CharSet.run, holds_indents]
  have hgreedy := greedy_star_chars indents s
  have hrest := CharSet.rest_forward_run indents s
  rw [hrun] at hgreedy hrest
  rw [holds_indents] at hrest
  have hlast := Spot.not_mem_rest_forward hline (s.rest.takeWhile isIndent).length
  -- A comment after all the blanks may be missing, so that no blank is given back.
  rw [continuationTail, Expr.ways]
  refine hgreedy.head?_flatMap ?_
  rw [Expr.ways_optional, List.head?_append, Expr.ways, head?_ways_commentTail hlast,
    Spot.forward_length_rest (List.takeWhile_prefix _).length_le, hrest]
  split
  · rfl
  · rfl

/-- Three dots with the spaces and tabs after them and, if one follows, a comment. -/
def continuation (text : List Char) : List Char :=
  if ((text.drop 3).dropWhile isIndent).head? = some '#' then text
  else text.take 3 ++ (text.drop 3).takeWhile isIndent

/-- A line continuation is the start of the line. -/
theorem prefix_continuation (text : List Char) : continuation text <+: text := by
  rw [continuation]
  split
  · exact List.prefix_rfl
  · have h := List.prefix_append_right_inj (text.take 3) |>.2
      (List.takeWhile_prefix isIndent (l := text.drop 3))
    rwa [List.take_append_drop] at h

/-- The dots and what the first way after them takes. -/
theorem length_continuation {text : List Char} (h : 3 ≤ text.length) :
    (continuation text).length =
      3 + if ((text.drop 3).dropWhile isIndent).head? = some '#' then (text.drop 3).length
        else ((text.drop 3).takeWhile isIndent).length := by
  rw [continuation]
  split
  · rw [List.length_drop, Nat.add_sub_of_le h]
  · rw [List.length_append, List.length_take, Nat.min_eq_left h]

/-- A line continuation starts with three dots, whatever follows them. -/
theorem matched?_continuation (source : String) {text : List Char} (hline : '\n' ∉ text) :
    Pattern.matched? (.regex ⟨source, continuationExpr.matcher⟩) text =
      if ['.', '.', '.'].isPrefixOf text then some (continuation text) else none := by
  have hdirect : Pattern.Direct continuationExpr := ⟨rfl, rfl, rfl⟩
  have hdots := Expr.ways_literal ['.', '.', '.'] ⟨0, none, text⟩
  by_cases hprefix : ['.', '.', '.'].isPrefixOf text = true
  · rw [if_pos hprefix] at hdots ⊢
    have hlen : 3 ≤ text.length := (List.isPrefixOf_iff_prefix.1 hprefix).length_le
    have hrest : ((⟨0, none, text⟩ : Spot).forward 3).rest = text.drop 3 := Spot.rest_forward _ _
    have htail : '\n' ∉ ((⟨0, none, text⟩ : Spot).forward 3).rest :=
      Spot.not_mem_rest_forward hline 3
    refine Pattern.matched?_regex hdirect source (prefix_continuation text) ?_
    rw [continuationExpr, ways_anchored, Expr.ways, hdots, List.flatMap_singleton,
      List.length_cons, List.length_cons, List.length_singleton, head?_ways_continuationTail htail,
      Spot.forward_forward, hrest, length_continuation hlen]
  · rw [if_neg hprefix] at hdots ⊢
    refine Pattern.matched?_regex_eq_none hdirect source ?_
    rw [continuationExpr, ways_anchored, Expr.ways, hdots]
    rfl

/-- The end of the line. -/
def endExpr : Expr := anchored (.check .textEnd)

/-- The end of the line is not found before a character. -/
theorem matched?_end (source : String) (c : Char) (rest : List Char) :
    Pattern.matched? (.regex ⟨source, endExpr.matcher⟩) (c :: rest) = none := by
  have hdirect : Pattern.Direct endExpr := ⟨rfl, rfl, rfl⟩
  exact Pattern.matched?_regex_eq_none hdirect source rfl

end EditorMode.Equelle
