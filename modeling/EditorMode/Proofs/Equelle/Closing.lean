import EditorMode.Proofs.Equelle.Lexemes
import EditorMode.Proofs.Mode.Suggested

/-!
# Lines that start with a closing brace

A suggestion looks at the text of a line: if the first character that is not white space is a
closing brace, the line belongs to the enclosing block.  A document looks at tokens.  The two do not
always agree.  White space is more than blanks and tabs, and a character such as a form feed is
skipped by the suggestion, but for the tokens it is an error.

Two things do hold.  If the suggestion finds a brace, then so do the tokens, with nothing before it
that opens or closes a block or ends a line (`IsEquelle.blockClose_mem_of_closesBlock`).  And if the
first token apart from blanks is a brace, the suggestion finds it
(`IsEquelle.closesBlock_of_find?`).
-/

set_option autoImplicit false

namespace EditorMode

open Text

/-! ## White space -/

namespace Text

theorem skipBlank_append (early late : List Char) :
    skipBlank (early ++ late) =
      if (skipBlank early).isEmpty then skipBlank late else skipBlank early ++ late :=
  List.dropWhile_append

theorem skipBlank_eq_nil {text : List Char} (h : ∀ c ∈ text, isBlank c = true) :
    skipBlank text = [] :=
  List.dropWhile_eq_nil_iff.2 h

theorem isBlank_of_isEnding {c : Char} (h : isEnding c = true) : isBlank c = true := by
  rw [isEnding, Bool.or_eq_true, beq_iff_eq, beq_iff_eq] at h
  rcases h with rfl | rfl
  · decide
  · decide

/-- The line ending does not matter to what a line starts with. -/
theorem head?_skipBlank_trimEnding (line : List Char) :
    (skipBlank (trimEnding line)).head? = (skipBlank line).head? := by
  have hsplit : trimEnding line ++ line.rtakeWhile isEnding = line :=
    List.rdropWhile_append_rtakeWhile ..
  have hending : skipBlank (line.rtakeWhile isEnding) = [] :=
    skipBlank_eq_nil fun c hc => isBlank_of_isEnding (List.mem_rtakeWhile_imp hc)
  conv_rhs => rw [← hsplit, skipBlank_append, hending]
  cases skipBlank (trimEnding line) with
  | nil => rfl
  | cons c rest => rfl

end Text

theorem Equelle.IsEquelle.closesBlock_iff {m : Mode} (hm : IsEquelle m) (line : List Char) :
    m.tracker.closesBlock line = true ↔ (skipBlank line).head? = some '\x7d' := by
  have hmarker : m.tracker.closeMarker = "\x7d" := hm.closeMarker
  rw [Tracker.closesBlock, hmarker, show "\x7d".toList = ['\x7d'] from rfl]
  cases skipBlank line with
  | nil => simp
  | cons c rest => simpa using eq_comm

namespace Equelle

/-! ## From the text to the tokens -/

/-- A line whose first character is neither white space nor a closing brace does not close. -/
theorem not_head?_skipBlank_cons {c : Char} (hblank : isBlank c = false) (hc : c ≠ '\x7d')
    (rest : List Char) : (skipBlank (c :: rest)).head? ≠ some '\x7d' := by
  rw [skipBlank, List.dropWhile_cons_of_neg (by simp [hblank])]
  simpa using hc

/-- Tokens before the closing brace that a line starts with are blanks or errors. -/
theorem exists_lexemes_eq_of_skipBlank {text : List Char} (ended : Bool)
    (h : (skipBlank text).head? = some '\x7d') :
    ∃ blanks late, (lexemes ended text).map Prod.fst = blanks ++ .blockClose :: late ∧
      ∀ kind ∈ blanks, kind.isOrdinary = true := by
  induction text using lexemes_induction generalizing ended with
  | nil => cases h
  | append kind found after hlexeme hlexemes ih =>
    rw [hlexemes, List.map_cons]
    -- a token without the brace belongs to the white space before it
    have hskip : '\x7d' ∉ found → kind.isOrdinary = true →
        ∃ blanks late, kind :: (lexemes kind.endsLine after).map Prod.fst =
          blanks ++ .blockClose :: late ∧ ∀ kind ∈ blanks, kind.isOrdinary = true := by
      intro hfound hkind
      have hafter : (skipBlank after).head? = some '\x7d' := by
        rw [skipBlank_append] at h
        split at h
        · exact h
        · rename_i hne
          obtain ⟨c, rest, hcons⟩ := List.exists_cons_of_ne_nil (mt List.isEmpty_iff.2 hne)
          rw [hcons, List.cons_append, List.head?_cons, Option.some.injEq] at h
          refine absurd ?_ hfound
          have hmem : c ∈ skipBlank found := hcons ▸ List.mem_cons_self
          exact h ▸ (List.dropWhile_suffix _).mem hmem
      obtain ⟨blanks, late, hlate, hblanks⟩ := ih kind.endsLine hafter
      exact ⟨kind :: blanks, late, by rw [hlate, List.cons_append],
        List.forall_mem_cons.2 ⟨hkind, hblanks⟩⟩
    cases hlexeme with
    | closing => exact ⟨[], _, rfl, List.forall_mem_nil _⟩
    | blanks hne htext =>
      refine hskip (fun hmem => ?_) rfl
      have := htext _ hmem
      revert this
      decide
    | word hkind htext => exact hskip (fun hmem => htext.chars _ hmem (by decide)) hkind
    | _ => exact absurd h (not_head?_skipBlank_cons (by decide) (by decide) _)

/-! ## From the tokens to the text -/

theorem nameKind_ne_blanks (name : List Char) : nameKind name ≠ .named "WS" := by
  have hkeywords : ∀ keyword ∈ keywords, Kind.ofName keyword.2 ≠ .named "WS" := by decide
  rw [nameKind]
  split
  · rename_i keyword hfind
    exact hkeywords keyword (List.mem_of_find?_eq_some hfind)
  · split <;> decide

theorem kind_symbol?_ne_blanks {text : List Char} {found : Offer} (h : symbol? text = some found) :
    found.1 ≠ .named "WS" := by
  have hoperators : ∀ operator ∈ operators, Kind.ofName operator.2 ≠ .named "WS" := by decide
  have hpunctuation : ∀ mark ∈ punctuation, Kind.ofName mark ≠ .named "WS" := by decide
  rw [symbol?] at h
  split at h
  · obtain rfl := Option.some.inj h
    simp
  · split at h
    · rename_i operator hfind
      obtain rfl := Option.some.inj h
      exact hoperators operator (List.mem_of_find?_eq_some hfind)
    · obtain ⟨mark, hfind, rfl⟩ := Option.map_eq_some_iff.1 h
      exact hpunctuation mark (List.mem_of_find?_eq_some hfind)

/-- What is called blanks consists of blanks. -/
theorem forall_isIndent_of_lexeme {c : Char} {rest : List Char}
    (h : (lexeme c rest).1 = .named "WS") : ∀ d ∈ (lexeme c rest).2, isIndent d = true := by
  rw [lexeme] at h ⊢
  cases hfound : lexeme? (c :: rest) with
  | none =>
    rw [hfound] at h
    cases h
  | some found =>
    rw [hfound, Option.getD_some] at h
    rw [Option.getD_some]
    rw [lexeme?] at hfound
    split_ifs at hfound with hupper hsmall hdigit hquote hhash hindent
    · obtain rfl := Option.some.inj hfound
      exact absurd h (nameKind_ne_blanks _)
    · obtain rfl := Option.some.inj hfound
      simp at h
    · obtain rfl := Option.some.inj hfound
      rw [number] at h
      split at h <;> simp at h
    · obtain ⟨text, -, rfl⟩ := Option.map_eq_some_iff.1 hfound
      simp at h
    · obtain rfl := Option.some.inj hfound
      simp at h
    · obtain rfl := Option.some.inj hfound
      exact fun d => List.mem_takeWhile_imp
    · exact absurd h (kind_symbol?_ne_blanks hfound)

theorem IsLexeme.eq_of_blockClose {found after : List Char} (h : IsLexeme .blockClose found after) :
    found = ['\x7d'] := by
  cases h with
  | closing => rfl
  | word hkind => cases hkind

theorem head?_skipBlank_of_find? (ended : Bool) (text : List Char)
    (h : ((lexemes ended text).map Prod.fst).find? (· != .named "WS") = some .blockClose) :
    (skipBlank text).head? = some '\x7d' := by
  fun_induction lexemes ended text with
  | case1 => cases h
  | case2 ended => cases h
  | case3 ended c rest found ih =>
    obtain ⟨after, hsplit, hlexeme⟩ := starts_lexeme c rest
    have hdrop : (c :: rest).drop found.2.length = after := by
      rw [hsplit]
      exact List.drop_left
    rw [hdrop] at h ih
    rw [List.map_cons, List.find?_cons] at h
    rw [hsplit]
    split at h
    · have hkind : (lexeme c rest).1 = .blockClose := Option.some.inj h
      rw [hkind] at hlexeme
      rw [hlexeme.eq_of_blockClose]
      rfl
    · rename_i hblanks
      have hkind : (lexeme c rest).1 = .named "WS" := by simpa using hblanks
      have hskip : skipBlank (lexeme c rest).2 = [] :=
        skipBlank_eq_nil fun d hd => isBlank_of_isIndent (forall_isIndent_of_lexeme hkind d hd)
      rw [skipBlank_append, hskip]
      exact ih h

/-! ## Lines of a mode -/

section Lines

variable {m : Mode} (hm : IsEquelle m) {d e : Document} {number : Nat} {line : List Char}
  (hline : '\n' ∉ line) (h : (m.advanceLine d number line).outcome = .ok e)

include hm hline h

theorem IsEquelle.kinds_eq :
    m.kinds line = (lexemes (trimEnding line).isEmpty (trimEnding line)).map Prod.fst := by
  rw [Mode.outcome_advanceLine_onLine hm.keepText d number 0] at h
  obtain ⟨tokens, -, htokens, -, -⟩ := (m.outcome_advanceLine_eq_ok_iff d 0).1 h
  have htrimmed : '\n' ∉ trimEnding line :=
    fun hmem => hline ((List.rdropWhile_prefix _ _).mem hmem)
  rw [← hm.offers_tokens htrimmed htokens, List.map_map]
  obtain ⟨stop, -, rfl⟩ := map_eq_ok_iff.1 htokens
  exact (m.map_kind_scan line).symm

/-- A closing brace that the suggestion finds comes before any other token that matters. -/
theorem IsEquelle.blockClose_mem_of_closesBlock (hcloses : m.tracker.closesBlock line = true)
    {early late : List Kind} {kind : Kind} (hkinds : m.kinds line = early ++ kind :: late)
    (hordinary : kind.isOrdinary = false) (hkind : kind ≠ .blockClose) : .blockClose ∈ early := by
  rw [hm.closesBlock_iff, ← head?_skipBlank_trimEnding] at hcloses
  obtain ⟨blanks, rest, hclose, hblanks⟩ :=
    exists_lexemes_eq_of_skipBlank (trimEnding line).isEmpty hcloses
  rw [← hm.kinds_eq hline h, hkinds] at hclose
  rcases List.append_eq_append_iff.1 hclose with ⟨middle, rfl, hrest⟩ | ⟨middle, rfl, hrest⟩
  · -- the token would be one of the blanks, or the brace itself
    rcases middle with _ | ⟨first, middle⟩
    · exact absurd (List.cons.inj hrest).1 hkind
    · obtain rfl := (List.cons.inj hrest).1
      have hfirst := hblanks kind (by simp)
      exact absurd (hordinary.symm.trans hfirst) Bool.false_ne_true
  · rcases middle with _ | ⟨first, middle⟩
    · exact absurd (List.cons.inj hrest).1.symm hkind
    · obtain rfl := (List.cons.inj hrest).1
      simp

/-- A closing brace that is the first token apart from blanks is found by the suggestion. -/
theorem IsEquelle.closesBlock_of_find?
    (hfind : (m.kinds line).find? (· != .named "WS") = some .blockClose) :
    m.tracker.closesBlock line = true := by
  rw [hm.kinds_eq hline h] at hfind
  rw [hm.closesBlock_iff, ← head?_skipBlank_trimEnding]
  exact head?_skipBlank_of_find? _ _ hfind

end Lines

end Equelle

end EditorMode
