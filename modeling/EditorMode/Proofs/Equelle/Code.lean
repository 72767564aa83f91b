import EditorMode.Proofs.Equelle.Lexemes

/-!
# The code of a line

The code of a line is what stands before its comment, and a text in quotes is one part of it
whatever it is made of.  `code` reads it from the characters alone, without any tokens.  Tokens
respect it: the code of a line is that of its tokens, one after the other
(`IsLexeme.code_append`).  So whatever is counted or looked for in the code of a line can be counted
or looked for in its tokens.
-/

set_option autoImplicit false

namespace EditorMode.Equelle

open Regex Text

/-! ## Code -/

/-- A part of a line: a text in quotes, or a single character. -/
inductive Part where
  | quoted (text : List Char)
  | plain (c : Char)
  deriving DecidableEq, Repr

/-- The parts of a line up to its comment.  A quote that is never closed is a character like any
other. -/
def code : List Char → List Part
  | [] => []
  | '#' :: _ => []
  | '"' :: rest =>
    match throughQuote? rest with
    | some text => .quoted ('"' :: text) :: code (rest.drop text.length)
    | none => .plain '"' :: code rest
  | c :: rest => .plain c :: code rest
termination_by text => text.length
decreasing_by
  · rw [List.length_drop, List.length_cons]
    omega
  · exact Nat.lt_succ_self _
  · exact Nat.lt_succ_self _

theorem code_comment (rest : List Char) : code ('#' :: rest) = [] := by rw [code]

theorem code_quoted {text after : List Char} (h : throughQuote? (text ++ after) = some text) :
    code ('"' :: text ++ after) = .quoted ('"' :: text) :: code after := by
  rw [List.cons_append, code, h]
  exact congrArg _ (congrArg code List.drop_left)

theorem code_stray {rest : List Char} (h : throughQuote? rest = none) :
    code ('"' :: rest) = .plain '"' :: code rest := by
  rw [code, h]

theorem throughQuote?_eq_none {text : List Char} (h : '"' ∉ text) : throughQuote? text = none := by
  fun_induction throughQuote? text with
  | case1 => rfl
  | case2 text => exact absurd List.mem_cons_self h
  | case3 c text ih =>
    rw [ih (by simp_all)]
    rfl
  | case4 c text hquote hescape ih =>
    rw [ih (by simp_all)]
    rfl

/-- Where no quote follows, a quote is closed in the text itself or not at all. -/
theorem throughQuote?_append {tail : List Char} (htail : '"' ∉ tail) (text : List Char) :
    throughQuote? (text ++ tail) = throughQuote? text := by
  fun_induction throughQuote? text with
  | case1 => exact throughQuote?_eq_none htail
  | case2 text => rw [List.cons_append, throughQuote?]
  | case3 c text ih => rw [List.cons_append, List.cons_append, throughQuote?, ih]
  | case4 c text hquote hescape ih =>
    cases text with
    | nil =>
      -- the character may escape the first one of the tail
      exact throughQuote?_eq_none (by simp [htail, Ne.symm hquote])
    | cons d text =>
      rw [List.cons_append, throughQuote?, ih]
      · exact hquote
      · simpa using hescape

/-- The text up to the closing quote is closed by that quote. -/
theorem throughQuote?_eq_some_self {line text : List Char} (h : throughQuote? line = some text) :
    throughQuote? text = some text := by
  fun_induction throughQuote? line generalizing text with
  | case1 => cases h
  | case2 line =>
    obtain rfl := Option.some.inj h
    rfl
  | case3 c line ih =>
    obtain ⟨found, hfound, rfl⟩ := Option.map_eq_some_iff.1 h
    rw [throughQuote?, ih hfound, Option.map_some]
  | case4 c line hquote hescape ih =>
    obtain ⟨found, hfound, rfl⟩ := Option.map_eq_some_iff.1 h
    rw [throughQuote?, ih hfound, Option.map_some]
    · exact hquote
    · rintro d rest hc rfl
      obtain ⟨after, hafter⟩ := prefix_of_throughQuote? hfound
      exact hescape d (rest ++ after) hc hafter.symm

/-! ## The code of tokens -/

/-- The characters that the code of a line depends on. -/
def delimiters : List Char := ['\x7b', '\x7d', '"', '#']

/-- The text has no delimiter. -/
def IsPlain (text : List Char) : Prop := ∀ c ∈ text, c ∉ delimiters

instance (text : List Char) : Decidable (IsPlain text) := List.decidableBAll (· ∉ delimiters) text

theorem IsPlain.append {early late : List Char} (hearly : IsPlain early) (hlate : IsPlain late) :
    IsPlain (early ++ late) :=
  List.forall_mem_append.2 ⟨hearly, hlate⟩

/-- Characters of a class without delimiters. -/
theorem isPlain_of_forall {p : Char → Bool} (hp : delimiters.any p = false) {text : List Char}
    (h : ∀ c ∈ text, p c = true) : IsPlain text :=
  fun c hc hmem => List.any_eq_false.1 hp c hmem (h c hc)

theorem isPlain_of_forall_isIndent {text : List Char} (h : ∀ c ∈ text, isIndent c = true) :
    IsPlain text :=
  isPlain_of_forall rfl h

theorem isPlain_continuation {blanks : List Char} (h : ∀ c ∈ blanks, isIndent c = true) :
    IsPlain ("...".toList ++ blanks) :=
  .append (by decide) (isPlain_of_forall_isIndent h)

theorem IsWord.isPlain {text : List Char} (h : IsWord text) : IsPlain text := by
  have hmarks : delimiters ⊆ marks := by simp [delimiters, marks]
  exact fun c hc hmem => h.chars c hc (hmarks hmem)

theorem IsPlain.code_append {text : List Char} (h : IsPlain text) (after : List Char) :
    code (text ++ after) = text.map .plain ++ code after := by
  induction text with
  | nil => rfl
  | cons c text ih =>
    rw [IsPlain, List.forall_mem_cons] at h
    rw [List.cons_append, code, ih h.2, List.map_cons, List.cons_append]
    · rintro rfl
      exact h.1 (by decide)
    · rintro rfl
      exact h.1 (by decide)

theorem IsPlain.code_eq {text : List Char} (h : IsPlain text) : code text = text.map .plain := by
  simpa [code] using h.code_append []

/-- The code of a text in quotes. -/
theorem code_quotes {text after : List Char} (h : throughQuote? (text ++ after) = some text) :
    code ('"' :: text) = [.quoted ('"' :: text)] := by
  have hself : throughQuote? (text ++ []) = some text := by
    rw [List.append_nil, throughQuote?_eq_some_self h]
  have hcode := code_quoted hself
  rwa [List.append_nil, code] at hcode

theorem code_commented {blanks : List Char} (h : ∀ c ∈ blanks, isIndent c = true)
    (comment : List Char) :
    code ("...".toList ++ blanks ++ '#' :: comment) = code ("...".toList ++ blanks) := by
  rw [(isPlain_continuation h).code_append, code_comment, List.append_nil,
    (isPlain_continuation h).code_eq]

/-- **The code of a line is that of its tokens**, one after the other. -/
theorem IsLexeme.code_append {kind : Kind} {found after : List Char}
    (h : IsLexeme kind found after) : code (found ++ after) = code found ++ code after := by
  have hplain : ∀ {text : List Char}, IsPlain text →
      code (text ++ after) = code text ++ code after := by
    intro text htext
    rw [htext.code_append, htext.code_eq]
  cases h with
  | opening => simp [code]
  | closing => simp [code]
  | quoted h => rw [code_quoted h, code_quotes h, List.singleton_append]
  | stray h =>
    rw [List.singleton_append, code_stray h, code_stray rfl]
    simp [code]
  | comment text => simp [code]
  | continuation hblanks => exact hplain (isPlain_continuation hblanks)
  | commented hblanks text => simp [code]
  | dot => exact hplain (by decide)
  | blanks hne htext => exact hplain (isPlain_of_forall_isIndent htext)
  | word hkind htext => exact hplain htext.isPlain

/-! ## Line endings -/

/-- Characters at the end of a line that are no delimiters are code like any others, or belong to
the comment. -/
theorem code_append_or (text : List Char) {tail : List Char} (htail : IsPlain tail) :
    code (text ++ tail) = code text ∨ code (text ++ tail) = code text ++ code tail := by
  have hquote : '"' ∉ tail := fun h => htail _ h (by decide)
  fun_induction code text with
  | case1 => exact .inr rfl
  | case2 rest => exact .inl (code_comment _)
  | case3 rest found hfound ih =>
    obtain ⟨after, rfl⟩ := prefix_of_throughQuote? hfound
    rw [List.drop_left] at ih ⊢
    rw [List.cons_append, List.append_assoc, ← List.cons_append, code_quoted, List.cons_append]
    · simpa using ih
    · rw [← List.append_assoc, throughQuote?_append hquote, hfound]
  | case4 rest hfound ih =>
    rw [List.cons_append, code_stray ((throughQuote?_append hquote rest).trans hfound),
      List.cons_append]
    simpa using ih
  | case5 c rest hhash hquote ih =>
    rw [List.cons_append, code, List.cons_append]
    · simpa using ih
    · exact hhash
    · exact hquote

end EditorMode.Equelle
