import EditorMode.Proofs.Equelle.Lexeme
import EditorMode.Proofs.Mode

/-!
# The tokens of a line of Equelle

`lexemes` reads the tokens of a line from left to right, each by its kind and its text.  They are
the tokens that the mode finds, once each is put in its place (`plainTokens_eq_placeAll`,
`offers_tokens`).

What a token can be is said once, by `IsLexeme`: an inductive description of the kind, the text and
the text after it.  It says what matters for everything that looks at a line as a whole, and leaves
out the rest.  A name, a number and an operator are all a `word`: no character of it is a mark, and
it does not end with a dot.  `starts_lexeme` shows that every text that is not empty starts with
such a token.
-/

set_option autoImplicit false

namespace EditorMode

/-! ## What a token can be -/

/-- The kinds that neither open or close a block nor end a line. -/
def Kind.isOrdinary : Kind → Bool
  | .function | .error | .named _ => true
  | _ => false

namespace Equelle

open Regex Text

/-- The characters that start or end blocks, texts in quotes, comments and blanks. -/
def marks : List Char := ['\x7b', '\x7d', '"', '#', ' ', '\t']

/-- None of the characters is a mark, and the last one is no dot. -/
structure IsWord (text : List Char) : Prop where
  chars : ∀ c ∈ text, c ∉ marks
  last : text.getLast?.any (· != '.') = true

instance (text : List Char) : Decidable (IsWord text) :=
  have := List.decidableBAll (· ∉ marks) text
  decidable_of_iff ((∀ c ∈ text, c ∉ marks) ∧ text.getLast?.any (· != '.') = true)
    ⟨fun h => ⟨h.1, h.2⟩, fun h => ⟨h.chars, h.last⟩⟩

/-- What a token of Equelle is, by its kind, its text and the text after it. -/
inductive IsLexeme : Kind → List Char → List Char → Prop
  | opening (after : List Char) : IsLexeme .blockOpen ['\x7b'] after
  | closing (after : List Char) : IsLexeme .blockClose ['\x7d'] after
  /-- A text in quotes. -/
  | quoted {text after : List Char} (h : throughQuote? (text ++ after) = some text) :
    IsLexeme (.named "STRING") ('"' :: text) after
  /-- A quote that is never closed. -/
  | stray {after : List Char} (h : throughQuote? after = none) : IsLexeme .error ['"'] after
  | comment (text : List Char) : IsLexeme (.named "COMMENT") ('#' :: text) []
  /-- A line continuation with the blanks after it. -/
  | continuation {blanks after : List Char} (hblanks : ∀ c ∈ blanks, isIndent c = true)
    (hafter : ∀ c ∈ after.head?, isIndent c = false ∧ c ≠ '#') :
    IsLexeme .lineContinuation ("...".toList ++ blanks) after
  /-- A line continuation with the comment after it. -/
  | commented {blanks : List Char} (hblanks : ∀ c ∈ blanks, isIndent c = true)
    (text : List Char) : IsLexeme .lineContinuation ("...".toList ++ blanks ++ '#' :: text) []
  /-- A dot that does not belong to a line continuation. -/
  | dot {after : List Char} (h : ¬['.', '.'] <+: after) : IsLexeme (.named ".") ['.'] after
  | blanks {text : List Char} (hne : text ≠ []) (htext : ∀ c ∈ text, isIndent c = true)
    (after : List Char) : IsLexeme (.named "WS") text after
  /-- Anything else: names, numbers, the other symbols and the characters of no token. -/
  | word {kind : Kind} {text : List Char} (hkind : kind.isOrdinary = true) (htext : IsWord text)
    (after : List Char) : IsLexeme kind text after

/-! ## Words -/

theorem IsWord.append {early late : List Char} (hearly : ∀ c ∈ early, c ∉ marks)
    (hlate : IsWord late) : IsWord (early ++ late) := by
  obtain ⟨hchars, hlast⟩ := hlate
  refine ⟨fun c hc => (List.mem_append.1 hc).elim (hearly c) (hchars c), ?_⟩
  rw [List.getLast?_append]
  cases hl : late.getLast? with
  | none => simp [hl] at hlast
  | some c => rwa [hl] at hlast

section Run

variable {p : Char → Bool} (hp : ('.' :: marks).any p = false) {text : List Char}
  (htext : ∀ c ∈ text, p c = true)

include hp htext

theorem not_mem_marks_of_forall : ∀ c ∈ text, c ∉ marks := by
  intro c hc hmark
  exact List.any_eq_false.1 hp c (List.mem_cons_of_mem _ hmark) (htext c hc)

/-- Characters of one class are a word. -/
theorem isWord_of_forall (hne : text ≠ []) : IsWord text := by
  refine ⟨not_mem_marks_of_forall hp htext, ?_⟩
  rw [List.getLast?_eq_some_getLast hne, Option.any_some, bne_iff_ne]
  intro hdot
  exact List.any_eq_false.1 hp '.' List.mem_cons_self (hdot ▸ htext _ (List.getLast_mem hne))

end Run

theorem isWord_takeWhile {p : Char → Bool} (hp : ('.' :: marks).any p = false)
    {text : List Char} (hne : text.takeWhile p ≠ []) : IsWord (text.takeWhile p) :=
  isWord_of_forall hp (fun _ => List.mem_takeWhile_imp) hne

theorem exponent_eq_nil_or_isWord (text : List Char) :
    exponent text = [] ∨ IsWord (exponent text) := by
  cases text with
  | nil => exact .inl rfl
  | cons c text =>
    rw [exponent]
    split
    · rename_i h
      refine .inr ?_
      have hsign : ∀ c ∈ sign text, c ∉ marks :=
        not_mem_marks_of_forall (p := isSign) (by decide) fun c hc => List.of_mem_filter hc
      have hmark : ∀ d ∈ [c], d ∉ marks :=
        not_mem_marks_of_forall (p := isExponentMark) (by decide) (by simpa using h.1)
      exact .append hmark (.append hsign (isWord_takeWhile (by decide) h.2))
    · exact .inl rfl

theorem isWord_of_fraction? {text found : List Char} (h : fraction? text = some found) :
    IsWord found := by
  cases text with
  | nil => cases h
  | cons c text =>
    rw [fraction?] at h
    split at h
    · rename_i hc
      obtain rfl := Option.some.inj h
      have hdigits : IsWord (text.takeWhile Char.isDigit) := isWord_takeWhile (by decide) hc.2
      show IsWord (['.'] ++ (_ ++ _))
      refine .append (List.forall_mem_singleton.2 (by decide)) ?_
      rcases exponent_eq_nil_or_isWord (text.dropWhile Char.isDigit) with hexp | hexp
      · rwa [hexp, List.append_nil]
      · exact .append hdigits.chars hexp
    · cases h

theorem isWord_number {c : Char} (hc : c.isDigit = true) (rest : List Char) :
    IsWord (number (c :: rest)).2 := by
  have hdigits : IsWord ((c :: rest).takeWhile Char.isDigit) :=
    isWord_takeWhile (by decide) (by simp [hc])
  rw [number]
  split
  · rename_i fraction hfraction
    exact .append hdigits.chars (isWord_of_fraction? hfraction)
  · exact hdigits

theorem isOrdinary_nameKind (name : List Char) : (nameKind name).isOrdinary = true := by
  have hkeywords : ∀ keyword ∈ keywords, (Kind.ofName keyword.2).isOrdinary = true := by decide
  rw [nameKind]
  split
  · rename_i keyword hfind
    exact hkeywords keyword (List.mem_of_find?_eq_some hfind)
  · split <;> rfl

/-! ## Lexemes -/

/-- The first token of a text that is not empty: where there is no other, that of a character
without a meaning. -/
def lexeme (c : Char) (rest : List Char) : Offer := (lexeme? (c :: rest)).getD (.error, [c])

/-- The text starts with a token of the kind. -/
def Starts (text : List Char) (found : Offer) : Prop :=
  ∃ after, text = found.2 ++ after ∧ IsLexeme found.1 found.2 after

theorem starts_continuation {text : List Char} (h : "...".toList <+: text) :
    Starts text (.lineContinuation, continuation text) := by
  obtain ⟨rest, rfl⟩ := h
  have hblanks : ∀ c ∈ rest.takeWhile isIndent, isIndent c = true :=
    fun c => List.mem_takeWhile_imp
  have hsplit : rest = rest.takeWhile isIndent ++ rest.dropWhile isIndent :=
    List.takeWhile_append_dropWhile.symm
  by_cases hhash : (rest.dropWhile isIndent).head? = some '#'
  · obtain ⟨comment, hcomment⟩ := List.head?_eq_some_iff.1 hhash
    have hall : continuation ("...".toList ++ rest) =
        "...".toList ++ rest.takeWhile isIndent ++ '#' :: comment := by
      rw [List.append_assoc, ← hcomment, ← hsplit]
      exact if_pos hhash
    refine ⟨[], ?_, ?_⟩
    · rw [hall, List.append_nil, List.append_assoc, ← hcomment, ← hsplit]
    · rw [hall]
      exact .commented hblanks comment
  · have hshort : continuation ("...".toList ++ rest) = "...".toList ++ rest.takeWhile isIndent :=
      if_neg hhash
    refine ⟨rest.dropWhile isIndent, ?_, ?_⟩
    · rw [hshort, List.append_assoc, ← hsplit]
    · rw [hshort]
      refine .continuation hblanks fun c hc => ⟨?_, ?_⟩
      · have hnot := List.head?_dropWhile_not isIndent rest
        rw [hc] at hnot
        exact hnot
      · rintro rfl
        exact hhash hc

theorem starts_operator {text : List Char} {operator : String × String}
    (h : operators.find? (fun operator => operator.1.toList == text.take 2) = some operator) :
    Starts text (.ofName operator.2, text.take 2) := by
  have hoperators : ∀ operator ∈ operators,
      (Kind.ofName operator.2).isOrdinary = true ∧ IsWord operator.1.toList := by decide
  obtain ⟨hkind, hword⟩ := hoperators operator (List.mem_of_find?_eq_some h)
  have htext : operator.1.toList = text.take 2 := by simpa using List.find?_some h
  rw [htext] at hword
  exact ⟨text.drop 2, (List.take_append_drop 2 text).symm, .word hkind hword _⟩

theorem starts_punctuation {text : List Char} (hdots : ¬"...".toList <+: text) {mark : String}
    (h : punctuation.find? (fun mark => mark.toList == text.take 1) = some mark) :
    Starts text (.ofName mark, text.take 1) := by
  have hpunctuation : ∀ mark ∈ punctuation, mark = "\x7b" ∨ mark = "\x7d" ∨ mark = "." ∨
      (Kind.ofName mark).isOrdinary = true ∧ IsWord mark.toList := by decide
  have htext : mark.toList = text.take 1 := by simpa using List.find?_some h
  have hsplit : text = mark.toList ++ text.drop 1 := by rw [htext, List.take_append_drop]
  refine ⟨text.drop 1, (List.take_append_drop 1 text).symm, ?_⟩
  rw [← htext]
  rcases hpunctuation mark (List.mem_of_find?_eq_some h) with rfl | rfl | rfl | ⟨hkind, hword⟩
  · exact .opening _
  · exact .closing _
  · refine .dot fun hdot => hdots ?_
    rw [hsplit]
    exact List.cons_prefix_cons.2 ⟨rfl, hdot⟩
  · exact .word hkind hword _

theorem starts_symbol? {text : List Char} {found : Offer} (h : symbol? text = some found) :
    Starts text found := by
  rw [symbol?] at h
  split at h
  · rename_i hdots
    obtain rfl := Option.some.inj h
    exact starts_continuation (List.isPrefixOf_iff_prefix.1 hdots)
  · rename_i hdots
    rw [List.isPrefixOf_iff_prefix] at hdots
    split at h
    · rename_i operator hfind
      obtain rfl := Option.some.inj h
      exact starts_operator hfind
    · obtain ⟨mark, hfind, rfl⟩ := Option.map_eq_some_iff.1 h
      exact starts_punctuation hdots hfind

/-- A run of the characters of a class is a token. -/
theorem starts_takeWhile {p : Char → Bool} (hp : ('.' :: marks).any p = false) {kind : Kind}
    (hkind : kind.isOrdinary = true) {c : Char} (hc : p c = true) (rest : List Char) :
    Starts (c :: rest) (kind, (c :: rest).takeWhile p) :=
  ⟨(c :: rest).dropWhile p, List.takeWhile_append_dropWhile.symm,
    .word hkind (isWord_takeWhile hp (by simp [hc])) _⟩

theorem starts_number {c : Char} (hc : c.isDigit = true) (rest : List Char) :
    Starts (c :: rest) (number (c :: rest)) := by
  have hkind : (number (c :: rest)).1.isOrdinary = true := by
    rw [number]
    split <;> rfl
  have hstart : (number (c :: rest)).2 <+: c :: rest := by
    rw [number]
    split
    · rename_i fraction hfraction
      have h := List.prefix_append_right_inj ((c :: rest).takeWhile Char.isDigit) |>.2
        (prefix_of_fraction? hfraction)
      rwa [List.takeWhile_append_dropWhile] at h
    · exact List.takeWhile_prefix _
  obtain ⟨after, hafter⟩ := hstart
  exact ⟨after, hafter.symm, .word hkind (isWord_number hc rest) after⟩

theorem starts_quote {rest text : List Char} (h : throughQuote? rest = some text) :
    Starts ('"' :: rest) (.named "STRING", '"' :: text) := by
  obtain ⟨after, rfl⟩ := prefix_of_throughQuote? h
  exact ⟨after, rfl, .quoted h⟩

/-- **What the first token of a text is.** -/
theorem starts_of_lexeme? {c : Char} {rest : List Char} {found : Offer}
    (h : lexeme? (c :: rest) = some found) : Starts (c :: rest) found := by
  rw [lexeme?] at h
  split_ifs at h with hupper hsmall hdigit hquote hhash hindent
  · obtain rfl := Option.some.inj h
    exact starts_takeWhile (by decide) (isOrdinary_nameKind _) (isNameChar_of_isUpper hupper) rest
  · obtain rfl := Option.some.inj h
    exact starts_takeWhile (by decide) rfl (isNameChar_of_isSmallStart hsmall) rest
  · obtain rfl := Option.some.inj h
    exact starts_number hdigit rest
  · obtain ⟨text, htext, rfl⟩ := Option.map_eq_some_iff.1 h
    rw [hquote]
    exact starts_quote htext
  · obtain rfl := Option.some.inj h
    rw [hhash]
    exact ⟨[], (List.append_nil _).symm, .comment rest⟩
  · obtain rfl := Option.some.inj h
    refine ⟨(c :: rest).dropWhile isIndent, List.takeWhile_append_dropWhile.symm, ?_⟩
    exact .blanks (by simp [hindent]) (fun d => List.mem_takeWhile_imp) _
  · exact starts_symbol? h

theorem not_punctuation_of_symbol? {c : Char} {rest : List Char}
    (h : symbol? (c :: rest) = none) : ∀ mark ∈ punctuation, mark.toList ≠ [c] := by
  rw [symbol?] at h
  split at h
  · cases h
  · split at h
    · cases h
    · simpa using h

theorem starts_error {c : Char} {rest : List Char} (h : lexeme? (c :: rest) = none) :
    Starts (c :: rest) (.error, [c]) := by
  refine ⟨rest, rfl, ?_⟩
  rw [lexeme?] at h
  split_ifs at h with hupper hsmall hdigit hquote hhash hindent
  · rw [hquote]
    exact .stray (Option.map_eq_none_iff.1 h)
  · have hsymbols := not_punctuation_of_symbol? h
    have hopening : c ≠ '\x7b' := fun hc => hsymbols "\x7b" (by decide) (by rw [hc]; rfl)
    have hclosing : c ≠ '\x7d' := fun hc => hsymbols "\x7d" (by decide) (by rw [hc]; rfl)
    have hdot : c ≠ '.' := fun hc => hsymbols "." (by decide) (by rw [hc]; rfl)
    refine .word rfl ⟨?_, ?_⟩ rest
    · simp_all [marks, isIndent]
    · simpa using hdot

/-- The first token of a text is one of those. -/
theorem starts_lexeme (c : Char) (rest : List Char) : Starts (c :: rest) (lexeme c rest) := by
  rw [lexeme]
  cases h : lexeme? (c :: rest) with
  | none => exact starts_error h
  | some found => exact starts_of_lexeme? h

theorem IsLexeme.ne_nil {kind : Kind} {found after : List Char} (h : IsLexeme kind found after) :
    found ≠ [] := by
  cases h with
  | blanks hne => exact hne
  | word hkind htext =>
    rintro rfl
    exact Bool.false_ne_true htext.last
  | _ => exact List.cons_ne_nil _ _

theorem length_lexeme_pos (c : Char) (rest : List Char) : 0 < (lexeme c rest).2.length := by
  obtain ⟨after, -, hlexeme⟩ := starts_lexeme c rest
  exact List.length_pos_iff.2 hlexeme.ne_nil

/-! ## The tokens of a line -/

/-- The tokens of a line, by their kinds and texts, read from left to right; `ended` says whether
the token before them ends the line. -/
def lexemes (ended : Bool) : List Char → List Offer
  | [] => if ended then [] else [(.endOfLine, [])]
  | c :: rest =>
    let found := lexeme c rest
    found :: lexemes found.1.endsLine ((c :: rest).drop found.2.length)
termination_by text => text.length
decreasing_by
  have := length_lexeme_pos c rest
  rw [List.length_drop, List.length_cons]
  omega

theorem lexemes_cons {c : Char} {rest : List Char} {kind : Kind} {found : List Char}
    (h : lexeme c rest = (kind, found)) (ended : Bool) :
    lexemes ended (c :: rest) =
      (kind, found) :: lexemes kind.endsLine ((c :: rest).drop found.length) := by
  rw [lexemes, h]

/-- The tokens of a line are the first one and those of the text after it. -/
theorem exists_lexemes_eq (c : Char) (rest : List Char) :
    ∃ kind found after, c :: rest = found ++ after ∧ IsLexeme kind found after ∧
      ∀ ended, lexemes ended (c :: rest) = (kind, found) :: lexemes kind.endsLine after := by
  obtain ⟨after, hafter, hlexeme⟩ := starts_lexeme c rest
  refine ⟨_, _, after, hafter, hlexeme, fun ended => ?_⟩
  have hdrop : (c :: rest).drop (lexeme c rest).2.length = after := by rw [hafter, List.drop_left]
  rw [lexemes, hdrop]

/-- Induction over the tokens of a line, from its end. -/
@[elab_as_elim]
theorem lexemes_induction {motive : List Char → Prop} (nil : motive [])
    (append : ∀ kind found after, IsLexeme kind found after →
      (∀ ended, lexemes ended (found ++ after) = (kind, found) :: lexemes kind.endsLine after) →
      motive after → motive (found ++ after))
    (text : List Char) : motive text := by
  induction hn : text.length using Nat.strong_induction_on generalizing text with
  | _ n ih =>
    cases text with
    | nil => exact nil
    | cons c rest =>
      obtain ⟨kind, found, after, hsplit, hlexeme, hlexemes⟩ := exists_lexemes_eq c rest
      rw [hsplit] at hn hlexemes ⊢
      refine append kind found after hlexeme hlexemes (ih after.length ?_ after rfl)
      have hpos := List.length_pos_iff.2 hlexeme.ne_nil
      rw [List.length_append] at hn
      omega

theorem lexemes_ne_nil {text : List Char} (h : text ≠ []) (ended : Bool) :
    lexemes ended text ≠ [] := by
  obtain ⟨c, rest, rfl⟩ := List.exists_cons_of_ne_nil h
  rw [lexemes]
  exact List.cons_ne_nil _ _

end Equelle

/-- The kind and the text of a token. -/
def Token.offer (t : Token) : Offer := (t.kind, t.text)

/-- The tokens that are made of offers one after the other, from the cursor on. -/
def Cursor.placeAll (c : Cursor) : List Offer → LineTokens
  | [] => ⟨[], .ok c⟩
  | (kind, text) :: offers =>
    .emit (c.place (.new kind text c.line)) ((c.advance text.length).placeAll offers)

theorem Cursor.offers_placeAll {c stop : Cursor} {offers : List Offer}
    (h : (c.placeAll offers).stop = .ok stop) :
    (c.placeAll offers).tokens.map Token.offer = offers := by
  induction offers generalizing c with
  | nil => rfl
  | cons offer offers ih =>
    obtain ⟨kind, text⟩ := offer
    obtain ⟨token, htoken, htokens⟩ := LineTokens.exists_of_stop_emit h
    obtain ⟨column, -, rfl⟩ := exists_of_place htoken
    rw [placeAll, htokens, List.map_cons, ih (stop_of_emit h)]
    rfl

namespace Equelle

open Regex Text

section Select

variable {c : Char} {rest : List Char} (hline : '\n' ∉ c :: rest)

include hline

theorem select_entries :
    ((select (entries.map Rule.ofEntry) (c :: rest)).map fun s => (s.rule.action, s.text)) =
      (lexeme? (c :: rest)).map fun o => (Token.new o.1, o.2) := by
  rw [select_ofEntry, bestOffer_entries hline]

theorem lexeme_of_select_eq_none (h : select (entries.map Rule.ofEntry) (c :: rest) = none) :
    lexeme c rest = (.error, [c]) := by
  have hmap := select_entries hline
  rw [h, Option.map_none, eq_comm, Option.map_eq_none_iff] at hmap
  rw [lexeme, hmap, Option.getD_none]

theorem exists_lexeme?_of_select {s : Selection}
    (h : select (entries.map Rule.ofEntry) (c :: rest) = some s) :
    ∃ kind, s.rule.action = Token.new kind ∧ lexeme? (c :: rest) = some (kind, s.text) := by
  have hmap := select_entries hline
  rw [h, Option.map_some, eq_comm, Option.map_eq_some_iff] at hmap
  obtain ⟨⟨kind, text⟩, hlexeme, heq⟩ := hmap
  obtain ⟨haction, rfl⟩ := Prod.mk.inj heq
  exact ⟨kind, haction.symm, hlexeme⟩

end Select

theorem lexeme?_dots (rest : List Char) :
    lexeme? ("...".toList ++ rest) =
      some (.lineContinuation, continuation ("...".toList ++ rest)) := by
  have hsymbol : lexeme? ("...".toList ++ rest) = symbol? ("...".toList ++ rest) := rfl
  rw [hsymbol, symbol?, if_pos (List.isPrefixOf_iff_prefix.2 (List.prefix_append _ _))]

/-- Only a line continuation starts with the marker. -/
theorem continued_lexeme {text found : List Char} {kind : Kind}
    (h : lexeme? text = some (kind, found)) (hstart : found <+: text) (line : Nat) :
    continued LineScan.defaultMarker (.new kind found line) = .new kind found line := by
  rw [continued]
  split
  · rename_i hmarker
    obtain ⟨rest, rfl⟩ : "...".toList <+: text := hmarker.2.trans hstart
    rw [lexeme?_dots, Option.some.injEq, Prod.mk.injEq] at h
    rw [← h.1]
    rfl
  · rfl

/-- **One token of a line of Equelle**, and the tokens after it. -/
theorem plainTokens_lexeme {c : Cursor} {d : Char} {rest : List Char} (hcons : c.rest = d :: rest)
    (hline : '\n' ∉ d :: rest) (ended : Bool) :
    plainTokens (entries.map Rule.ofEntry) LineScan.defaultMarker ended c =
      .emit (c.place (.new (lexeme d rest).1 (lexeme d rest).2 c.line))
        (plainTokens (entries.map Rule.ofEntry) LineScan.defaultMarker (lexeme d rest).1.endsLine
          (c.advance (lexeme d rest).2.length)) := by
  have hrest : c.rest ≠ [] := by simp [hcons]
  cases hselect : select (entries.map Rule.ofEntry) c.rest with
  | none =>
    rw [plainTokens_of_unmatched ended hrest hselect, Cursor.errorToken, hcons,
      lexeme_of_select_eq_none hline (hcons ▸ hselect)]
    rfl
  | some s =>
    obtain ⟨kind, haction, hlexeme⟩ := exists_lexeme?_of_select hline (hcons ▸ hselect)
    obtain ⟨after, hafter, hfound⟩ := starts_of_lexeme? hlexeme
    have hfirst : lexeme d rest = (kind, s.text) := by rw [lexeme, hlexeme, Option.getD_some]
    have htoken : continued LineScan.defaultMarker (s.rule.action s.text c.line) =
        .new kind s.text c.line := by
      rw [haction]
      exact continued_lexeme hlexeme ⟨after, hafter.symm⟩ c.line
    rw [plainTokens_of_matched ended hrest hselect hfound.ne_nil, htoken, hfirst]
    rfl

/-- **The tokens of a line of Equelle are its lexemes**, each at its place. -/
theorem plainTokens_eq_placeAll {c : Cursor} (hline : '\n' ∉ c.rest) (ended : Bool) :
    plainTokens (entries.map Rule.ofEntry) LineScan.defaultMarker ended c =
      c.placeAll (lexemes ended c.rest) := by
  induction hn : c.rest.length using Nat.strong_induction_on generalizing c ended with
  | _ n ih =>
    cases hcons : c.rest with
    | nil =>
      cases ended with
      | true =>
        rw [plainTokens_of_ended hcons, lexemes, if_pos rfl, Cursor.placeAll]
      | false =>
        rw [plainTokens_at_end hcons, (keepText_ofEntry _).endToken_eq hcons, lexemes,
          if_neg Bool.false_ne_true, Cursor.placeAll, Cursor.placeAll, List.length_nil,
          Cursor.advance_zero]
    | cons d rest =>
      have hlt : (c.advance (lexeme d rest).2.length).rest.length < n :=
        hn ▸ Cursor.length_rest_advance_lt (by simp [hcons]) (length_lexeme_pos d rest)
      rw [plainTokens_lexeme hcons (hcons ▸ hline), lexemes, Cursor.placeAll,
        ih _ hlt (fun hmem => hline (List.mem_of_mem_drop hmem)) _ rfl, Cursor.rest_advance, hcons]

/-! ## The mode -/

/-- What a mode of Equelle is made of. -/
theorem rules_config_of_modeWith {config : Config} {m : Mode} (hm : modeWith config = .ok m) :
    m.rules = entries.map Rule.ofEntry ∧ m.config = config := by
  rw [modeWith, rules_eq] at hm
  change (Mode.create (entries.map Rule.ofEntry) styles config).mapError _ = .ok m at hm
  rw [Mode.create] at hm
  split at hm
  · cases hm
  · obtain rfl := Except.ok.inj hm
    exact ⟨rfl, rfl⟩

/-- The mode of Equelle with its standard settings. -/
def standardMode : Mode := ⟨entries.map Rule.ofEntry, styles, .standard⟩

theorem mode_eq : mode = .ok standardMode := by
  rw [mode, modeWith, rules_eq]
  rfl

theorem keepText_standardMode : KeepText standardMode.rules := keepText_ofEntry entries

/-- The mode has the rules of Equelle and the standard markers, whatever its other settings are. -/
structure IsEquelle (m : Mode) : Prop where
  rules : m.rules = entries.map Rule.ofEntry
  continuationMarker : m.config.continuationMarker = LineScan.defaultMarker
  closeMarker : m.config.closeMarker = "\x7d"

theorem isEquelle_standardMode : IsEquelle standardMode := ⟨rfl, rfl, rfl⟩

theorem IsEquelle.keepText {m : Mode} (hm : IsEquelle m) : KeepText m.rules := by
  rw [hm.rules]
  exact keepText_ofEntry entries

theorem IsEquelle.endsOnlyAtEnd {m : Mode} (hm : IsEquelle m) : EndsOnlyAtEnd m.rules := by
  rw [hm.rules]
  exact endsOnlyAtEnd_rules

/-- The tokens of a line are its lexemes, without its line ending. -/
theorem plain_scan_eq_placeAll {m : Mode} (hrules : m.rules = entries.map Rule.ofEntry)
    (hmarker : m.config.continuationMarker = LineScan.defaultMarker) {text : List Char}
    (hline : '\n' ∉ trimEnding text) (line : Nat) :
    (m.scan line text).scan.plain = (Cursor.start text line m.config.tabSize).placeAll
      (lexemes (trimEnding text).isEmpty (trimEnding text)) := by
  have hkeep : KeepText m.rules := hrules ▸ keepText_ofEntry entries
  rw [Mode.scan, LineScan.plain_scan hkeep.keepEmpty, hrules, hmarker]
  exact plainTokens_eq_placeAll (c := Cursor.start text line m.config.tabSize) hline _

theorem IsEquelle.offers_tokens {m : Mode} (hm : IsEquelle m) {line : Nat} {text : List Char}
    (hline : '\n' ∉ trimEnding text) {tokens : List Token}
    (h : (m.tokens line text).outcome = .ok tokens) :
    tokens.map Token.offer = lexemes (trimEnding text).isEmpty (trimEnding text) := by
  obtain ⟨stop, hstop, rfl⟩ := map_eq_ok_iff.1 h
  have hplain := plain_scan_eq_placeAll hm.rules hm.continuationMarker hline line
  have hend : (m.scan line text).scan.plain.stop = .ok stop.cursor := by
    show (m.scan line text).scan.outcome.map LineScan.cursor = _
    rw [hstop]
    rfl
  rw [hplain] at hend
  rw [← Cursor.offers_placeAll hend, ← hplain]
  rfl

theorem offers_tokens {line : Nat} {text : List Char} (hline : '\n' ∉ trimEnding text)
    {tokens : List Token} (h : (standardMode.tokens line text).outcome = .ok tokens) :
    tokens.map Token.offer = lexemes (trimEnding text).isEmpty (trimEnding text) :=
  isEquelle_standardMode.offers_tokens hline h

end Equelle

end EditorMode
