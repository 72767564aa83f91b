import EditorMode.Proofs.Equelle.Code
import EditorMode.Proofs.Mode.Bounds
import EditorMode.Proofs.Mode.Content

/-!
# Which lines are continued

In Equelle a line is continued by three dots at its end, and what that means can be said without any
tokens: take the code of the line without the blanks at its end, and count the dots there.  The line
is continued if this number is positive and a multiple of three (`Continues`).  With one or two dots
more, the dots are read as line continuations from the left, and single dots follow the last of
them.

The dots at the end of a line are those of its last tokens.  Most tokens are `Quiet`: what follows
them decides alone.  A line continuation adds three dots or none, since blanks after it keep it
apart (`lastDots_continuation`), and a single dot has at most one more dot after it
(`length_trimmed_code_lt`).
-/

set_option autoImplicit false

namespace EditorMode.Equelle

open Regex Text

/-! ## Dots at the end -/

/-- Whether the part is a space or a tab. -/
def Part.isBlank : Part → Bool
  | .plain c => isIndent c
  | .quoted _ => false

/-- Whether the part is a dot. -/
def Part.isDot : Part → Bool
  | .plain c => c == '.'
  | .quoted _ => false

/-- The parts without the blanks at their end. -/
def trimmed (parts : List Part) : List Part := parts.rdropWhile Part.isBlank

/-- The number of dots at the end of parts. -/
def lastDots (parts : List Part) : Nat := (parts.rtakeWhile Part.isDot).length

/-- The number of dots at the end of parts, not counting the blanks after them. -/
def endDots (parts : List Part) : Nat := lastDots (trimmed parts)

/-- Whether the parts end with dots that are taken three at a time. -/
def Continues (parts : List Part) : Prop := 0 < endDots parts ∧ 3 ∣ endDots parts

instance (parts : List Part) : Decidable (Continues parts) := inferInstanceAs (Decidable (_ ∧ _))

section Append

variable (a : List Part) {b : List Part}

theorem trimmed_append_of_eq_nil (h : trimmed b = []) : trimmed (a ++ b) = trimmed a := by
  rw [trimmed, List.rdropWhile_eq_nil_iff] at h
  rw [trimmed, trimmed, List.rdropWhile, List.rdropWhile, List.reverse_append,
    List.dropWhile_append_of_pos (by simpa using h)]

theorem trimmed_append_of_ne_nil (h : trimmed b ≠ []) : trimmed (a ++ b) = a ++ trimmed b := by
  rw [trimmed, List.rdropWhile, Ne, List.reverse_eq_nil_iff] at h
  rw [trimmed, trimmed, List.rdropWhile, List.rdropWhile, List.reverse_append,
    List.dropWhile_append, if_neg (by simpa using h), List.reverse_append, List.reverse_reverse]

theorem lastDots_append_of_forall (h : ∀ part ∈ b, part.isDot = true) :
    lastDots (a ++ b) = lastDots a + b.length := by
  rw [lastDots, lastDots, List.rtakeWhile, List.rtakeWhile, List.reverse_append,
    List.takeWhile_append_of_pos (by simpa using h)]
  simp [Nat.add_comm]

theorem lastDots_append_of_not_forall (h : ¬∀ part ∈ b, part.isDot = true) :
    lastDots (a ++ b) = lastDots b := by
  have hne : (b.reverse.takeWhile Part.isDot).length ≠ b.reverse.length := by
    intro hlength
    refine h fun part hpart => ?_
    have hself := (List.takeWhile_prefix _).eq_of_length hlength
    exact List.takeWhile_eq_self_iff.1 hself part (List.mem_reverse.2 hpart)
  rw [lastDots, lastDots, List.rtakeWhile, List.rtakeWhile, List.reverse_append,
    List.takeWhile_append, if_neg hne]

/-- Parts that go on decide alone about the dots at the end, unless all of them are dots. -/
theorem endDots_append (h : trimmed b ≠ []) :
    endDots (a ++ b) = endDots b ∨
      (∀ part ∈ trimmed b, part.isDot = true) ∧ endDots b = (trimmed b).length ∧
        endDots (a ++ b) = lastDots a + endDots b := by
  rw [endDots, endDots, trimmed_append_of_ne_nil a h]
  by_cases hdots : ∀ part ∈ trimmed b, part.isDot = true
  · have hall : lastDots (trimmed b) = (trimmed b).length := by
      simpa [lastDots] using lastDots_append_of_forall [] hdots
    exact .inr ⟨hdots, hall, by rw [hall, lastDots_append_of_forall a hdots]⟩
  · exact .inl (lastDots_append_of_not_forall a hdots)

theorem endDots_append_of_eq_nil (h : trimmed b = []) :
    endDots (a ++ b) = endDots a ∧ endDots b = 0 := by
  rw [endDots, endDots, endDots, trimmed_append_of_eq_nil a h, h]
  exact ⟨rfl, rfl⟩

end Append

/-! ## Quiet parts -/

/-- No dots at the end of the parts, with and without the blanks there. -/
structure Quiet (parts : List Part) : Prop where
  lastDots : lastDots parts = 0
  endDots : endDots parts = 0

/-- After quiet parts the dots at the end are those of what follows. -/
theorem Quiet.endDots_append {a : List Part} (h : Quiet a) (b : List Part) :
    Equelle.endDots (a ++ b) = Equelle.endDots b := by
  by_cases hb : trimmed b = []
  · obtain ⟨happend, hzero⟩ := endDots_append_of_eq_nil a hb
    rw [happend, hzero, h.endDots]
  · rcases Equelle.endDots_append a hb with heq | ⟨-, -, heq⟩
    · exact heq
    · rw [heq, h.lastDots, Nat.zero_add]

/-- Parts are quiet if their last one is neither a dot nor a blank. -/
theorem quiet_concat (parts : List Part) (last : Part) (hdot : last.isDot = false)
    (hblank : last.isBlank = false) : Quiet (parts ++ [last]) := by
  have hzero : lastDots (parts ++ [last]) = 0 := by
    rw [lastDots, List.rtakeWhile_concat_neg _ _ _ (by simp [hdot]), List.length_nil]
  refine ⟨hzero, ?_⟩
  rw [endDots, trimmed, List.rdropWhile_concat_neg _ _ _ (by simp [hblank]), hzero]

theorem trimmed_blanks {text : List Char} (h : ∀ c ∈ text, isIndent c = true) :
    trimmed (text.map .plain) = [] := by
  rw [trimmed, List.rdropWhile_eq_nil_iff]
  simpa [Part.isBlank] using h

/-- Blanks are quiet. -/
theorem quiet_blanks {text : List Char} (h : ∀ c ∈ text, isIndent c = true) :
    Quiet (text.map .plain) := by
  refine ⟨?_, by rw [endDots, trimmed_blanks h]; rfl⟩
  rw [lastDots, List.length_eq_zero_iff, List.rtakeWhile_eq_nil_iff]
  intro hne hdot
  obtain ⟨c, hc, hlast⟩ := List.mem_map.1 (List.getLast_mem hne)
  rw [← hlast, Part.isDot, beq_iff_eq] at hdot
  exact absurd (hdot ▸ h c hc) (by decide)

theorem IsWord.quiet {text : List Char} (h : IsWord text) : Quiet (text.map .plain) := by
  obtain ⟨hchars, hlast⟩ := h
  obtain ⟨c, hc, hdot⟩ := (Option.any_eq_true _ _).1 hlast
  obtain ⟨early, rfl⟩ := List.getLast?_eq_some_iff.1 hc
  have hmark : c ∉ marks := hchars c (List.mem_append_right _ (List.mem_singleton_self c))
  rw [List.map_append, List.map_singleton]
  refine quiet_concat _ _ (by simpa [Part.isDot] using hdot) ?_
  rw [Part.isBlank, isIndent, Bool.or_eq_false_iff, beq_eq_false_iff_ne, beq_eq_false_iff_ne]
  refine ⟨?_, ?_⟩ <;> rintro rfl <;> exact hmark (by decide)

/-! ## The dots of tokens -/

/-- What a line continuation is to the code of a line. -/
theorem IsLexeme.exists_of_lineContinuation {found after : List Char}
    (h : IsLexeme .lineContinuation found after) :
    ∃ blanks, (∀ c ∈ blanks, isIndent c = true) ∧
      code found = ("...".toList ++ blanks).map .plain ∧
      ∀ c ∈ after.head?, isIndent c = false ∧ c ≠ '#' := by
  cases h with
  | continuation hblanks hafter =>
    exact ⟨_, hblanks, (isPlain_continuation hblanks).code_eq, hafter⟩
  | commented hblanks text =>
    refine ⟨_, hblanks, ?_, nofun⟩
    rw [code_commented hblanks, (isPlain_continuation hblanks).code_eq]
  | word hkind => cases hkind

/-- A token that is neither a line continuation nor a dot is quiet. -/
theorem IsLexeme.quiet_or {kind : Kind} {found after : List Char} (h : IsLexeme kind found after) :
    Quiet (code found) ∨ kind = .lineContinuation ∨ found = ['.'] ∧ ¬['.', '.'] <+: after := by
  cases h with
  | opening => exact .inl (by simpa [code] using quiet_concat [] (.plain '\x7b') rfl rfl)
  | closing => exact .inl (by simpa [code] using quiet_concat [] (.plain '\x7d') rfl rfl)
  | quoted h =>
    rw [code_quotes h]
    exact .inl (quiet_concat [] _ rfl rfl)
  | stray h =>
    rw [code_stray rfl]
    exact .inl (by simpa [code] using quiet_concat [] (.plain '"') rfl rfl)
  | comment text =>
    rw [code_comment]
    exact .inl ⟨rfl, rfl⟩
  | continuation => exact .inr (.inl rfl)
  | commented => exact .inr (.inl rfl)
  | dot h => exact .inr (.inr ⟨rfl, h⟩)
  | blanks hne htext =>
    rw [(isPlain_of_forall_isIndent htext).code_eq]
    exact .inl (quiet_blanks htext)
  | word hkind htext =>
    rw [htext.isPlain.code_eq]
    exact .inl htext.quiet

/-- The code of a line continuation ends with three dots. -/
theorem endDots_continuation {blanks : List Char} (h : ∀ c ∈ blanks, isIndent c = true) :
    endDots (("...".toList ++ blanks).map .plain) = 3 := by
  rw [List.map_append, (endDots_append_of_eq_nil _ (trimmed_blanks h)).1]
  rfl

/-- The blanks after a line continuation keep its dots apart from those that follow. -/
theorem lastDots_continuation {blanks : List Char} (h : ∀ c ∈ blanks, isIndent c = true) :
    3 ∣ lastDots (("...".toList ++ blanks).map .plain) := by
  rw [List.map_append]
  by_cases hnil : blanks = []
  · rw [hnil]
    exact ⟨1, rfl⟩
  · rw [lastDots_append_of_not_forall, (quiet_blanks h).lastDots]
    · exact Nat.dvd_zero 3
    · intro hdots
      obtain ⟨c, rest, rfl⟩ := List.exists_cons_of_ne_nil hnil
      have hc : c = '.' := by simpa [Part.isDot] using hdots (.plain c) List.mem_cons_self
      exact absurd (hc ▸ h c List.mem_cons_self) (by decide)

/-- A text that starts with neither a blank nor a comment has code. -/
theorem trimmed_code_ne_nil {text : List Char} (hne : text ≠ [])
    (hhead : ∀ c ∈ text.head?, isIndent c = false ∧ c ≠ '#') : trimmed (code text) ≠ [] := by
  rw [trimmed, Ne, List.rdropWhile_eq_nil_iff]
  intro hall
  fun_cases code text with
  | case1 => exact hne rfl
  | case2 rest => exact (hhead '#' rfl).2 rfl
  | case3 rest found hfound =>
    simp [code, hfound, Part.isBlank] at hall
  | case4 rest hfound =>
    rw [code_stray hfound] at hall
    exact Bool.false_ne_true (hall _ List.mem_cons_self)
  | case5 c rest hhash hquote =>
    rw [code] at hall
    · exact Bool.false_ne_true ((hhead c rfl).1.symm.trans (hall _ List.mem_cons_self))
    · exact hhash
    · exact hquote

/-- A single character at the start of the code is the first one of the line. -/
theorem exists_of_code_eq_cons {line : List Char} {c : Char} {parts : List Part}
    (h : code line = .plain c :: parts) : ∃ rest, line = c :: rest ∧ code rest = parts := by
  fun_cases code line with
  | case1 =>
    rw [code] at h
    cases h
  | case2 rest =>
    rw [code_comment] at h
    cases h
  | case3 rest found hfound => simp [code, hfound] at h
  | case4 rest hfound =>
    rw [code_stray hfound] at h
    obtain ⟨⟨⟩, hparts⟩ := List.cons.inj h
    exact ⟨rest, rfl, hparts⟩
  | case5 d rest hhash hquote =>
    rw [code] at h
    · obtain ⟨⟨⟩, hparts⟩ := List.cons.inj h
      exact ⟨rest, rfl, hparts⟩
    · exact hhash
    · exact hquote

theorem Part.eq_of_isDot {part : Part} (h : part.isDot = true) : part = .plain '.' := by
  cases part with
  | plain c => rw [beq_iff_eq.1 h]
  | quoted text => cases h

/-- Where the code of a line is nothing but dots, the line starts with them. -/
theorem length_trimmed_code_lt {line : List Char} (hline : ¬['.', '.'] <+: line)
    (hdots : ∀ part ∈ trimmed (code line), part.isDot = true) :
    (trimmed (code line)).length < 2 := by
  obtain ⟨blanks, hsplit⟩ : trimmed (code line) <+: code line := List.rdropWhile_prefix _ _
  rcases htrimmed : trimmed (code line) with _ | ⟨first, _ | ⟨second, more⟩⟩
  · exact Nat.zero_lt_two
  · exact Nat.one_lt_two
  · rw [htrimmed, List.forall_mem_cons, List.forall_mem_cons] at hdots
    obtain rfl := Part.eq_of_isDot hdots.1
    obtain rfl := Part.eq_of_isDot hdots.2.1
    rw [htrimmed] at hsplit
    obtain ⟨rest, rfl, hrest⟩ := exists_of_code_eq_cons hsplit.symm
    obtain ⟨rest, rfl, -⟩ := exists_of_code_eq_cons hrest
    exact absurd ⟨rest, rfl⟩ hline

theorem code_dot : code ['.'] = [.plain '.'] := IsPlain.code_eq (by decide)

/-- **One token more before others.**  Whether a line ends with dots three at a time is decided by
what follows the token. -/
theorem IsLexeme.continues_append {kind : Kind} {found after : List Char}
    (h : IsLexeme kind found after) (hafter : after ≠ []) :
    Continues (code (found ++ after)) ↔ Continues (code after) := by
  rw [h.code_append, Continues, Continues]
  rcases h.quiet_or with hquiet | rfl | ⟨rfl, hdots⟩
  · rw [hquiet.endDots_append]
  · obtain ⟨blanks, hblanks, hcode, hhead⟩ := h.exists_of_lineContinuation
    have hthree := lastDots_continuation hblanks
    rw [← hcode] at hthree
    have hcode_after := trimmed_code_ne_nil hafter hhead
    rcases endDots_append (code found) hcode_after with heq | ⟨-, hall, heq⟩
    · rw [heq]
    · -- nothing but dots follows: three more or none more make no difference
      have hpos := List.length_pos_iff.2 hcode_after
      omega
  · rw [code_dot]
    by_cases hcode_after : trimmed (code after) = []
    · obtain ⟨happend, hzero⟩ := endDots_append_of_eq_nil [.plain '.'] hcode_after
      have hone : endDots [.plain '.'] = 1 := rfl
      omega
    · rcases endDots_append [.plain '.'] hcode_after with heq | ⟨hall, hlength, heq⟩
      · rw [heq]
      · -- a second dot is the last one: neither one nor two are a multiple of three
        have hone : lastDots [.plain '.'] = 1 := rfl
        have hlt := length_trimmed_code_lt hdots hall
        have hpos := List.length_pos_iff.2 hcode_after
        omega

/-- At the end of a line the dots are those of its last token. -/
theorem IsLexeme.continues_iff {kind : Kind} {found after : List Char}
    (h : IsLexeme kind found after) : Continues (code found) ↔ kind = .lineContinuation := by
  rw [Continues]
  by_cases hkind : kind = .lineContinuation
  · subst hkind
    obtain ⟨blanks, hblanks, hcode, -⟩ := h.exists_of_lineContinuation
    rw [hcode, endDots_continuation hblanks]
    decide
  · rcases h.quiet_or with hquiet | rfl | ⟨rfl, -⟩
    · simp [hquiet.endDots, hkind]
    · exact absurd rfl hkind
    · rw [code_dot]
      exact iff_of_false (by decide) hkind

/-! ## The last token of a line -/

/-- The last token of a line is a line continuation if the code of the line ends so. -/
theorem getLast?_lexemes_iff {ended : Bool} {text : List Char} (htext : text ≠ []) {last : Offer}
    (h : (lexemes ended text).getLast? = some last) :
    last.1 = .lineContinuation ↔ Continues (code text) := by
  induction text using lexemes_induction generalizing ended with
  | nil => exact absurd rfl htext
  | append kind found after hlexeme hlexemes ih =>
    rw [hlexemes] at h
    by_cases hafter : after = []
    · -- the last token, or the one before an end of line
      subst hafter
      rw [List.append_nil, hlexeme.continues_iff]
      rw [lexemes] at h
      cases hends : kind.endsLine with
      | true =>
        rw [hends] at h
        obtain rfl := Option.some.inj h
        rfl
      | false =>
        rw [hends] at h
        obtain rfl := Option.some.inj h
        refine iff_of_false (by simp) ?_
        rintro rfl
        cases hends
    · obtain ⟨next, more, hmore⟩ :=
        List.exists_cons_of_ne_nil (lexemes_ne_nil hafter kind.endsLine)
      rw [hmore, List.getLast?_cons_cons, ← hmore] at h
      rw [hlexeme.continues_append hafter, ih hafter h]

/-! ## Lines -/

/-- **Which lines are continued.**  Let a line be not empty without its carriage returns.  It can be
tracked unless a sum passes its bound, and no sum does if there is a level for each character and
the line is not too long for the columns.  Afterwards its logical line is continued if its code ends
with dots three at a time, and at its end if not, whatever the document was before. -/
theorem continued_of_advanceLine {d : Document} (hd : d.Consistent) (line : Nat) {text : List Char}
    (hline : '\n' ∉ text) (htext : trimReturns text ≠ []) :
    mode = .ok standardMode ∧
      Mode.CompletesIf (standardMode.Narrow text.length ∧ d.level + text.length < columnBound)
        (standardMode.advanceLine d line text).outcome ∧
      ∀ e, (standardMode.advanceLine d line text).outcome = .ok e →
        (e.continued = true ↔ Continues (code (trimReturns text))) ∧
          e.atLineEnd = !e.continued := by
  rw [trimReturns_eq_trimEnding hline] at htext ⊢
  have hrules := keepText_standardMode.keepEmpty
  have htrim : (trimEnding text).length ≤ text.length := (List.rdropWhile_prefix _ _).length_le
  refine ⟨mode_eq, ⟨?_, fun hfits => ?_⟩, fun e he => ?_⟩
  · exact fun fault => (Mode.safe_advanceLine hrules hd line text).eq_overflow
  · obtain ⟨e, he, -⟩ :=
      Mode.exists_of_advanceLine_narrow hfits.1 htrim hrules hd (by omega) line
    exact ⟨e, he⟩
  · obtain ⟨tokens, last, htokens, hlast, hended⟩ := Mode.endedBy_of_advanceLine hrules hd htext he
    have hlexemes := offers_tokens
      (fun hmem => hline ((List.rdropWhile_prefix _ _).mem hmem)) htokens
    have hoffer : (lexemes (trimEnding text).isEmpty (trimEnding text)).getLast? =
        some last.offer := by
      rw [← hlexemes, List.getLast?_map, hlast, Option.map_some]
    exact ⟨hended.continued.trans (getLast?_lexemes_iff htext hoffer), hended.one⟩

/-- Of eleven dots in this line only the six after the text in quotes count. -/
theorem continued_of_advanceLine_six_dots :
    let d : Document := ⟨1, [0, 2], true, true, false, 0⟩
    let text := "  \"a\\\" #..\" ......\t # ...\r".toList
    d.Consistent ∧ '\n' ∉ text ∧ trimReturns text ≠ [] ∧
      ∃ e, (standardMode.advanceLine d 3 text).outcome = .ok e ∧ e.continued = true ∧
        e.atLineEnd = false := by
  intro d text
  have hd : d.Consistent := by decide
  have hline : '\n' ∉ text := by decide
  have htext : trimReturns text ≠ [] := by decide
  obtain ⟨-, hcompletes, hflags⟩ := continued_of_advanceLine hd 3 hline htext
  obtain ⟨e, he⟩ := hcompletes.exists_eq_ok (by decide +kernel)
  obtain ⟨hcontinued, hend⟩ := hflags e he
  have hdots : Continues (code (trimReturns text)) := by decide +kernel
  have htrue := hcontinued.2 hdots
  exact ⟨hd, hline, htext, e, he, htrue, by rw [hend, htrue]; rfl⟩

end EditorMode.Equelle
