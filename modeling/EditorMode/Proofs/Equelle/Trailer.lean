import EditorMode.Proofs.Equelle.Code
import EditorMode.Proofs.Equelle.Tracked
import Mathlib.Data.List.Find

/-!
# Blanks and comments at the end of a line

A line may end with blanks and a comment.  They can become part of the line continuation or of the
comment before them, of a longer run of blanks, or tokens of their own.  None of this matters to the
document (`advanceLine_append_trailer`).

Three things have to be seen.

* No token that stands before the last code reaches further than it did: names, numbers and symbols
  stop at a blank and at the start of a comment, and a quote that was not closed is not closed now,
  even if the line ends with a backslash (`lexeme?_append`).
* A line continuation at the end takes in all that follows, and remains one token at the same place.
* What has no code ends the line and does nothing else, whether there is little of it or much
  (`trackOffers_codeless`).

A line of blanks only is another matter: more blanks are a larger indentation.
-/

set_option autoImplicit false

namespace EditorMode.Equelle

open Regex Text

/-! ## Trailers -/

/-- Blanks and, if there is one, a comment without quotes. -/
structure IsTrailer (tail : List Char) : Prop where
  codeless : IsCodeless tail
  chars : ∀ c ∈ tail, c ∉ ['"', '\r', '\n']

instance (tail : List Char) : Decidable (IsTrailer tail) :=
  have := List.decidableBAll (· ∉ ['"', '\r', '\n']) tail
  decidable_of_iff (IsCodeless tail ∧ ∀ c ∈ tail, c ∉ ['"', '\r', '\n'])
    ⟨fun h => ⟨h.1, h.2⟩, fun h => ⟨h.codeless, h.chars⟩⟩

/-- The characters that a trailer may start with. -/
def separators : List Char := [' ', '\t', '#']

theorem not_mem_separators_iff {c : Char} : c ∉ separators ↔ isIndent c = false ∧ c ≠ '#' := by
  simp [separators, isIndent, and_assoc]

section Separators

variable {tail : List Char} (htail : IsCodeless tail)

include htail

theorem mem_separators_of_codeless : ∀ c ∈ tail.head?, c ∈ separators := by
  intro c hc
  by_contra hnot
  obtain ⟨hindent, hhash⟩ := not_mem_separators_iff.1 hnot
  refine hhash (htail c ?_)
  obtain ⟨rest, rfl⟩ := List.head?_eq_some_iff.1 hc
  simp [hindent]

/-- A class of characters without separators ends before the trailer. -/
theorem not_of_codeless {p : Char → Bool} (hp : separators.any p = false) :
    ∀ c ∈ tail.head?, p c = false := by
  intro c hc
  simpa using List.any_eq_false.1 hp c (mem_separators_of_codeless htail c hc)

/-- Words without separators do not reach into the trailer. -/
theorem prefix_append_iff {word : List Char} (hword : word.all (· ∉ separators) = true)
    (text : List Char) : word <+: text ++ tail ↔ word <+: text := by
  refine ⟨fun h => ?_, fun h => h.trans (List.prefix_append _ _)⟩
  rcases List.prefix_or_prefix_of_prefix h (List.prefix_append text tail) with h' | ⟨more, rfl⟩
  · exact h'
  · have hmore : more <+: tail := (List.prefix_append_right_inj text).1 h
    cases more with
    | nil => simp
    | cons c more =>
      obtain ⟨rest, rfl⟩ := hmore
      have hc := List.all_eq_true.1 hword c (by simp)
      exact absurd (mem_separators_of_codeless htail c rfl) (by simpa using hc)

/-! ## The first token of a line with a trailer -/

theorem sign_append (text : List Char) : sign (text ++ tail) = sign text := by
  cases text with
  | nil =>
    have hsign := not_of_codeless htail (p := isSign) (by decide)
    cases tail with
    | nil => rfl
    | cons c tail => simp [sign, hsign c rfl]
  | cons c text => rfl

theorem exponentDigits_append (text : List Char) :
    exponentDigits (text ++ tail) = exponentDigits text := by
  have hlength : (sign text).length ≤ text.length := (prefix_sign text).length_le
  rw [exponentDigits, sign_append htail, List.drop_append_of_le_length hlength,
    takeWhile_append_left (not_of_codeless htail (by decide)), exponentDigits]

theorem exponent_append (text : List Char) : exponent (text ++ tail) = exponent text := by
  cases text with
  | nil =>
    have hmark := not_of_codeless htail (p := isExponentMark) (by decide)
    cases tail with
    | nil => rfl
    | cons c tail => simp [exponent, hmark c rfl]
  | cons c text =>
    rw [List.cons_append, exponent, sign_append htail, exponentDigits_append htail, exponent]

theorem fraction?_append (text : List Char) : fraction? (text ++ tail) = fraction? text := by
  cases text with
  | nil =>
    have hdot := not_of_codeless htail (p := (· == '.')) (by decide)
    cases tail with
    | nil => rfl
    | cons c tail =>
      have hc : c ≠ '.' := by simpa using hdot c rfl
      simp [fraction?, hc]
  | cons c text =>
    have hdigit := not_of_codeless htail (p := Char.isDigit) (by decide)
    rw [List.cons_append, fraction?, takeWhile_append_left hdigit, dropWhile_append_left hdigit,
      exponent_append htail, fraction?]

theorem number_append (text : List Char) : number (text ++ tail) = number text := by
  have hdigit := not_of_codeless htail (p := Char.isDigit) (by decide)
  rw [number, takeWhile_append_left hdigit, dropWhile_append_left hdigit, fraction?_append htail,
    number]

theorem symbol?_append {c : Char} {rest : List Char} (hdots : ¬"...".toList <+: c :: rest) :
    symbol? (c :: rest ++ tail) = symbol? (c :: rest) := by
  have hlonger : ¬"...".toList <+: c :: rest ++ tail := by
    rwa [prefix_append_iff htail (by decide)]
  have hoperators : ∀ operator ∈ operators, operator.1.toList.length = 2 ∧
      operator.1.toList.all (· ∉ separators) = true := by decide
  have htake : ∀ operator ∈ operators, operator.1.toList = (c :: rest ++ tail).take 2 ↔
      operator.1.toList = (c :: rest).take 2 := by
    intro operator hmem
    obtain ⟨hlength, hchars⟩ := hoperators operator hmem
    rw [← hlength, ← List.prefix_iff_eq_take, ← List.prefix_iff_eq_take,
      prefix_append_iff htail hchars]
  have hfind : operators.find? (fun operator => operator.1.toList == (c :: rest ++ tail).take 2) =
      operators.find? fun operator => operator.1.toList == (c :: rest).take 2 := by
    refine List.find?_congr fun operator hmem => ?_
    rw [Bool.eq_iff_iff, beq_iff_eq, beq_iff_eq, htake operator hmem]
  rw [← List.isPrefixOf_iff_prefix] at hdots hlonger
  rw [symbol?, symbol?, if_neg hdots, if_neg hlonger, hfind]
  split
  · rename_i operator hoperator
    have hsame := List.find?_some hoperator
    rw [beq_iff_eq] at hsame
    rw [← hsame, ← (htake operator (List.mem_of_find?_eq_some hoperator)).2 hsame]
  · rfl

end Separators

/-- **A token does not change** if a trailer is added to the line, unless it is a run of blanks, a
comment or a line continuation. -/
theorem lexeme?_append {tail : List Char} (htail : IsTrailer tail) {c : Char} {rest : List Char}
    (hc : c ∉ separators) (hdots : ¬"...".toList <+: c :: rest) :
    lexeme? (c :: rest ++ tail) = lexeme? (c :: rest) := by
  obtain ⟨hindent, hhash⟩ := not_mem_separators_iff.1 hc
  have hname := not_of_codeless htail.codeless (p := isNameChar) (by decide)
  have hquote : '"' ∉ tail := fun h => htail.chars _ h (by decide)
  rw [List.cons_append, lexeme?, lexeme?, ← List.cons_append, takeWhile_append_left hname,
    number_append htail.codeless, throughQuote?_append hquote, symbol?_append htail.codeless hdots,
    hindent, if_neg hhash, if_neg hhash]
  rfl

theorem lexeme_append {tail : List Char} (htail : IsTrailer tail) {c : Char} {rest : List Char}
    (hc : c ∉ separators) (hdots : ¬"...".toList <+: c :: rest) :
    lexeme c (rest ++ tail) = lexeme c rest := by
  rw [lexeme, ← List.cons_append, lexeme?_append htail hc hdots, lexeme]

/-! ## Line continuations -/

/-- Only a line continuation is the last token of a line before its end. -/
theorem IsLexeme.endsLine_eq_false {kind : Kind} {found after : List Char}
    (h : IsLexeme kind found after) (hdots : ¬"...".toList <+: found ++ after) :
    kind.endsLine = false := by
  cases h with
  | continuation hblanks hafter =>
    rw [List.append_assoc] at hdots
    exact absurd (List.prefix_append _ _) hdots
  | commented hblanks text =>
    rw [List.append_assoc, List.append_assoc] at hdots
    exact absurd (List.prefix_append _ _) hdots
  | word hkind htext =>
    cases kind with
    | function => rfl
    | error => rfl
    | named name => rfl
    | _ => simp [Kind.isOrdinary] at hkind
  | _ => rfl

theorem lexemes_dots {found after : List Char}
    (h : continuation ("...".toList ++ (found ++ after)) = "...".toList ++ found) (ended : Bool) :
    lexemes ended ("...".toList ++ (found ++ after)) =
      (.lineContinuation, "...".toList ++ found) :: lexemes true after := by
  have hlexeme : lexeme '.' ('.' :: '.' :: (found ++ after)) =
      (.lineContinuation, "...".toList ++ found) := by
    rw [lexeme, ← h]
    exact congrArg (Option.getD · _) (lexeme?_dots (found ++ after))
  have hdrop : ("...".toList ++ (found ++ after)).drop ("...".toList ++ found).length = after := by
    rw [← List.append_assoc, List.drop_left]
  exact (lexemes_cons hlexeme ended).trans (congrArg (fun rest => _ :: lexemes true rest) hdrop)

/-- A line continuation takes in what has no code. -/
theorem lexemes_dots_codeless {rest : List Char} (h : IsCodeless rest) (ended : Bool) :
    lexemes ended ("...".toList ++ rest) = [(.lineContinuation, "...".toList ++ rest)] := by
  have hall : continuation ("...".toList ++ rest) = "...".toList ++ rest := by
    show (if (rest.dropWhile isIndent).head? = some '#' then _
      else "...".toList ++ rest.takeWhile isIndent) = _
    split
    · rfl
    · rename_i hhash
      have hblanks : rest.dropWhile isIndent = [] := by
        cases hdrop : rest.dropWhile isIndent with
        | nil => rfl
        | cons c after =>
          rw [IsCodeless, hdrop] at h
          rw [hdrop, h c rfl] at hhash
          exact absurd rfl hhash
      rw [List.takeWhile_eq_self_iff.2 (List.dropWhile_eq_nil_iff.1 hblanks)]
  have hlexemes : lexemes ended ("...".toList ++ (rest ++ [])) =
      (.lineContinuation, "...".toList ++ rest) :: lexemes true [] :=
    lexemes_dots (by rwa [List.append_nil]) ended
  rwa [List.append_nil, lexemes, if_pos rfl] at hlexemes

/-- Otherwise it takes in the blanks. -/
theorem lexemes_dots_blanks {run after : List Char} (hrun : ∀ c ∈ run, isIndent c = true)
    {c : Char} (hc : c ∉ separators) (ended : Bool) :
    lexemes ended ("...".toList ++ (run ++ c :: after)) =
      (.lineContinuation, "...".toList ++ run) :: lexemes false (c :: after) := by
  obtain ⟨hindent, hhash⟩ := not_mem_separators_iff.1 hc
  have hstop : ∀ x ∈ (c :: after).head?, isIndent x = false := by simpa using hindent
  have hshort : continuation ("...".toList ++ (run ++ c :: after)) = "...".toList ++ run := by
    show (if ((run ++ c :: after).dropWhile isIndent).head? = some '#' then _
      else "...".toList ++ (run ++ c :: after).takeWhile isIndent) = _
    rw [dropWhile_append_left hstop, takeWhile_append_left hstop,
      List.dropWhile_eq_nil_iff.2 hrun, List.takeWhile_eq_self_iff.2 hrun, if_neg]
    simpa using hhash
  rw [lexemes_dots hshort, lexemes_cons rfl, lexemes_cons rfl]

/-! ## Lines with a trailer -/

theorem IsCodeless.append {text tail : List Char} (htext : IsCodeless text)
    (htail : IsCodeless tail) : IsCodeless (text ++ tail) := by
  rw [IsCodeless, List.dropWhile_append]
  split
  · exact htail
  · rename_i hne
    cases hdrop : text.dropWhile isIndent with
    | nil => simp [hdrop] at hne
    | cons c rest =>
      rw [IsCodeless, hdrop] at htext
      simpa using htext

/-- A text with code is blanks and then something that does not start a comment. -/
theorem exists_code_of_not_codeless {text : List Char} (h : ¬IsCodeless text) :
    ∃ run c rest, text = run ++ c :: rest ∧ (∀ x ∈ run, isIndent x = true) ∧ c ∉ separators := by
  have hnot := List.head?_dropWhile_not isIndent text
  have hsplit : text.takeWhile isIndent ++ text.dropWhile isIndent = text :=
    List.takeWhile_append_dropWhile
  cases hdrop : text.dropWhile isIndent with
  | nil => simp [IsCodeless, hdrop] at h
  | cons c rest =>
    rw [hdrop] at hnot hsplit
    refine ⟨_, c, rest, hsplit.symm, fun x => List.mem_takeWhile_imp, ?_⟩
    rw [not_mem_separators_iff]
    refine ⟨hnot, ?_⟩
    rintro rfl
    simp [IsCodeless, hdrop] at h

/-- The text does to a document what it does with the tail added to it, if that can be tracked. -/
def Ignores (t : Tracker) (tab indentation : Nat) (tail text : List Char) : Prop :=
  ∀ d column e, t.trackOffers tab indentation d column (lexemes false (text ++ tail)) = .ok e →
    t.trackOffers tab indentation d column (lexemes false text) = .ok e

section Ignores

variable {t : Tracker} {tab indentation : Nat}

/-- What comes after an offer may be exchanged. -/
theorem trackOffers_cons_mono {offers others : List Offer} {e : Document}
    (h : ∀ d column, t.trackOffers tab indentation d column offers = .ok e →
      t.trackOffers tab indentation d column others = .ok e) {offer : Offer} {d : Document}
    {column : Except Fault Nat}
    (hoffers : t.trackOffers tab indentation d column (offer :: offers) = .ok e) :
    t.trackOffers tab indentation d column (offer :: others) = .ok e := by
  obtain ⟨kind, text⟩ := offer
  rw [Tracker.trackOffers, bind_eq_ok_iff] at hoffers ⊢
  obtain ⟨start, hstart, hoffers⟩ := hoffers
  obtain ⟨next, hnext, hoffers⟩ := bind_eq_ok_iff.1 hoffers
  exact ⟨start, hstart, bind_eq_ok_iff.2 ⟨next, hnext, h _ _ hoffers⟩⟩

variable {tail : List Char} (htail : IsTrailer tail)

theorem Ignores.blanks {run rest : List Char} {c : Char} (hrun : ∀ x ∈ run, isIndent x = true)
    (hc : c ∉ separators) (h : Ignores t tab indentation tail (c :: rest)) :
    Ignores t tab indentation tail (run ++ c :: rest) := by
  intro d column e hlonger
  have hindent : isIndent c = false := (not_mem_separators_iff.1 hc).1
  rw [List.append_assoc, List.cons_append,
    trackOffers_blanks _ _ _ _ _ hrun (by simpa using hindent)] at hlonger
  rw [trackOffers_blanks _ _ _ _ _ hrun (by simpa using hindent)]
  exact h d _ e hlonger

theorem Ignores.dots {run rest : List Char} {c : Char} (hrun : ∀ x ∈ run, isIndent x = true)
    (hc : c ∉ separators) (h : Ignores t tab indentation tail (c :: rest)) :
    Ignores t tab indentation tail ("...".toList ++ (run ++ c :: rest)) := by
  intro d column e hlonger
  rw [List.append_assoc, List.append_assoc, List.cons_append, lexemes_dots_blanks hrun hc]
    at hlonger
  rw [lexemes_dots_blanks hrun hc]
  exact trackOffers_cons_mono (fun d column => h d column e) hlonger

include htail

/-- Where there is no code, more of this ends the line just the same. -/
theorem ignores_codeless {text : List Char} (htext : IsCodeless text) :
    Ignores t tab indentation tail text := by
  intro d column e hlonger
  rw [trackOffers_codeless _ _ _ _ _ (htext.append htail.codeless), bind_eq_ok_iff] at hlonger
  rw [trackOffers_codeless _ _ _ _ _ htext, bind_eq_ok_iff]
  obtain ⟨last, hlast, hend⟩ := hlonger
  simp only [bind_eq_ok_iff, columnAfter_append] at hlast
  obtain ⟨start, hstart, middle, hmiddle, -⟩ := hlast
  -- the end of a line does not look at its own column
  exact ⟨middle, bind_eq_ok_iff.2 ⟨start, hstart, hmiddle⟩, hend⟩

/-- A line continuation at the end remains one token at the same place. -/
theorem ignores_dots {text : List Char} (htext : IsCodeless text) :
    Ignores t tab indentation tail ("...".toList ++ text) := by
  intro d column e hlonger
  rw [List.append_assoc, lexemes_dots_codeless (htext.append htail.codeless)] at hlonger
  rw [lexemes_dots_codeless htext]
  exact hlonger

theorem Ignores.lexeme {c : Char} {rest after : List Char} (hc : c ∉ separators)
    (hdots : ¬"...".toList <+: c :: rest) (hafter : c :: rest = (lexeme c rest).2 ++ after)
    (hlexeme : IsLexeme (lexeme c rest).1 (lexeme c rest).2 after)
    (h : Ignores t tab indentation tail after) : Ignores t tab indentation tail (c :: rest) := by
  intro d column e hlonger
  have hends := hlexeme.endsLine_eq_false (hafter ▸ hdots)
  rw [List.cons_append, lexemes, lexeme_append htail hc hdots, hends, ← List.cons_append, hafter,
    List.append_assoc, List.drop_left] at hlonger
  rw [lexemes, hends, hafter, List.drop_left]
  exact trackOffers_cons_mono (fun d column => h d column e) hlonger

/-- **A trailer is ignored**, whatever it comes after. -/
theorem ignores_trailer (text : List Char) : Ignores t tab indentation tail text := by
  induction hn : text.length using Nat.strong_induction_on generalizing text with
  | _ n ih =>
    by_cases hcode : IsCodeless text
    · exact ignores_codeless htail hcode
    obtain ⟨run, c, rest, rfl, hrun, hc⟩ := exists_code_of_not_codeless hcode
    refine .blanks hrun hc ?_
    by_cases hdots : "...".toList <+: c :: rest
    · obtain ⟨more, hmore⟩ := hdots
      rw [← hmore] at hn ⊢
      by_cases hmoreCode : IsCodeless more
      · exact ignores_dots htail hmoreCode
      · obtain ⟨blanks, next, after, rfl, hblanks, hnext⟩ := exists_code_of_not_codeless hmoreCode
        refine .dots hblanks hnext (ih _ ?_ _ rfl)
        have hthree : "...".toList.length = 3 := rfl
        simp only [List.length_append] at hn
        omega
    · obtain ⟨after, hafter, hlexeme⟩ := starts_lexeme c rest
      refine .lexeme htail hc hdots hafter hlexeme (ih _ ?_ _ rfl)
      have hpos := length_lexeme_pos c rest
      rw [hafter, List.length_append, List.length_append] at hn
      omega

end Ignores

/-! ## Lines -/

/-- A line that is not blank has its indentation with a tail and without. -/
theorem indentationWidth_append {line : List Char} (hline : ∃ c ∈ line, isIndent c = false)
    (tail : List Char) (tab : Nat) :
    indentationWidth (line ++ tail) tab = indentationWidth line tab := by
  rw [indentationWidth, indentationWidth, List.takeWhile_append, if_neg]
  intro hlength
  obtain ⟨c, hc, hindent⟩ := hline
  rw [← (List.takeWhile_prefix isIndent).eq_of_length hlength] at hc
  exact Bool.false_ne_true (hindent.symm.trans (List.mem_takeWhile_imp hc))

theorem outcome_advanceLine_eq_of_not_ending {m : Mode}
    (hrules : m.rules = entries.map Rule.ofEntry)
    (hmarker : m.config.continuationMarker = LineScan.defaultMarker) {line : List Char}
    (hne : line ≠ []) (hline : ∀ c ∈ line, isEnding c = false) (d : Document) (number : Nat) :
    (m.advanceLine d number line).outcome =
      indentationWidth line m.config.tabSize >>= fun indentation =>
        m.tracker.trackOffers (max m.config.tabSize 1) indentation d (.ok 0)
          (lexemes false line) := by
  have htrim := trimEnding_eq_self hline
  have hnewline : '\n' ∉ trimEnding line := by
    rw [htrim]
    intro hmem
    simpa [isEnding] using hline _ hmem
  rw [outcome_advanceLine_eq hrules hmarker hnewline, htrim, List.isEmpty_eq_false_iff.2 hne]

/-- **Trailing blanks and comments do not matter.**  Take the mode of Equelle with the standard
marker of line continuations and any other settings, a consistent document, a line with something
else than blanks and tabs, and blanks with or without a comment after them that has no quote.  With
these added to it, the line can be tracked unless a sum passes its bound, and no sum does if there
is a level for each character and the line is not too long for the columns.  Then the line alone
leads to the same document. -/
theorem advanceLine_append_trailer {config : Config} {m : Mode} (hm : modeWith config = .ok m)
    (hmarker : config.continuationMarker = Config.standard.continuationMarker) {d : Document}
    (hd : d.Consistent) (number : Nat) {line tail : List Char}
    (hending : ∀ c ∈ line, isEnding c = false) (hline : ∃ c ∈ line, isIndent c = false)
    (htail : IsTrailer tail) :
    Mode.CompletesIf
        (m.Narrow (line ++ tail).length ∧ d.level + (line ++ tail).length < columnBound)
        (m.advanceLine d number (line ++ tail)).outcome ∧
      ((m.advanceLine d number (line ++ tail)).outcome ≠ .error .overflow →
        (m.advanceLine d number (line ++ tail)).outcome =
          (m.advanceLine d number line).outcome) := by
  obtain ⟨hrules, rfl⟩ := rules_config_of_modeWith hm
  have hkeep : KeepText m.rules := hrules ▸ keepText_ofEntry entries
  have hall : ∀ c ∈ line ++ tail, isEnding c = false := by
    rw [List.forall_mem_append]
    refine ⟨hending, fun c hc => ?_⟩
    have hchars := htail.chars c hc
    simp_all [isEnding]
  have hsafe := Mode.safe_advanceLine hkeep.keepEmpty hd number (line ++ tail)
  refine ⟨⟨fun fault => hsafe.eq_overflow, fun hfits => ?_⟩, fun hfits => ?_⟩
  · have hlength : (trimEnding (line ++ tail)).length ≤ (line ++ tail).length :=
      (List.rdropWhile_prefix _ _).length_le
    obtain ⟨e, he, -⟩ := Mode.exists_of_advanceLine_narrow hfits.1 hlength hkeep.keepEmpty hd
      (by omega) number
    exact ⟨e, he⟩
  · have hne : line ≠ [] := by
      obtain ⟨c, hc, -⟩ := hline
      exact List.ne_nil_of_mem hc
    obtain ⟨e, he, -⟩ := hsafe.exists_eq_ok hfits
    rw [he, eq_comm, outcome_advanceLine_eq_of_not_ending hrules hmarker hne hending,
      bind_eq_ok_iff]
    rw [outcome_advanceLine_eq_of_not_ending hrules hmarker (by simp [hne]) hall,
      indentationWidth_append hline, bind_eq_ok_iff] at he
    obtain ⟨indentation, hindentation, hrun⟩ := he
    exact ⟨indentation, hindentation, ignores_trailer htail line d _ e hrun⟩

/-- A line that ends with a backslash after a quote that is never closed, and a comment with a brace
and three dots. -/
theorem advanceLine_append_trailer_backslash :
    let line := "  a \x7b \"b\\".toList
    let tail := " \t# \x7d ...".toList
    (∀ c ∈ line, isEnding c = false) ∧ (∃ c ∈ line, isIndent c = false) ∧ IsTrailer tail ∧
      ∃ m e, mode = .ok m ∧ (m.advanceLine .start 0 (line ++ tail)).outcome = .ok e ∧
        (m.advanceLine .start 0 line).outcome = .ok e ∧ e.columns = [0, 4] := by
  intro line tail
  have hending : ∀ c ∈ line, isEnding c = false := by
    have hall : line.all (!isEnding ·) = true := by decide
    simpa using hall
  have hline : ∃ c ∈ line, isIndent c = false := ⟨'a', by decide, rfl⟩
  have htail : IsTrailer tail := by decide
  obtain ⟨hcompletes, hsame⟩ := advanceLine_append_trailer mode_eq rfl Document.consistent_start 0
    hending hline htail
  obtain ⟨e, he⟩ := hcompletes.exists_eq_ok (by decide +kernel)
  have hshort := (hsame (he.trans_ne (by simp))).symm.trans he
  have hstate : (standardMode.advanceLine .start 0 line).outcome =
      .ok ⟨1, [0, 4], true, true, false, 0⟩ := by decide +kernel
  refine ⟨hending, hline, htail, standardMode, e, mode_eq, he, hshort, ?_⟩
  rw [← Except.ok.inj (hstate.symm.trans hshort)]

end EditorMode.Equelle
