import EditorMode.Proofs.Equelle.Lexemes
import EditorMode.Proofs.Mode.Suggested
import EditorMode.Proofs.Tracking.Alike

/-!
# Lines by their lexemes

What a line does to a document depends on its lexemes only: on their kinds, and on the columns at
which they stand.  `Tracker.trackOffers` moves a document along lexemes and adds up the columns on
the way.  The cursor, the byte offsets and the numbers of lines drop out, and so do the tokens: a
line of Equelle is its indentation and one run along its lexemes (`outcome_advanceLine_eq`).

A column is asked for where a lexeme stands and not where it ends.  So the last lexeme may reach
beyond all bounds if it continues the line, but not if an end of line follows.
-/

set_option autoImplicit false

namespace EditorMode

open Text

/-! ## Tokens -/

/-- Moves the state of a document along the tokens of a line with this indentation. -/
def LineTokens.track (read : LineTokens) (t : Tracker) (indentation : Nat) (d : Document) :
    Except Fault Document := do
  let d ← (t.trackRun d (read.tokens.map (·, indentation))).outcome
  let _ ← read.stop
  return d

theorem LineTokens.track_emit (t : Tracker) (indentation : Nat) (token : Except Fault Token)
    (more : LineTokens) (d : Document) :
    (emit token more).track t indentation d =
      token >>= fun token => t.step d token indentation >>= more.track t indentation := by
  cases token with
  | error fault => rfl
  | ok token =>
    simp only [track, emit, List.map_cons, Tracker.trackRun, Logged.outcome_bind,
      Tracker.outcome_track, bind_assoc, ok_bind]
    rfl

/-! ## Offers -/

/-- Moves the state of a document along offers, the first of which stands at the column. -/
def Tracker.trackOffers (t : Tracker) (tab indentation : Nat) (d : Document)
    (column : Except Fault Nat) : List Offer → Except Fault Document
  | [] => .ok d
  | (kind, text) :: offers => do
    let column ← column
    let d ← t.step d ⟨kind, text, 0, 0, column⟩ indentation
    t.trackOffers tab indentation d (columnAfter tab column text) offers

/-- A step looks at the kind and at the column of a token. -/
theorem Tracker.step_congr (t : Tracker) (d : Document) {token other : Token}
    (hkind : token.kind = other.kind) (hcolumn : token.column = other.column) (indentation : Nat) :
    t.step d token indentation = t.step d other indentation := by
  simp only [step, note, hkind, hcolumn]

/-- Tokens are tracked by what they offer, if they make up the rest of the line. -/
theorem Cursor.track_placeAll (t : Tracker) (indentation : Nat) {c : Cursor} {offers : List Offer}
    (hrest : offers.flatMap Prod.snd = c.rest) (d : Document) :
    (c.placeAll offers).track t indentation d =
      t.trackOffers (max c.tabSize 1) indentation d c.column offers := by
  induction offers generalizing c d with
  | nil => rfl
  | cons offer offers ih =>
    obtain ⟨kind, text⟩ := offer
    rw [List.flatMap_cons] at hrest
    have hafter : offers.flatMap Prod.snd = (c.advance text.length).rest := by
      rw [rest_advance, ← hrest, List.drop_left]
    have htake : c.rest.take text.length = text := by rw [← hrest, List.take_left]
    rw [placeAll, LineTokens.track_emit, Tracker.trackOffers, place]
    cases hcolumn : c.column with
    | error fault => rfl
    | ok column =>
      have hnext : (c.advance text.length).column = columnAfter (max c.tabSize 1) column text := by
        show (c.column >>= (columnAfter (max c.tabSize 1) · (c.rest.take text.length))) = _
        rw [hcolumn, htake, ok_bind]
      have hstep : t.step d ((Token.new kind text c.line).placed c.offset column) indentation =
          t.step d ⟨kind, text, 0, 0, column⟩ indentation := t.step_congr d rfl rfl indentation
      show (t.step d _ indentation >>= _) = (t.step d _ indentation >>= _)
      rw [hstep]
      refine bind_congr fun d => ?_
      rw [ih hafter, hnext]
      rfl

theorem Tracker.trackOffers_endOfLine (t : Tracker) (tab indentation : Nat) (d : Document)
    (column : Except Fault Nat) :
    t.trackOffers tab indentation d column [(.endOfLine, [])] =
      column >>= fun last => t.step d (.endOfLine 0 0 last) indentation := by
  rw [trackOffers]
  refine bind_congr fun last => ?_
  exact bind_pure _

section Inert

variable (t : Tracker) (tab indentation : Nat) (d : Document) {offers : List Offer}
  (hoffers : offers ≠ [])

include hoffers

/-- The column is asked for where the first of the offers stands. -/
theorem Tracker.trackOffers_error (fault : Fault) :
    t.trackOffers tab indentation d (.error fault) offers = .error fault := by
  obtain ⟨⟨kind, text⟩, more, rfl⟩ := List.exists_cons_of_ne_nil hoffers
  rfl

theorem Tracker.trackOffers_leaveLine (column : Except Fault Nat) :
    t.trackOffers tab indentation (leaveLine d) column offers =
      t.trackOffers tab indentation d column offers := by
  obtain ⟨⟨kind, text⟩, more, rfl⟩ := List.exists_cons_of_ne_nil hoffers
  simp only [trackOffers, ← t.step_of_alike (alike_leaveLine d)]

/-- **An inert offer moves the column and nothing else**, if there is another one after it. -/
theorem Tracker.trackOffers_of_isInert {kind : Kind} (hkind : kind.isInert = true)
    (text : List Char) (column : Except Fault Nat) :
    t.trackOffers tab indentation d column ((kind, text) :: offers) =
      t.trackOffers tab indentation d (column >>= (columnAfter tab · text)) offers := by
  cases column with
  | error fault => exact (t.trackOffers_error tab indentation d hoffers fault).symm
  | ok column =>
    rw [trackOffers, ok_bind, ok_bind, t.step_of_isInert d hkind, ok_bind,
      t.trackOffers_leaveLine tab indentation d hoffers]

end Inert

namespace Equelle

/-! ## Blanks and comments -/

theorem lexemes_false_ne_nil (text : List Char) : lexemes false text ≠ [] := by
  cases text with
  | nil => simp [lexemes]
  | cons c rest => exact lexemes_ne_nil (List.cons_ne_nil c rest) false

theorem lexemes_blanks {run rest : List Char} (hne : run ≠ [])
    (hrun : ∀ c ∈ run, isIndent c = true) (hrest : ∀ c ∈ rest.head?, isIndent c = false)
    (ended : Bool) : lexemes ended (run ++ rest) = (.named "WS", run) :: lexemes false rest := by
  have htake : (run ++ rest).takeWhile isIndent = run := by
    rw [takeWhile_append_left hrest, List.takeWhile_eq_self_iff]
    exact hrun
  obtain ⟨c, more, rfl⟩ := List.exists_cons_of_ne_nil hne
  have hlexeme : lexeme c (more ++ rest) = (.named "WS", c :: more) := by
    rw [← htake]
    rcases isIndent_iff.1 (hrun c List.mem_cons_self) with rfl | rfl
    · rfl
    · rfl
  rw [List.cons_append, lexemes_cons hlexeme, ← List.cons_append, List.drop_left]
  rfl

theorem lexemes_comment (text : List Char) (ended : Bool) :
    lexemes ended ('#' :: text) = [(.named "COMMENT", '#' :: text), (.endOfLine, [])] := by
  have hlexeme : lexeme '#' text = (.named "COMMENT", '#' :: text) := rfl
  rw [lexemes_cons hlexeme, List.drop_length, lexemes]
  rfl

/-- The text has nothing but blanks and a comment. -/
def IsCodeless (text : List Char) : Prop := ∀ c ∈ (text.dropWhile isIndent).head?, c = '#'

instance (text : List Char) : Decidable (IsCodeless text) :=
  decidable_of_iff ((text.dropWhile isIndent).head?.all (· == '#') = true)
    (by simp [IsCodeless, Option.all_eq_true])

section Run

variable (t : Tracker) (tab indentation : Nat) (d : Document) (column : Except Fault Nat)

/-- Blanks move the column and nothing else. -/
theorem trackOffers_blanks {run rest : List Char} (hrun : ∀ c ∈ run, isIndent c = true)
    (hrest : ∀ c ∈ rest.head?, isIndent c = false) :
    t.trackOffers tab indentation d column (lexemes false (run ++ rest)) =
      t.trackOffers tab indentation d (column >>= (columnAfter tab · run))
        (lexemes false rest) := by
  by_cases hne : run = []
  · subst hne
    cases column <;> rfl
  · have hmore := lexemes_false_ne_nil rest
    rw [lexemes_blanks hne hrun hrest, t.trackOffers_of_isInert _ _ _ hmore rfl]

/-- **What has no code ends the line and nothing else.** -/
theorem trackOffers_codeless {text : List Char} (h : IsCodeless text) :
    t.trackOffers tab indentation d column (lexemes false text) =
      column >>= (columnAfter tab · text) >>= fun last =>
        t.step d (.endOfLine 0 0 last) indentation := by
  have hrun : ∀ c ∈ text.takeWhile isIndent, isIndent c = true := fun c => List.mem_takeWhile_imp
  have hsplit : text.takeWhile isIndent ++ text.dropWhile isIndent = text :=
    List.takeWhile_append_dropWhile
  rw [← hsplit]
  rw [IsCodeless] at h
  generalize text.takeWhile isIndent = run at hrun
  generalize text.dropWhile isIndent = rest at h
  rcases rest with _ | ⟨c, comment⟩
  · rw [trackOffers_blanks t tab indentation d column hrun (by simp), List.append_nil, lexemes,
      if_neg Bool.false_ne_true, t.trackOffers_endOfLine]
  · obtain rfl := h c rfl
    rw [trackOffers_blanks t tab indentation d column hrun (by simp [isIndent]), lexemes_comment,
      t.trackOffers_of_isInert _ _ _ (by simp) rfl, t.trackOffers_endOfLine]
    simp only [columnAfter_append, bind_assoc]

end Run

/-! ## Lines -/

/-- The lexemes make up the line. -/
theorem flatMap_lexemes (ended : Bool) (text : List Char) :
    (lexemes ended text).flatMap Prod.snd = text := by
  induction text using lexemes_induction generalizing ended with
  | nil => cases ended <;> simp [lexemes]
  | append kind found after hlexeme hlexemes ih => rw [hlexemes, List.flatMap_cons, ih]

/-- **A line of Equelle is its indentation and a run along its lexemes.** -/
theorem outcome_advanceLine_eq {m : Mode} (hrules : m.rules = entries.map Rule.ofEntry)
    (hmarker : m.config.continuationMarker = LineScan.defaultMarker) {line : List Char}
    (hline : '\n' ∉ trimEnding line) (d : Document) (number : Nat) :
    (m.advanceLine d number line).outcome =
      indentationWidth line m.config.tabSize >>= fun indentation =>
        m.tracker.trackOffers (max m.config.tabSize 1) indentation d (.ok 0)
          (lexemes (trimEnding line).isEmpty (trimEnding line)) := by
  rw [Mode.outcome_advanceLine, Mode.indentation_scan]
  refine bind_congr fun indentation => ?_
  show (m.scan number line).scan.plain.track m.tracker indentation d = _
  have hstart : (Cursor.start line number m.config.tabSize).rest = trimEnding line := rfl
  rw [plain_scan_eq_placeAll hrules hmarker hline,
    Cursor.track_placeAll _ _ ((flatMap_lexemes _ _).trans hstart.symm)]
  show m.tracker.trackOffers (max (max m.config.tabSize 1) 1) _ _ _ _ = _
  rw [Nat.max_assoc, Nat.max_self]
  rfl

end Equelle

end EditorMode
