import EditorMode.Proofs.Line

/-!
# The tokens tile the line

The tokens of a line follow each other without gaps, cover the line, and know their place in it:
line number, byte offset and visual column (`LineScan.tokens_tile`).  This is so for every grammar
whose rules keep the text that they match.

The proof follows the cursor.  A token is `At` a cursor if it says where the cursor is and has the
text that follows there; tokens are `TiledFrom` a cursor if each one is at the cursor that the ones
before it lead to.
-/

set_option autoImplicit false

namespace EditorMode

open Text

/-! ## Tiles -/

/-- The part of a line between two byte offsets. -/
def cutBytes (line : List Char) (range : Nat × Nat) : Except Fault (List Char) := do
  let before ← takeBytes line range.1
  let through ← takeBytes line range.2
  return through.drop before.length

/-- The bytes of a middle part cut that part out. -/
theorem cutBytes_append (before text after : List Char) :
    cutBytes (before ++ text ++ after) (byteLength before, byteLength before + byteLength text) =
      .ok text := by
  rw [cutBytes, List.append_assoc, takeBytes_byteLength, ← List.append_assoc, ← byteLength_append,
    takeBytes_byteLength]
  exact congrArg _ List.drop_left

/-- The token is a piece of the text, with the right line number and column. -/
structure IsTile (text : List Char) (number tabSize : Nat) (token : Token) : Prop where
  range : token.range = .ok (token.offset, token.offset + byteLength token.text)
  within : token.offset + byteLength token.text ≤ byteLength text
  cut : cutBytes text (token.offset, token.offset + byteLength token.text) = .ok token.text
  line : token.line = number
  column : visualColumn text token.offset tabSize = .ok token.column

/-- Each token starts where the one before it ends, the first one at `first`, and the last one ends
at `last`. -/
def Consecutive (first last : Nat) : List Token → Prop
  | [] => first = last
  | token :: tokens =>
    token.offset = first ∧ Consecutive (first + byteLength token.text) last tokens

/-! ## Tokens at cursors -/

/-- The token is what follows the cursor. -/
structure Token.At (token : Token) (c : Cursor) : Prop where
  offset : token.offset = c.position
  line : token.line = c.line
  column : c.column = .ok token.column
  text : token.text <+: c.rest

/-- Each token is at the cursor that the ones before it lead to, and the last one leads to the end
of the line. -/
inductive TiledFrom : Cursor → List Token → Prop
  | nil {c : Cursor} (hend : c.rest = []) : TiledFrom c []
  | cons {c : Cursor} {token : Token} {tokens : List Token} (hat : token.At c)
    (htokens : TiledFrom (c.advance token.text.length) tokens) : TiledFrom c (token :: tokens)

theorem Token.At.take_length {token : Token} {c : Cursor} (h : token.At c) :
    c.rest.take token.text.length = token.text :=
  (List.prefix_iff_eq_take.1 h.text).symm

/-- A token at a cursor is a tile, if the length of the line can be counted. -/
theorem Token.At.isTile {token : Token} {c : Cursor} (h : token.At c)
    (hlength : byteLength c.text < offsetBound) : IsTile c.text c.line c.tabSize token := by
  obtain ⟨after, hafter⟩ := h.text
  have htext : c.text = c.before ++ token.text ++ after := by
    rw [Cursor.text, ← hafter, List.append_assoc]
  have hposition : token.offset = byteLength c.before := h.offset.trans c.position_eq
  have hwithin : token.offset + byteLength token.text ≤ byteLength c.text := by
    rw [htext, byteLength_append, byteLength_append, hposition]
    exact Nat.le_add_right _ _
  refine ⟨?range, hwithin, ?cut, h.line, ?column⟩
  case range =>
    rw [Token.range, addBelow_of_lt (Nat.lt_of_le_of_lt hwithin hlength)]
    rfl
  case cut => rw [htext, hposition, cutBytes_append]
  case column => rw [h.offset, ← c.column_eq_visualColumn, h.column]

section TiledFrom

variable {c : Cursor} {tokens : List Token}

/-- Tiles follow each other without a gap up to the end of the line. -/
theorem TiledFrom.consecutive (h : TiledFrom c tokens) :
    Consecutive c.position (byteLength c.text) tokens := by
  induction h with
  | nil hend => exact Cursor.position_of_rest_eq_nil _ hend
  | @cons c token tokens hat _ ih =>
    refine ⟨hat.offset, ?_⟩
    rwa [Cursor.position_advance, hat.take_length, Cursor.text_advance] at ih

/-- The texts of the tiles are the rest of the line. -/
theorem TiledFrom.flatMap_text (h : TiledFrom c tokens) : tokens.flatMap Token.text = c.rest := by
  induction h with
  | nil hend => exact hend.symm
  | @cons c token tokens hat _ ih =>
    rw [List.flatMap_cons, ih, Cursor.rest_advance]
    exact List.prefix_iff_eq_append.1 hat.text

theorem TiledFrom.isTile (h : TiledFrom c tokens) (hlength : byteLength c.text < offsetBound) :
    ∀ token ∈ tokens, IsTile c.text c.line c.tabSize token := by
  induction h with
  | nil => exact List.forall_mem_nil _
  | @cons c token tokens hat _ ih =>
    rw [List.forall_mem_cons]
    refine ⟨hat.isTile hlength, ?_⟩
    rw [Cursor.text_advance] at ih
    exact ih hlength

end TiledFrom

/-! ## The tokens of the recursion -/

/-- The offsets and the columns of the line are not too large. -/
structure Cursor.Fits (c : Cursor) : Prop where
  length : byteLength c.text < offsetBound
  columns : ∃ width, columnAfter (max c.tabSize 1) 0 c.text = .ok width

theorem Cursor.Fits.advance {c : Cursor} (h : c.Fits) (count : Nat) : (c.advance count).Fits := by
  constructor
  · rw [text_advance]
    exact h.length
  · rw [text_advance]
    exact h.columns

/-- Where the columns of the whole line can be counted, those up to the cursor can be. -/
theorem Cursor.Fits.exists_column {c : Cursor} (h : c.Fits) : ∃ column, c.column = .ok column := by
  obtain ⟨width, hwidth⟩ := h.columns
  rw [c.column_eq]
  rw [Cursor.text, Cursor.before, columnAfter_append] at hwidth
  cases hcolumn : columnAfter (max c.tabSize 1) 0 c.behind.reverse with
  | error fault =>
    rw [hcolumn] at hwidth
    cases hwidth
  | ok column => exact ⟨column, rfl⟩

theorem Cursor.Fits.offset_eq {c : Cursor} (h : c.Fits) : c.offset = c.position := by
  have hlength := h.length
  rw [Cursor.text, byteLength_append] at hlength
  refine Nat.mod_eq_of_lt (Nat.lt_of_le_of_lt ?_ hlength)
  rw [c.position_eq]
  exact Nat.le_add_right _ _

/-- The tokens have been read without a fault, and they tile the line from the cursor on. -/
def LineTokens.Complete (c : Cursor) (read : LineTokens) : Prop :=
  (∃ stop, read.stop = .ok stop) ∧ TiledFrom c read.tokens

theorem LineTokens.complete_emit {c : Cursor} (hfits : c.Fits) {token : Token} {more : LineTokens}
    (htext : token.text <+: c.rest) (hline : token.line = c.line)
    (hmore : Complete (c.advance token.text.length) more) :
    Complete c (.emit (c.place token) more) := by
  obtain ⟨column, hcolumn⟩ := hfits.exists_column
  have hplace : c.place token = .ok (token.placed c.offset column) := by
    rw [Cursor.place, hcolumn]
    rfl
  have hat : (token.placed c.offset column).At c := ⟨hfits.offset_eq, hline, hcolumn, htext⟩
  rw [hplace]
  exact ⟨hmore.1, .cons hat hmore.2⟩

theorem text_continued (marker : String) (token : Token) :
    (continued marker token).text = token.text := by
  rw [continued]
  split <;> rfl

theorem line_continued (marker : String) (token : Token) :
    (continued marker token).line = token.line := by
  rw [continued]
  split <;> rfl

/-- The rules make tokens of one kind each, with the text that they match. -/
def KeepText (rules : List Rule) : Prop :=
  ∀ rule ∈ rules, ∃ pattern kind, rule = Rule.ofKind pattern kind

/-- Rules that keep their text keep none if there is none. -/
theorem KeepText.keepEmpty {rules : List Rule} (h : KeepText rules) : LineScan.KeepEmpty rules := by
  intro rule hrule rest _ line
  obtain ⟨pattern, kind, rfl⟩ := h rule hrule
  rfl

theorem KeepText.action_of_select {rules : List Rule} (h : KeepText rules) {rest : List Char}
    {s : Selection} (hselect : select rules rest = some s) :
    (∃ kind, s.rule.action = Token.new kind) ∧ s.text <+: rest := by
  obtain ⟨hmem, hmatched⟩ := mem_and_matched?_of_select hselect
  obtain ⟨pattern, kind, hrule⟩ := h s.rule hmem
  exact ⟨⟨kind, by rw [hrule]; rfl⟩, _, Pattern.append_drop_of_matched? hmatched⟩

theorem LineTokens.complete_emit_errorToken {c : Cursor} (hrest : c.rest ≠ []) (hfits : c.Fits)
    {more : LineTokens} (hmore : Complete (c.advance 1) more) :
    Complete c (.emit c.errorToken more) := by
  have hone : (Token.new .error (c.rest.take 1) c.line).text.length = 1 := by
    show (c.rest.take 1).length = 1
    rw [List.length_take, Nat.min_eq_left (List.length_pos_iff.2 hrest)]
  exact complete_emit hfits (List.take_prefix 1 _) rfl (by rwa [hone])

/-- Where nothing is left of a line, a rule can only make the token that is made without one. -/
theorem KeepText.endToken_eq {rules : List Rule} (hrules : KeepText rules) {c : Cursor}
    (hrest : c.rest = []) : c.endToken rules = c.place (.new .endOfLine [] c.line) := by
  rw [Cursor.endToken]
  congr 1
  cases hselect : select rules c.rest with
  | none => rfl
  | some s =>
    obtain ⟨⟨kind, hkind⟩, htext⟩ := hrules.action_of_select hselect
    rw [hrest, List.prefix_nil] at htext
    show (if (s.rule.action s.text c.line).kind = .endOfLine then _ else _ : Token) = _
    rw [hkind, htext]
    split
    · rename_i hend
      rw [show kind = .endOfLine from hend]
    · rfl

theorem LineTokens.complete_emit_endToken {rules : List Rule} (hrules : KeepText rules) {c : Cursor}
    (hrest : c.rest = []) (hfits : c.Fits) :
    Complete c (.emit (c.endToken rules) ⟨[], .ok c⟩) := by
  rw [hrules.endToken_eq hrest]
  refine complete_emit hfits List.nil_prefix rfl ?_
  rw [Token.new, List.length_nil, Cursor.advance_zero]
  exact ⟨⟨c, rfl⟩, .nil hrest⟩

/-- **The recursion reads the whole line**, and its tokens tile the line. -/
theorem complete_plainTokens {rules : List Rule} (hrules : KeepText rules) (marker : String)
    (ended : Bool) {c : Cursor} (hfits : c.Fits) :
    LineTokens.Complete c (plainTokens rules marker ended c) := by
  fun_induction plainTokens rules marker ended c with
  | case1 c hrest => exact ⟨⟨c, rfl⟩, .nil hrest⟩
  | case2 ended c hrest => exact LineTokens.complete_emit_endToken hrules hrest hfits
  | case3 ended c hrest hselect ih =>
    exact LineTokens.complete_emit_errorToken hrest hfits (ih (hfits.advance 1))
  | case4 ended c hrest s hselect htext ih =>
    obtain ⟨⟨kind, hkind⟩, -⟩ := hrules.action_of_select hselect
    have hempty : (s.rule.action [] c.line).text = [] := by rw [hkind]; rfl
    have hline : (s.rule.action [] c.line).line = c.line := by rw [hkind]; rfl
    refine LineTokens.complete_emit hfits (by rw [hempty]; exact List.nil_prefix) hline ?_
    rw [hempty, List.length_nil, Cursor.advance_zero]
    exact LineTokens.complete_emit_errorToken hrest hfits (ih (hfits.advance 1))
  | case5 ended c hrest s hselect htext token ih =>
    obtain ⟨⟨kind, hkind⟩, hprefix⟩ := hrules.action_of_select hselect
    have htoken : token.text = s.text ∧ token.line = c.line := by
      rw [text_continued, line_continued, hkind]
      exact ⟨rfl, rfl⟩
    refine LineTokens.complete_emit hfits (htoken.1 ▸ hprefix) htoken.2 ?_
    rw [htoken.1]
    exact ih (hfits.advance _)

/-! ## The tokens of the scan -/

theorem byteLength_trimEnding_le (text : List Char) :
    byteLength (trimEnding text) ≤ byteLength text := by
  have hprefix : trimEnding text <+: text := by
    rw [trimEnding, ← List.reverse_suffix, List.reverse_reverse]
    exact List.dropWhile_suffix _
  obtain ⟨ending, hending⟩ := hprefix
  rw [← hending, byteLength_append, hending]
  exact Nat.le_add_right _ _

theorem visualColumn_max_one (text : List Char) (offset tabSize : Nat) :
    visualColumn text offset (max tabSize 1) = visualColumn text offset tabSize := by
  rw [visualColumn, visualColumn, Nat.max_assoc, Nat.max_self]

/-- The scan of a line that fits is complete, also if the line is empty. -/
theorem LineScan.complete_scan_start {rules : List Rule} (hrules : KeepText rules) (marker : String)
    {cursor : Cursor} (hfits : cursor.Fits) :
    LineTokens.Complete cursor (start cursor rules marker).scan.plain := by
  by_cases htext : cursor.text = []
  · -- an empty line has no tokens, not even one for its end
    have hfinished : (start cursor rules marker).finished = true := List.isEmpty_iff.2 htext
    rw [scan, plain_run_of_next_eq_none (next_of_finished hfinished)]
    exact ⟨⟨cursor, rfl⟩, .nil (List.append_eq_nil_iff.1 htext).2⟩
  · rw [plain_scan_start hrules.keepEmpty marker htext]
    exact complete_plainTokens hrules marker false hfits

/-- **The tokens tile the line**: they follow each other from the start of the line to its end,
their texts make up the line without its line ending, and each of them has the right place. -/
theorem LineScan.tokens_tile {rules : List Rule} (hrules : KeepText rules) (marker : String)
    {text : List Char} (hlength : byteLength text < offsetBound) (line tabSize : Nat) {width : Nat}
    (hwidth : columnAfter (max tabSize 1) 0 (trimEnding text) = .ok width) :
    let scanned := (start (Cursor.start text line tabSize) rules marker).scan
    let tokens := scanned.steps.map Step.token
    (∃ stop, scanned.outcome = .ok stop) ∧
      Consecutive 0 (byteLength (trimEnding text)) tokens ∧
      tokens.flatMap Token.text = trimEnding text ∧
      ∀ token ∈ tokens, IsTile (trimEnding text) line tabSize token := by
  intro scanned tokens
  have hlength' : byteLength (trimEnding text) < offsetBound :=
    Nat.lt_of_le_of_lt (byteLength_trimEnding_le text) hlength
  have hfits : (Cursor.start text line tabSize).Fits := by
    refine ⟨hlength', width, ?_⟩
    show columnAfter (max (max tabSize 1) 1) 0 (trimEnding text) = .ok width
    rw [Nat.max_assoc, Nat.max_self, hwidth]
  obtain ⟨⟨stop, hstop⟩, htiled⟩ := complete_scan_start hrules marker hfits
  refine ⟨?_, htiled.consecutive, htiled.flatMap_text, fun token htoken => ?_⟩
  · cases houtcome : scanned.outcome with
    | error fault =>
      have hfault : scanned.plain.stop = .error fault := by
        rw [Scanned.plain, houtcome]
        rfl
      cases hstop.symm.trans hfault
    | ok s => exact ⟨s, rfl⟩
  · obtain ⟨hrange, hwithin, hcut, hline, hcolumn⟩ := htiled.isTile hlength' token htoken
    exact ⟨hrange, hwithin, hcut, hline, (visualColumn_max_one _ _ _).symm.trans hcolumn⟩

/-- A tab, a character of two bytes that no rule matches and one of two columns, with a rule that
matches nothing. -/
theorem LineScan.tokens_tile_wide :
    let rules : List Rule := [.literal "" (.named "EMPTY"), .literal "世" (.named "WORLD")]
    let text := "\té世\r\n".toList
    let scanned := (start (Cursor.start text 7 4) rules "...").scan
    KeepText rules ∧ byteLength text < offsetBound ∧
      columnAfter (max 4 1) 0 (trimEnding text) = .ok 7 ∧
      scanned.steps.map (fun step => (step.token.offset, step.token.column)) =
        [(0, 0), (0, 0), (1, 4), (1, 4), (3, 5), (6, 7)] ∧
      Consecutive 0 6 (scanned.steps.map Step.token) := by
  have hrules : KeepText [.literal "" (.named "EMPTY"), .literal "世" (.named "WORLD")] := by
    intro rule hrule
    rcases List.mem_pair.1 hrule with rfl | rfl
    · exact ⟨_, _, rfl⟩
    · exact ⟨_, _, rfl⟩
  have hlength : byteLength "\té世\r\n".toList < offsetBound := by decide
  have hwidth : columnAfter (max 4 1) 0 (trimEnding "\té世\r\n".toList) = .ok 7 := by
    decide +kernel
  exact ⟨hrules, hlength, hwidth, by decide +kernel,
    (tokens_tile hrules "..." hlength 7 4 hwidth).2.1⟩

end EditorMode
