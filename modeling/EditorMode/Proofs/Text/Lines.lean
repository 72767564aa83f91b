import EditorMode.Text.Lines
import Mathlib.Data.List.DropRight

/-!
# Lines and pieces

The pieces of a text are easier to work with than its lines: pieces of a text that continues after a
newline are those of its two parts (`newlinePieces_append_newline`), and texts without newlines are
the pieces of what they are joined to (`newlinePieces_intercalate`).  Lines have neither property,
since a carriage return is dropped before a newline but not at the end of the text, and since an
empty piece is a line unless it is the last one.

What is left of a line without its line ending is that of its piece (`trimEnding_dropReturn`).
-/

set_option autoImplicit false

namespace EditorMode.Text

/-! ## Pieces -/

theorem newlinePieces_newline_cons (rest : List Char) :
    newlinePieces ('\n' :: rest) = [] :: newlinePieces rest := by
  simp [newlinePieces]

theorem newlinePieces_ne_nil (text : List Char) : newlinePieces text ≠ [] := by
  rcases text with _ | ⟨c, rest⟩
  · simp [newlinePieces]
  · rw [newlinePieces]
    split <;> simp

/-- A character that is no newline belongs to the first piece. -/
theorem newlinePieces_cons {c : Char} (hc : c ≠ '\n') {rest p : List Char} {ps : List (List Char)}
    (h : newlinePieces rest = p :: ps) : newlinePieces (c :: rest) = (c :: p) :: ps := by
  rw [newlinePieces, h, beq_eq_false_iff_ne.2 hc]

/-- A newline separates pieces wherever it stands. -/
theorem newlinePieces_append_newline (a b : List Char) :
    newlinePieces (a ++ '\n' :: b) = newlinePieces a ++ newlinePieces b := by
  induction a with
  | nil => rw [List.nil_append, newlinePieces_newline_cons, newlinePieces, List.singleton_append]
  | cons c a ih =>
    rw [List.cons_append]
    by_cases hc : c = '\n'
    · rw [hc, newlinePieces_newline_cons, newlinePieces_newline_cons, ih, List.cons_append]
    · obtain ⟨p, ps, hps⟩ := List.exists_cons_of_ne_nil (newlinePieces_ne_nil a)
      have hjoined : newlinePieces (a ++ '\n' :: b) = p :: (ps ++ newlinePieces b) := by
        rw [ih, hps, List.cons_append]
      rw [newlinePieces_cons hc hps, newlinePieces_cons hc hjoined, List.cons_append]

/-- There is one piece more than there are newlines. -/
theorem length_newlinePieces (text : List Char) :
    (newlinePieces text).length = 1 + text.count '\n' := by
  induction text with
  | nil => rfl
  | cons c text ih =>
    by_cases hc : c = '\n'
    · rw [hc, newlinePieces_newline_cons, List.length_cons, ih, List.count_cons_self, Nat.add_assoc]
    · obtain ⟨p, ps, hps⟩ := List.exists_cons_of_ne_nil (newlinePieces_ne_nil text)
      rw [newlinePieces_cons hc hps, List.count_cons_of_ne hc, ← ih, hps, List.length_cons,
        List.length_cons]

/-- Pieces have no newlines. -/
theorem newline_not_mem_of_mem_newlinePieces {text piece : List Char}
    (h : piece ∈ newlinePieces text) : '\n' ∉ piece := by
  induction text generalizing piece with
  | nil =>
    rw [newlinePieces, List.mem_singleton] at h
    simp [h]
  | cons c text ih =>
    by_cases hc : c = '\n'
    · rw [hc, newlinePieces_newline_cons, List.mem_cons] at h
      rcases h with rfl | h
      · exact List.not_mem_nil
      · exact ih h
    · obtain ⟨p, ps, hps⟩ := List.exists_cons_of_ne_nil (newlinePieces_ne_nil text)
      rw [newlinePieces_cons hc hps, List.mem_cons] at h
      rw [hps] at ih
      rcases h with rfl | h
      · rw [List.mem_cons, not_or]
        exact ⟨Ne.symm hc, ih List.mem_cons_self⟩
      · exact ih (List.mem_cons_of_mem p h)

theorem newlinePieces_of_not_mem {piece : List Char} (h : '\n' ∉ piece) :
    newlinePieces piece = [piece] := by
  induction piece with
  | nil => rfl
  | cons c piece ih =>
    rw [List.mem_cons, not_or] at h
    exact newlinePieces_cons (Ne.symm h.1) (ih h.2)

/-- Joining pieces by newlines is undone by cutting at the newlines. -/
theorem newlinePieces_intercalate {pieces : List (List Char)} (hne : pieces ≠ [])
    (h : ∀ piece ∈ pieces, '\n' ∉ piece) : newlinePieces (['\n'].intercalate pieces) = pieces := by
  induction pieces with
  | nil => exact absurd rfl hne
  | cons piece pieces ih =>
    rw [List.forall_mem_cons] at h
    rcases pieces with _ | ⟨next, pieces⟩
    · rw [List.intercalate_singleton, newlinePieces_of_not_mem h.1]
    · rw [List.intercalate_cons_cons, List.append_assoc, List.singleton_append,
        newlinePieces_append_newline, newlinePieces_of_not_mem h.1, ih (List.cons_ne_nil _ _) h.2,
        List.singleton_append]

/-! ## Lines -/

theorem mem_of_mem_dropReturn {c : Char} {piece : List Char} (h : c ∈ dropReturn piece) :
    c ∈ piece := by
  rw [dropReturn] at h
  split at h
  · exact (List.dropLast_subset piece) h
  · exact h

theorem newline_not_mem_of_mem_linesOfPieces {pieces : List (List Char)}
    (h : ∀ piece ∈ pieces, '\n' ∉ piece) : ∀ line ∈ linesOfPieces pieces, '\n' ∉ line := by
  fun_induction linesOfPieces pieces with
  | case1 => exact List.forall_mem_nil _
  | case2 last hlast => exact List.forall_mem_nil _
  | case3 last hlast => exact h
  | case4 piece next rest ih =>
    rw [List.forall_mem_cons] at h ⊢
    exact ⟨fun hmem => h.1 (mem_of_mem_dropReturn hmem), ih h.2⟩

theorem newline_not_mem_of_mem_lines {text line : List Char} (h : line ∈ lines text) :
    '\n' ∉ line :=
  newline_not_mem_of_mem_linesOfPieces (fun _ => newline_not_mem_of_mem_newlinePieces) line h

/-- All pieces that something follows are lines. -/
theorem linesOfPieces_append (early : List (List Char)) {late : List (List Char)}
    (hlate : late ≠ []) :
    linesOfPieces (early ++ late) = early.map dropReturn ++ linesOfPieces late := by
  induction early with
  | nil => rfl
  | cons piece early ih =>
    obtain ⟨next, rest, hrest⟩ :=
      List.exists_cons_of_ne_nil (List.append_ne_nil_of_right_ne_nil early hlate)
    rw [List.cons_append, hrest, linesOfPieces, ← hrest, ih, List.map_cons, List.cons_append]

/-- After a newline a text goes on with the lines of the rest. -/
theorem lines_append_newline (a b : List Char) :
    lines (a ++ '\n' :: b) = (newlinePieces a).map dropReturn ++ lines b := by
  rw [lines, newlinePieces_append_newline, linesOfPieces_append _ (newlinePieces_ne_nil b), lines]

/-! ## Lengths -/

theorem length_flatten_newlinePieces_le (text : List Char) :
    (newlinePieces text).flatten.length ≤ text.length := by
  induction text with
  | nil => exact Nat.le_refl 0
  | cons c text ih =>
    by_cases hc : c = '\n'
    · rw [hc, newlinePieces_newline_cons, List.flatten_cons, List.nil_append]
      exact Nat.le_succ_of_le ih
    · obtain ⟨p, ps, hps⟩ := List.exists_cons_of_ne_nil (newlinePieces_ne_nil text)
      rw [hps] at ih
      rw [newlinePieces_cons hc hps]
      exact Nat.succ_le_succ ih

theorem length_dropReturn_le (piece : List Char) : (dropReturn piece).length ≤ piece.length := by
  rw [dropReturn]
  split
  · exact (List.dropLast_prefix piece).length_le
  · exact Nat.le_refl _

/-- The lines of a text have no more characters than the text. -/
theorem length_flatten_lines_le (text : List Char) :
    (lines text).flatten.length ≤ text.length := by
  refine Nat.le_trans ?_ (length_flatten_newlinePieces_le text)
  rw [lines]
  generalize newlinePieces text = pieces
  fun_induction linesOfPieces pieces with
  | case1 => exact Nat.le_refl 0
  | case2 last hlast => exact Nat.zero_le _
  | case3 last hlast => exact Nat.le_refl _
  | case4 piece next rest ih =>
    have hpiece := length_dropReturn_le piece
    rw [List.flatten_cons, List.length_append, List.flatten_cons, List.length_append]
    omega

/-! ## Line endings -/

theorem trimEnding_eq_rdropWhile (line : List Char) : trimEnding line = line.rdropWhile isEnding :=
  rfl

/-- What is cut off at the end of a text reaches into its first part only if nothing is left of the
second. -/
theorem trimEnding_append (early late : List Char) : trimEnding (early ++ late) =
    if trimEnding late = [] then trimEnding early else early ++ trimEnding late := by
  simp only [trimEnding, List.reverse_append, List.dropWhile_append, List.isEmpty_iff,
    List.reverse_eq_nil_iff]
  split
  · rfl
  · rw [List.reverse_append, List.reverse_reverse]

/-- A text without the characters of line endings is all there is to the line. -/
theorem trimEnding_eq_self {text : List Char} (h : ∀ c ∈ text, isEnding c = false) :
    trimEnding text = text := by
  rw [trimEnding_eq_rdropWhile, List.rdropWhile_eq_self_iff]
  intro hne
  simp [h _ (List.getLast_mem hne)]

/-- The carriage return that belongs to a newline is part of the line ending. -/
theorem trimEnding_dropReturn (piece : List Char) :
    trimEnding (dropReturn piece) = trimEnding piece := by
  rw [dropReturn]
  split
  · rename_i hlast
    obtain ⟨early, rfl⟩ := List.getLast?_eq_some_iff.1 hlast
    rw [List.dropLast_concat, trimEnding_eq_rdropWhile, trimEnding_eq_rdropWhile,
      List.rdropWhile_concat_pos _ _ _ rfl]
  · rfl

end EditorMode.Text
