import EditorMode.Proofs.Tracking
import Mathlib.Data.List.DropRight

/-!
# Logical lines

A logical line reaches from one end of line to the next, over as many physical lines as line
continuations make of it.  The flags of a document and its alignment column tell what the current
logical line contains (`Tracker.trackRun_logicalLine`).

They are not reset where the line ends but where the next one starts.  So an end of line still
belongs to the logical line that it ends, and the line is a new one with the next token, whatever
that is.  The proof therefore looks at the line that a token finds when it has left the line before
it (`openLine`): with the token added, this is the current logical line (`logicalLine_concat`).
-/

set_option autoImplicit false

namespace EditorMode.Tracker

/-! ## Lines of a run -/

/-- Whether the token is of the kind. -/
def hasKind (kind : Kind) (x : Token × Nat) : Bool := x.1.kind = kind

/-- Whether the last token of the run is an end of line. -/
def endsLine (run : List (Token × Nat)) : Bool := run.getLast?.any (hasKind .endOfLine)

/-- The tokens after the last end of line. -/
def openLine (run : List (Token × Nat)) : List (Token × Nat) :=
  run.rtakeWhile fun x => !hasKind .endOfLine x

/-- The current logical line: the tokens after the last end of line, or, if an end of line comes
last, the tokens after the one before it. -/
def logicalLine (run : List (Token × Nat)) : List (Token × Nat) :=
  if endsLine run then openLine run.dropLast ++ run.getLast?.toList else openLine run

/-- Where a continuation of the line aligns: after its last function marker. -/
def lineAnchor (t : Tracker) (line : List (Token × Nat)) : Nat :=
  match (line.filter (hasKind .function)).getLast? with
  | none => 0
  | some (token, indentation) => token.column - indentation + t.anchorOffset

section Lines

variable {run : List (Token × Nat)}

theorem endsLine_concat (run : List (Token × Nat)) (x : Token × Nat) :
    endsLine (run ++ [x]) = hasKind .endOfLine x := by
  rw [endsLine, List.getLast?_concat, Option.any_some]

theorem openLine_concat (run : List (Token × Nat)) (x : Token × Nat) :
    openLine (run ++ [x]) = if hasKind .endOfLine x then [] else openLine run ++ [x] := by
  rw [openLine, List.rtakeWhile_concat]
  cases hasKind .endOfLine x <;> rfl

/-- A token belongs to the line that it finds. -/
theorem logicalLine_concat (run : List (Token × Nat)) (x : Token × Nat) :
    logicalLine (run ++ [x]) = openLine run ++ [x] := by
  rw [logicalLine, endsLine_concat, List.dropLast_concat, List.getLast?_concat, openLine_concat]
  cases hasKind .endOfLine x <;> rfl

theorem logicalLine_eq_openLine (h : endsLine run = false) : logicalLine run = openLine run := by
  rw [logicalLine, h, if_neg Bool.false_ne_true]

/-- After an end of line there is nothing yet. -/
theorem openLine_eq_nil (h : endsLine run = true) : openLine run = [] := by
  induction run using List.reverseRecOn with
  | nil => rfl
  | append_singleton run x _ =>
    rw [endsLine_concat] at h
    rw [openLine_concat, if_pos h]

theorem lineAnchor_concat (t : Tracker) (line : List (Token × Nat)) (x : Token × Nat) :
    t.lineAnchor (line ++ [x]) =
      if x.1.kind = .function then x.1.column - x.2 + t.anchorOffset else t.lineAnchor line := by
  rw [lineAnchor, List.filter_append]
  by_cases h : x.1.kind = .function
  · rw [if_pos h, List.filter_singleton, hasKind, decide_eq_true h, cond_true,
      List.getLast?_concat]
  · rw [if_neg h, List.filter_singleton, hasKind, decide_eq_false h, cond_false, List.append_nil]
    rfl

end Lines

/-! ## What a document tells -/

/-- The document tells what the current logical line of the run contains. -/
structure Tells (t : Tracker) (run : List (Token × Nat)) (d : Document) : Prop where
  atLineEnd : d.atLineEnd = endsLine run
  openedBlock : d.openedBlock = (logicalLine run).any (hasKind .blockOpen)
  continued : d.continued = (!endsLine run && (logicalLine run).any (hasKind .lineContinuation))
  anchor : d.anchor = if endsLine run then 0 else t.lineAnchor (logicalLine run)

/-- The document tells what the line contains that the next token finds. -/
structure TellsOpen (t : Tracker) (line : List (Token × Nat)) (d : Document) : Prop where
  atLineEnd : d.atLineEnd = false
  openedBlock : d.openedBlock = line.any (hasKind .blockOpen)
  continued : d.continued = line.any (hasKind .lineContinuation)
  anchor : d.anchor = t.lineAnchor line

section Tells

variable {t : Tracker} {run : List (Token × Nat)} {d : Document}

theorem tells_start (t : Tracker) : t.Tells [] .start := ⟨rfl, rfl, rfl, rfl⟩

/-- A token that leaves the line before it finds a new one. -/
theorem Tells.tellsOpen (h : t.Tells run d) : t.TellsOpen (openLine run) (leaveLine d) := by
  obtain ⟨hend, hopened, hcontinued, hanchor⟩ := h
  rw [leaveLine, hend]
  cases hrun : endsLine run with
  | true =>
    rw [hrun] at hcontinued hanchor
    rw [openLine_eq_nil hrun]
    exact ⟨rfl, rfl, hcontinued, hanchor⟩
  | false =>
    rw [hrun] at hend hcontinued hanchor
    rw [logicalLine_eq_openLine hrun] at hopened hcontinued hanchor
    exact ⟨hend, hopened, hcontinued, hanchor⟩

/-- What a document has to tell after one more token. -/
theorem tells_concat {x : Token × Nat} (hend : d.atLineEnd = hasKind .endOfLine x)
    (hopened : d.openedBlock = ((openLine run).any (hasKind .blockOpen) || hasKind .blockOpen x))
    (hcontinued : d.continued = (!hasKind .endOfLine x &&
      ((openLine run).any (hasKind .lineContinuation) || hasKind .lineContinuation x)))
    (hanchor : d.anchor = if x.1.kind = .endOfLine then 0
      else if x.1.kind = .function then x.1.column - x.2 + t.anchorOffset
      else t.lineAnchor (openLine run)) : t.Tells (run ++ [x]) d := by
  refine ⟨?_, ?_, ?_, ?_⟩
  · rw [endsLine_concat, hend]
  · rw [logicalLine_concat, List.any_append, List.any_cons, List.any_nil, Bool.or_false, hopened]
  · rw [logicalLine_concat, endsLine_concat, List.any_append, List.any_cons, List.any_nil,
      Bool.or_false, hcontinued]
  · rw [logicalLine_concat, endsLine_concat, lineAnchor_concat, hanchor]
    simp only [hasKind, decide_eq_true_eq]

/-- **One more token.** -/
theorem Tells.advanced (h : t.Tells run d) (x : Token × Nat) :
    t.Tells (run ++ [x]) (t.advanced d x.1 x.2) := by
  obtain ⟨hend, hopened, hcontinued, hanchor⟩ := h.tellsOpen
  rw [Tracker.advanced]
  generalize leaveLine d = d at hend hopened hcontinued hanchor
  cases hkind : x.1.kind with
  | blockClose =>
    show t.Tells _ (if d.level = 0 then _ else _)
    split
    · apply tells_concat <;> simp [hasKind, *]
    · apply tells_concat <;> simp [hasKind, *]
  | _ => apply tells_concat <;> simp [hasKind, *]

end Tells

/-! ## Runs -/

theorem tells_of_trackRun (t : Tracker) {run : List (Token × Nat)} {d : Document}
    (h : (t.trackRun .start run).outcome = .ok d) : t.Tells run d := by
  induction run using List.reverseRecOn generalizing d with
  | nil =>
    obtain rfl := Except.ok.inj h
    exact tells_start t
  | append_singleton run x ih =>
    obtain ⟨before, hbefore, rfl⟩ := t.exists_of_trackRun_concat Document.consistent_start h
    exact (ih hbefore).advanced x

/-- **The flags of a document tell what its current logical line contains.**  Unless a sum passes
its bound, a run of tokens leads from a new document to one that is at the end of a line if and only
if the last token is an end of line; the line has opened a block if and only if it contains the
start of one; it is continued if and only if it contains a line continuation and has not ended; and
a continuation aligns after the last function marker of the line, if it has one and has not
ended. -/
theorem trackRun_logicalLine (t : Tracker) {run : List (Token × Nat)}
    (hfits : (t.trackRun .start run).outcome ≠ .error .overflow) :
    ∃ d, (t.trackRun .start run).outcome = .ok d ∧
      (d.atLineEnd = true ↔ endsLine run = true) ∧
      (d.openedBlock = true ↔ ∃ x ∈ logicalLine run, x.1.kind = .blockOpen) ∧
      (d.continued = true ↔
        ¬endsLine run = true ∧ ∃ x ∈ logicalLine run, x.1.kind = .lineContinuation) ∧
      d.anchor = if endsLine run then 0 else t.lineAnchor (logicalLine run) := by
  obtain ⟨d, h, -⟩ := (t.safe_trackRun Document.consistent_start run).exists_eq_ok hfits
  obtain ⟨hend, hopened, hcontinued, hanchor⟩ := t.tells_of_trackRun h
  refine ⟨d, h, ?_, ?_, ?_, hanchor⟩
  · rw [hend]
  · rw [hopened]
    simp [hasKind]
  · rw [hcontinued]
    simp [hasKind]

/-- A logical line of three physical lines, the second of which opens a block and has the function
marker that counts; the line before it has ended. -/
theorem trackRun_logicalLine_three :
    let run : List (Token × Nat) :=
      [(⟨.function, [], 0, 0, 9⟩, 2), (.endOfLine 0 0 0, 2), (⟨.function, [], 1, 0, 7⟩, 4),
        (.new .lineContinuation [] 1, 4), (⟨.function, [], 2, 0, 11⟩, 6), (.new .blockOpen [] 2, 6),
        (.new .lineContinuation [] 2, 6), (.new .error [] 3, 0)]
    (standard.trackRun .start run).outcome ≠ .error .overflow ∧
      logicalLine run = run.drop 2 ∧
      ∃ d, (standard.trackRun .start run).outcome = .ok d ∧ d.openedBlock = true ∧
        d.continued = true ∧ d.anchor = 13 := by
  intro run
  have hfits : (standard.trackRun .start run).outcome ≠ .error .overflow := by decide
  obtain ⟨d, hd, -, hopened, hcontinued, hanchor⟩ := trackRun_logicalLine standard hfits
  exact ⟨hfits, by decide, d, hd, hopened.2 (by decide), hcontinued.2 (by decide), hanchor⟩

end EditorMode.Tracker
