import EditorMode.Proofs.Regex.Reading
import EditorMode.Proofs.Regex.Tidy
import EditorMode.Regex.Parse

/-!
# A pattern in a group after a caret

What a pattern text stands for when it is put in a group after a caret, `^(?:` and `)`.  While the
pattern is read, the open groups around it stay where they are at the bottom of the stack
(`Parsing.step_under`), and everything that is put together from its pieces is tidy
(`Parsing.sound_step`).  So the framed pattern is the assertion that this is the start of the text,
followed by just the expression of the pattern, two levels deeper (`Part.parse_framed`).

Nothing is assumed about the function `known` that looks up classes by Unicode property.  It is
asked for the same classes whether or not the pattern is in the frame, since the flags in force are
those of the group that is read, and a pattern starts with the same flags inside the frame.
-/

set_option autoImplicit false

namespace EditorMode.Regex

variable {known : Property → Option CharSet}

/-! ## Parts -/

/-- The part that a pattern text stands for, however deep it is. -/
def Part.parse (known : Property → Option CharSet) (text : List Char) : Except Error Part := do
  let parsing ← (← pieces text).foldlM (Parsing.step known) .start
  if parsing.outer.isEmpty then return parsing.current.content else throw .unclosedGroup

/-- An expression is a part that is not too deep. -/
theorem Expr.parse_eq (text : List Char) :
    Expr.parse known text = Part.parse known text >>= fun part =>
      if depthLimit < part.depth then .error .tooDeep else .ok part.expr := by
  rw [Expr.parse, Part.parse, bind_assoc]
  congr
  funext ps
  rw [bind_assoc]
  congr
  funext parsing
  rw [Parsing.finish]
  cases parsing.outer.isEmpty <;> rfl

/-- A part that has been read comes from pieces, and all groups are closed after them. -/
theorem Part.exists_of_parse {text : List Char} {part : Part} (h : parse known text = .ok part) :
    ∃ ps parsing, pieces text = .ok ps ∧ ps.foldlM (Parsing.step known) .start = .ok parsing ∧
      parsing.outer = [] ∧ part = parsing.current.content := by
  obtain ⟨ps, hps, h⟩ := bind_eq_ok_iff.1 h
  obtain ⟨parsing, hparsing, h⟩ := bind_eq_ok_iff.1 h
  split at h
  next houter =>
    exact ⟨ps, parsing, hps, hparsing, List.isEmpty_iff.1 houter, (Except.ok.inj h).symm⟩
  next => cases h

/-! ## Tidy groups

An open group keeps the alternatives and items that have been read, and each of these is tidy
already.  What is made of them, be it the content of the group or one more item of the group around
it, is tidy for this reason. -/

/-- All that has been read of the group is tidy. -/
structure OpenGroup.Tidy (g : OpenGroup) : Prop where
  items : ∀ part ∈ g.items, part.expr.Tidy
  done : ∀ part ∈ g.done, part.expr.Tidy

/-! An atom is a literal, a set or an assertion, so that it is tidy under all flags. -/

theorem Flags.tidy_setExpr (flags : Flags) (s : CharSet) : (flags.setExpr s).Tidy := by
  rw [setExpr]
  split
  · exact Expr.tidy_ofSet s
  · exact Expr.tidy_ofAsciiSet s

theorem Flags.tidy_charExpr (flags : Flags) (c : Char) : (flags.charExpr c).Tidy := by
  rw [charExpr]
  split
  · trivial
  · exact flags.tidy_setExpr _

theorem Atom.tidy_of_toPart {flags : Flags} {a : Atom} {part : Part}
    (h : a.toPart known flags = .ok part) : part.expr.Tidy := by
  cases a with
  | char c =>
    cases h
    exact flags.tidy_charExpr c
  | byte c =>
    obtain ⟨s, -, h⟩ := bind_eq_ok_iff.1 h
    cases h
    exact flags.tidy_charExpr c
  | dot =>
    obtain ⟨s, -, h⟩ := bind_eq_ok_iff.1 h
    cases h
    trivial
  | named | property | set =>
    obtain ⟨s, -, h⟩ := bind_eq_ok_iff.1 h
    cases h
    exact flags.tidy_setExpr s
  | _ =>
    cases h
    trivial

namespace OpenGroup

variable {g : OpenGroup}

/-- In a group that has just been opened there is nothing to be tidy. -/
theorem tidy_new (index : Option Nat) (flags : Flags) : Tidy { index, flags } :=
  ⟨List.forall_mem_nil _, List.forall_mem_nil _⟩

theorem Tidy.push (h : g.Tidy) {part : Part} (hpart : part.expr.Tidy) : (g.push part).Tidy :=
  ⟨List.forall_mem_cons.2 ⟨hpart, h.items⟩, h.done⟩

theorem Tidy.setFlags (h : g.Tidy) (change : FlagChange) : (g.setFlags change).Tidy :=
  ⟨List.forall_mem_cons.2 ⟨trivial, h.items⟩, h.done⟩

/-- The sequence after the last bar is an alternative like those before it. -/
theorem Tidy.branches (h : g.Tidy) : ∀ part ∈ g.branches, part.expr.Tidy := by
  refine List.forall_mem_cons.2 ⟨Expr.tidy_sequence fun e he => ?_, h.done⟩
  obtain ⟨part, hpart, rfl⟩ := List.mem_map.1 he
  exact h.items part (List.mem_reverse.1 hpart)

theorem Tidy.bar (h : g.Tidy) : g.bar.Tidy := ⟨List.forall_mem_nil _, h.branches⟩

theorem Tidy.content (h : g.Tidy) : g.content.expr.Tidy := by
  refine Expr.tidy_alternatives fun e he => ?_
  obtain ⟨part, hpart, rfl⟩ := List.mem_map.1 he
  exact h.branches part (List.mem_reverse.1 hpart)

theorem Tidy.grouped (h : g.Tidy) : (g.content.grouped g.index).expr.Tidy := by
  rw [Part.grouped]
  cases g.index with
  | none => exact h.content
  | some index => exact h.content

/-- A repetition mark replaces the last item, and its counts are in order. -/
theorem Tidy.repeatLast (h : g.Tidy) {item : Part} (hlast : g.last = some item) {least : Nat}
    {most : Option Nat} (hcount : most.all (least ≤ ·) = true) (greedy : Bool) :
    Tidy { g with last := some (item.repeated least most greedy) } := by
  have hitems := h.items
  rw [OpenGroup.items, hlast] at hitems
  obtain ⟨hitem, hfront⟩ := List.forall_mem_cons.1 hitems
  exact ⟨List.forall_mem_cons.2 ⟨Expr.tidy_repeated hitem hcount greedy, hfront⟩, h.done⟩

end OpenGroup

/-! ## Steps

Two facts about one step, and both of them for a run by induction on its pieces: a step keeps the
groups tidy, and it does not look below the groups of the pattern. -/

namespace Parsing

variable {p q : Parsing} {piece : Piece}

/-- What holds while a pattern is read: all open groups are tidy, and the group for the pattern as a
whole has no number. -/
structure Sound (p : Parsing) : Prop where
  current : p.current.Tidy
  outer : ∀ g ∈ p.outer, g.Tidy
  whole : (p.outer.map OpenGroup.index).getLastD p.current.index = none

theorem sound_start : start.Sound := ⟨OpenGroup.tidy_new _ _, List.forall_mem_nil _, rfl⟩

/-- **One step.**  The number of the outermost group is not changed, as it is only looked at when
the group is closed; a step that would close it fails. -/
theorem sound_step (hp : p.Sound) (hpiece : piece.wellCounted = true)
    (h : p.step known piece = .ok q) : q.Sound := by
  obtain ⟨hcurrent, houter, hwhole⟩ := hp
  cases piece with
  | atom a =>
    obtain ⟨part, hpart, h⟩ := bind_eq_ok_iff.1 h
    cases h
    exact ⟨hcurrent.push (Atom.tidy_of_toPart hpart), houter, hwhole⟩
  | bar =>
    cases h
    exact ⟨hcurrent.bar, houter, hwhole⟩
  | setFlags change =>
    cases h
    exact ⟨hcurrent.setFlags change, houter, hwhole⟩
  | times least most lazy =>
    rw [step] at h
    split at h
    next => cases h
    next item hlast =>
      cases h
      exact ⟨hcurrent.repeatLast hlast hpiece _, houter, hwhole⟩
  | openGroup opening =>
    have hinner : ∀ g ∈ p.current :: p.outer, g.Tidy := List.forall_mem_cons.2 ⟨hcurrent, houter⟩
    cases opening with
    | plain change =>
      cases h
      exact ⟨OpenGroup.tidy_new _ _, hinner, by rwa [List.map_cons, List.getLastD_cons]⟩
    | numbered name =>
      rw [step] at h
      split at h
      next =>
        cases h
        exact ⟨OpenGroup.tidy_new _ _, hinner, by rwa [List.map_cons, List.getLastD_cons]⟩
      next => cases h
  | closeGroup =>
    rw [step] at h
    split at h
    next => cases h
    next parent outer heq =>
      cases h
      -- The group around the closed one becomes the current one, and may be the outermost.
      rw [heq] at houter hwhole
      obtain ⟨hparent, houter⟩ := List.forall_mem_cons.1 houter
      rw [List.map_cons, List.getLastD_cons] at hwhole
      exact ⟨hparent.push hcurrent.grouped, houter, hwhole⟩

/-- **A run of steps** over marks that are in order. -/
theorem sound_of_foldlM {ps : List Piece} (hps : ∀ piece ∈ ps, piece.wellCounted = true)
    (hp : p.Sound) (h : ps.foldlM (step known) p = .ok q) : q.Sound := by
  induction ps generalizing p with
  | nil =>
    cases h
    exact hp
  | cons piece ps ih =>
    obtain ⟨hpiece, hps⟩ := List.forall_mem_cons.1 hps
    obtain ⟨next, hnext, h⟩ := bind_eq_ok_iff.1 h
    exact ih hps (sound_step hp hpiece hnext) h

/-- The state with one more open group around the whole pattern. -/
def under (p : Parsing) (g : OpenGroup) : Parsing := { p with outer := p.outer ++ [g] }

/-- A step does not look at the groups around the pattern. -/
theorem step_under (h : p.step known piece = .ok q) (g : OpenGroup) :
    (p.under g).step known piece = .ok (q.under g) := by
  cases piece with
  | atom a =>
    obtain ⟨part, hpart, h⟩ := bind_eq_ok_iff.1 h
    cases h
    exact bind_eq_ok_iff.2 ⟨part, hpart, rfl⟩
  | bar | setFlags =>
    cases h
    rfl
  | times least most lazy =>
    rw [step] at h
    split at h
    next => cases h
    next item hlast =>
      cases h
      rw [step, under, hlast]
      rfl
  | openGroup opening =>
    cases opening with
    | plain change =>
      cases h
      rfl
    | numbered name =>
      rw [step] at h
      split at h
      next hnames =>
        cases h
        exact if_pos hnames
      next => cases h
  | closeGroup =>
    rw [step] at h
    split at h
    next => cases h
    next parent outer heq =>
      cases h
      rw [step, under, heq]
      rfl

/-- A run of steps does not look at the groups around the pattern either. -/
theorem foldlM_step_under {ps : List Piece} (h : ps.foldlM (step known) p = .ok q)
    (g : OpenGroup) : ps.foldlM (step known) (p.under g) = .ok (q.under g) := by
  induction ps generalizing p with
  | nil =>
    cases h
    rfl
  | cons piece ps ih =>
    obtain ⟨next, hnext, h⟩ := bind_eq_ok_iff.1 h
    exact bind_eq_ok_iff.2 ⟨next.under g, step_under hnext g, ih h⟩

end Parsing

/-! ## The frame

The caret of the frame is read before all flags of the pattern, so it means the start of the text
there, whatever the pattern makes of carets. -/

/-- Whatever is read from a text is tidy. -/
theorem Part.tidy_of_parse {text : List Char} {part : Part} (h : parse known text = .ok part) :
    part.expr.Tidy := by
  obtain ⟨ps, parsing, hps, hparsing, -, rfl⟩ := exists_of_parse h
  exact (Parsing.sound_of_foldlM (wellCounted_of_readPieces hps) Parsing.sound_start
    hparsing).current.content

/-- A sequence after an assertion is its own only alternative. -/
theorem Expr.alternatives_sequence_check {e : Expr} (h : e.Tidy) (a : Assertion) :
    alternatives [sequence [.check a, e]] = sequence [.check a, e] := by
  rw [sequence_check h]
  split
  · rfl
  · rfl

/-- The group around a framed pattern, after the caret. -/
def frame : OpenGroup := Parsing.start.current.push ⟨.check .textStart, 0⟩

/-- The frame with a pattern in it.  The group and the sequence are one level each, while the single
alternative is none. -/
theorem content_push_frame {part : Part} (h : part.expr.Tidy) :
    (frame.push (part.grouped none)).content =
      ⟨.sequence [.check .textStart, part.expr], part.depth + 2⟩ := by
  have hdepth : (frame.push (part.grouped none)).content.depth = part.depth + 2 := by
    show max 0 (max (max 0 0) (part.depth + 1) + 1) = part.depth + 2
    omega
  rw [← Expr.alternatives_sequence_check h, ← hdepth]
  rfl

/-- **A framed pattern** is the start of the text followed by the pattern, two levels deeper. -/
theorem Part.parse_framed {text : List Char} {part : Part} (h : parse known text = .ok part) :
    parse known ('^' :: '(' :: '?' :: ':' :: (text ++ [')'])) =
      .ok ⟨.sequence [.check .textStart, part.expr], part.depth + 2⟩ := by
  have htidy := tidy_of_parse h
  obtain ⟨ps, ⟨current, outer, groups, names⟩, hps, hparsing, rfl, rfl⟩ := exists_of_parse h
  have hindex : current.index = none :=
    (Parsing.sound_of_foldlM (wellCounted_of_readPieces hps) Parsing.sound_start hparsing).whole
  -- After the pattern the closing parenthesis finds the frame, which has been left alone so far.
  let closed : Parsing := ⟨frame.push (current.content.grouped current.index), [], groups, names⟩
  have hframed :
      (ps ++ [Piece.closeGroup]).foldlM (Parsing.step known) (Parsing.start.under frame) =
        .ok closed := by
    rw [List.foldlM_append, Parsing.foldlM_step_under hparsing, ok_bind]
    rfl
  rw [parse, pieces_framed hps, ok_bind, ← content_push_frame htidy, ← hindex]
  exact bind_eq_ok_iff.2 ⟨closed, hframed, rfl⟩

end EditorMode.Regex
