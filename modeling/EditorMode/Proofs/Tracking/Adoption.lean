import EditorMode.Proofs.Tracking.Levels

/-!
# Which column a line gives to its block

The indentation of a line is adopted by a block at certain tokens of the line: at a line
continuation, and at the end of the line unless the line is continued.  It is the block of the level
at that token, which need not be the level at the start of the line, and a line that has opened a
block gives its indentation to none.  `Document.Adopts` says when this happens, by the state before
the line and the kinds of the tokens before.

In the middle of a line the state can be read off the one before the line and the tokens in between
(`Tracker.Midline`), but for the columns.  What a token does to these is said once, by
`Tracker.Midline.columns_advanced`.  Whatever holds before a line and is kept by each of its tokens
holds after it (`Tracker.line_induction`).
-/

set_option autoImplicit false

namespace EditorMode

/-- After tokens of the kinds `early`, in a line that starts in this state, a token of the kind
makes the indentation of the line the column of the current level. -/
structure Document.Adopts (d : Document) (early : List Kind) (kind : Kind) : Prop where
  /-- The lines before it that this one continues have opened no block. -/
  unopened : (Tracker.leaveLine d).openedBlock = false
  blockOpen_not_mem : .blockOpen ∉ early
  ends : kind = .lineContinuation ∨
    kind = .endOfLine ∧ d.continued = false ∧ .lineContinuation ∉ early

namespace Tracker

/-! ## Levels without a start of a block -/

theorem levelAfter_of_ne {kind : Kind} (hopen : kind ≠ .blockOpen) (hclose : kind ≠ .blockClose)
    (level : Nat) : levelAfter level kind = level := by
  cases kind with
  | blockOpen => exact absurd rfl hopen
  | blockClose => exact absurd rfl hclose
  | _ => rfl

theorem clampedLevel_append (level : Nat) (early late : List Kind) :
    clampedLevel level (early ++ late) = clampedLevel (clampedLevel level early) late :=
  List.foldl_append

theorem clampedLevel_concat (level : Nat) (kinds : List Kind) (kind : Kind) :
    clampedLevel level (kinds ++ [kind]) = levelAfter (clampedLevel level kinds) kind :=
  clampedLevel_append level kinds [kind]

theorem clampedLevel_of_not_mem {kinds : List Kind} (h : .blockOpen ∉ kinds) (level : Nat) :
    clampedLevel level kinds = level - kinds.count .blockClose := by
  induction kinds using List.reverseRecOn with
  | nil => rfl
  | append_singleton kinds kind ih =>
    rw [List.mem_append, not_or, List.mem_singleton] at h
    rw [clampedLevel_concat, ih h.1, List.count_append]
    cases kind with
    | blockOpen => exact absurd rfl h.2
    | blockClose =>
      rw [List.count_singleton_self, ← Nat.sub_sub]
      rfl
    | _ => rfl

/-! ## In the middle of a line -/

/-- The state `e` in the middle of a line that starts in the state `d`, after tokens of the kinds
`early`. -/
structure Midline (d : Document) (early : List Kind) (e : Document) : Prop where
  consistent : e.Consistent
  level : e.level = clampedLevel d.level early
  openedBlock : (leaveLine e).openedBlock = ((leaveLine d).openedBlock || early.contains .blockOpen)
  continued : e.continued = (d.continued || early.contains .lineContinuation)

variable (t : Tracker) {d e : Document} {early : List Kind}

theorem midline_nil (hd : d.Consistent) : Midline d [] d :=
  ⟨hd, rfl, (Bool.or_false _).symm, (Bool.or_false _).symm⟩

/-- Only the end of a line is followed by a new one. -/
theorem leaveLine_advanced (d : Document) {token : Token} (hkind : token.kind ≠ .endOfLine)
    (indentation : Nat) :
    leaveLine (t.advanced d token indentation) = t.advanced d token indentation := by
  refine leaveLine_of_atLineEnd ?_
  rw [atLineEnd_advanced]
  simpa using hkind

/-- **One more token in a line.** -/
theorem Midline.advanced (h : Midline d early e) {token : Token} (hkind : token.kind ≠ .endOfLine)
    (indentation : Nat) :
    Midline d (early ++ [token.kind]) (t.advanced e token indentation) := by
  obtain ⟨hconsistent, hlevel, hopened, hcontinued⟩ := h
  refine ⟨t.consistent_advanced hconsistent token indentation, ?_, ?_, ?_⟩
  · rw [level_advanced, hlevel, clampedLevel_concat]
  · rw [t.leaveLine_advanced e hkind, openedBlock_advanced, hopened, Bool.eq_iff_iff]
    simp [or_assoc, eq_comm (b := token.kind)]
  · rw [continued_advanced, hcontinued, Bool.eq_iff_iff]
    simp [or_assoc, hkind, eq_comm (b := token.kind)]

theorem midline_of_trackRun (hd : d.Consistent) {indentation : Nat} {tokens : List Token}
    (hends : ∀ token ∈ tokens, token.kind ≠ .endOfLine)
    (h : (t.trackRun d (tokens.map (·, indentation))).outcome = .ok e) :
    Midline d (tokens.map Token.kind) e := by
  induction tokens using List.reverseRecOn generalizing e with
  | nil =>
    obtain rfl := Except.ok.inj h
    exact midline_nil hd
  | append_singleton tokens token ih =>
    rw [List.forall_mem_append, List.forall_mem_singleton] at hends
    rw [List.map_append] at h
    obtain ⟨before, hbefore, rfl⟩ := t.exists_of_trackRun_concat hd h
    rw [List.map_append]
    exact (ih hends.1 hbefore).advanced t hends.2 indentation

/-! ## Columns -/

/-- The end of a line settles its column if the token adopts the indentation. -/
theorem Midline.settledColumns_eq (h : Midline d early e) {kind : Kind} (kept : Bool)
    (hkept : kept = false ↔ kind = .lineContinuation ∨
      kind = .endOfLine ∧ d.continued = false ∧ .lineContinuation ∉ early) (indentation : Nat) :
    d.Adopts early kind ∧
        settledColumns (leaveLine e) kept indentation = e.columns.set e.level indentation ∨
      ¬d.Adopts early kind ∧ settledColumns (leaveLine e) kept indentation = e.columns := by
  rw [settledColumns, columns_leaveLine, level_leaveLine, h.openedBlock]
  by_cases hadopts : d.Adopts early kind
  · refine .inl ⟨hadopts, if_neg ?_⟩
    simp [hadopts.unopened, hadopts.blockOpen_not_mem, hkept.2 hadopts.ends]
  · refine .inr ⟨hadopts, if_pos ?_⟩
    by_contra hset
    simp only [Bool.or_eq_true, not_or, Bool.not_eq_true, List.contains_iff_mem] at hset
    exact hadopts ⟨hset.2.1, by simpa using hset.2.2, hkept.1 hset.1⟩

/-- **What a token does to the columns.**  It adds a column or takes one away, it adopts the
indentation of the line, or it changes nothing. -/
theorem Midline.columns_advanced (h : Midline d early e) (token : Token) (indentation : Nat) :
    token.kind = .blockOpen ∧
        (t.advanced e token indentation).columns = e.columns ++ [indentation + t.indentUnit] ∨
      token.kind = .blockClose ∧ (t.advanced e token indentation).columns =
        (if e.level = 0 then e.columns else e.columns.dropLast) ∨
      d.Adopts early token.kind ∧
        (t.advanced e token indentation).columns = e.columns.set e.level indentation ∨
      (token.kind ≠ .blockOpen ∧ token.kind ≠ .blockClose ∧ ¬d.Adopts early token.kind) ∧
        (t.advanced e token indentation).columns = e.columns := by
  have hnot : ∀ {kind : Kind}, kind ≠ .lineContinuation → kind ≠ .endOfLine →
      ¬d.Adopts early kind := fun h₁ h₂ hadopts => hadopts.ends.elim h₁ fun h => h₂ h.1
  rw [Tracker.advanced]
  cases hkind : token.kind with
  | blockOpen => exact .inl ⟨rfl, by simp⟩
  | blockClose =>
    refine .inr (.inl ⟨rfl, ?_⟩)
    show (if (leaveLine e).level = 0 then _ else _ : Document).columns = _
    rw [level_leaveLine]
    split <;> simp
  | endOfLine =>
    refine .inr (.inr ?_)
    have hkept : (leaveLine e).continued = false ↔ Kind.endOfLine = .lineContinuation ∨
        Kind.endOfLine = .endOfLine ∧ d.continued = false ∧ .lineContinuation ∉ early := by
      rw [continued_leaveLine, h.continued]
      simp
    refine (h.settledColumns_eq _ hkept indentation).imp_right fun hset => ⟨?_, hset.2⟩
    exact ⟨by simp, by simp, hset.1⟩
  | lineContinuation =>
    refine .inr (.inr ?_)
    refine (h.settledColumns_eq false (by simp) indentation).imp_right fun hset => ⟨?_, hset.2⟩
    exact ⟨by simp, by simp, hset.1⟩
  | function => exact .inr (.inr (.inr ⟨⟨by simp, by simp, hnot (by simp) (by simp)⟩, by simp⟩))
  | error => exact .inr (.inr (.inr ⟨⟨by simp, by simp, hnot (by simp) (by simp)⟩, by simp⟩))
  | named name => exact .inr (.inr (.inr ⟨⟨by simp, by simp, hnot (by simp) (by simp)⟩, by simp⟩))

/-! ## Lines -/

/-- **Induction along a line** whose tokens before the last one do not end it. -/
theorem line_induction (hd : d.Consistent) {indentation : Nat} {tokens : List Token}
    (hends : ∀ token ∈ tokens.dropLast, token.kind ≠ .endOfLine)
    (h : (t.trackRun d (tokens.map (·, indentation))).outcome = .ok e)
    {motive : List Kind → Document → Prop} (nil : motive [] d)
    (concat : ∀ early token late before, tokens.map Token.kind = early ++ token.kind :: late →
      Midline d early before → motive early before →
      motive (early ++ [token.kind]) (t.advanced before token indentation)) :
    motive (tokens.map Token.kind) e := by
  -- the step may look at the whole line, so the induction is over a part of it
  suffices hpart : ∀ part late, tokens = part ++ late → ∀ {e},
      (t.trackRun d (part.map (·, indentation))).outcome = .ok e →
      motive (part.map Token.kind) e from hpart tokens [] (List.append_nil _).symm h
  intro part
  induction part using List.reverseRecOn with
  | nil =>
    intro late _ e h
    obtain rfl := Except.ok.inj h
    exact nil
  | append_singleton part token ih =>
    intro late htokens e h
    rw [List.append_assoc, List.singleton_append] at htokens
    rw [List.map_append] at h
    obtain ⟨before, hbefore, rfl⟩ := t.exists_of_trackRun_concat hd h
    have hearly : ∀ token ∈ part, token.kind ≠ .endOfLine := by
      intro x hx
      refine hends x ?_
      rw [htokens, List.dropLast_append_of_ne_nil (List.cons_ne_nil _ _)]
      exact List.mem_append_left _ hx
    rw [List.map_append]
    refine concat _ token (late.map Token.kind) before ?_ ?_ (ih _ htokens hbefore)
    · rw [htokens, List.map_append, List.map_cons]
    · exact t.midline_of_trackRun hd hearly hbefore

end Tracker

end EditorMode
