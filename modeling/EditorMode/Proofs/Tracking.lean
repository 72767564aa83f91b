import EditorMode.Logged
import EditorMode.Proofs.Basic

/-!
# What a token does to a document

`Tracker.step` is made of four parts, each of which may break off.  On a consistent document there
is only one way in which it can: a sum that passes its bound.  So the step is described by a
condition and a plain function:

* `Tracker.Fits` says that the sums of a step stay below their bound,
* `Tracker.advanced` is the document after the step, field by field,
* `Tracker.step_eq` says that the step gives this document if the sums fit, and breaks off with an
  overflow if they do not.

Everything else about steps is read off `Tracker.advanced`; in particular consistency is kept
(`Tracker.consistent_advanced`).  `Tracker.trackRun` is a whole run of tokens, each on a line of its
own indentation.  Steps and runs are `Safe`: they keep a document consistent or break off with an
overflow.
-/

set_option autoImplicit false

namespace EditorMode

/-- The computation gives a consistent document, unless a sum passes its bound. -/
def Safe : Except Fault Document → Prop
  | .ok d => d.Consistent
  | .error fault => fault = .overflow

theorem Safe.consistent {x : Except Fault Document} (hx : Safe x) {d : Document}
    (h : x = .ok d) : d.Consistent := by
  rw [h] at hx
  exact hx

theorem Safe.eq_overflow {x : Except Fault Document} (hx : Safe x) {fault : Fault}
    (h : x = .error fault) : fault = .overflow := by
  rw [h] at hx
  exact hx

theorem Safe.exists_eq_ok {x : Except Fault Document} (hx : Safe x) (h : x ≠ .error .overflow) :
    ∃ d, x = .ok d ∧ d.Consistent := by
  cases x with
  | error fault => exact absurd (congrArg _ hx) h
  | ok d => exact ⟨d, rfl, hx⟩

theorem Safe.bind {x : Except Fault Document} {f : Document → Except Fault Document} (hx : Safe x)
    (hf : ∀ d, d.Consistent → Safe (f d)) : Safe (x >>= f) := by
  cases x with
  | error fault => exact hx
  | ok d => exact hf d hx

namespace Tracker

/-! ## One step -/

/-- The sums of a step stay below their bound: that of the alignment column for a function marker,
those of the new column and the new level for the start of a block. -/
def Fits (t : Tracker) (level : Nat) (token : Token) (indentation : Nat) : Prop :=
  (token.kind = .function → token.column - indentation + t.anchorOffset < columnBound) ∧
    (token.kind = .blockOpen →
      indentation + t.indentUnit < columnBound ∧ level + 1 < columnBound)

instance (t : Tracker) (level : Nat) (token : Token) (indentation : Nat) :
    Decidable (t.Fits level token indentation) :=
  inferInstanceAs (Decidable (_ ∧ _))

/-- The columns after the end of a physical line: its indentation counts for its block unless the
line opened that block or, where `kept` says so, was continued. -/
def settledColumns (d : Document) (kept : Bool) (indentation : Nat) : List Nat :=
  if kept || d.openedBlock then d.columns else d.columns.set d.level indentation

/-- The document after a token whose sums fit. -/
def advanced (t : Tracker) (d : Document) (token : Token) (indentation : Nat) : Document :=
  let d := leaveLine d
  match token.kind with
  | .blockOpen =>
    { d with
      openedBlock := true
      columns := d.columns ++ [indentation + t.indentUnit]
      level := d.level + 1 }
  | .blockClose =>
    if d.level = 0 then d else { d with columns := d.columns.dropLast, level := d.level - 1 }
  | .function => { d with anchor := token.column - indentation + t.anchorOffset }
  | .endOfLine =>
    { d with
      columns := settledColumns d d.continued indentation
      atLineEnd := true
      continued := false
      anchor := 0 }
  | .lineContinuation =>
    { d with columns := settledColumns d false indentation, continued := true }
  | _ => d

@[simp]
theorem level_leaveLine (d : Document) : (leaveLine d).level = d.level := by
  unfold leaveLine
  split <;> rfl

@[simp]
theorem columns_leaveLine (d : Document) : (leaveLine d).columns = d.columns := by
  unfold leaveLine
  split <;> rfl

@[simp]
theorem anchor_leaveLine (d : Document) : (leaveLine d).anchor = d.anchor := by
  unfold leaveLine
  split <;> rfl

@[simp]
theorem continued_leaveLine (d : Document) : (leaveLine d).continued = d.continued := by
  unfold leaveLine
  split <;> rfl

@[simp]
theorem atLineEnd_leaveLine (d : Document) : (leaveLine d).atLineEnd = false := by
  rw [leaveLine]
  split
  · rfl
  · rename_i h
    simpa using h

theorem leaveLine_of_atLineEnd {d : Document} (h : d.atLineEnd = false) : leaveLine d = d := by
  rw [leaveLine, h, if_neg Bool.false_ne_true]

theorem consistent_leaveLine {d : Document} (hd : d.Consistent) : (leaveLine d).Consistent := by
  rw [Document.Consistent, columns_leaveLine, level_leaveLine]
  exact hd

theorem setColumn_eq_of_consistent {d : Document} (hd : d.Consistent) (column : Nat) :
    d.setColumn column = .ok { d with columns := d.columns.set d.level column } := by
  rw [Document.setColumn, if_pos]
  rw [hd]
  exact Nat.lt_succ_self _

/-- On a consistent document the end of a line always finds the column of its block. -/
theorem adopt_eq_of_consistent {d : Document} (hd : d.Consistent) (kind : Kind)
    (indentation : Nat) :
    adopt d kind indentation =
      .ok { d with columns := settledColumns d (!settles d kind) indentation } := by
  rw [adopt, settledColumns, setColumn_eq_of_consistent hd]
  cases settles d kind with
  | false => rfl
  | true =>
    rcases d with ⟨level, columns, openedBlock, atLineEnd, continued, anchor⟩
    cases openedBlock <;> rfl

/-- **What a token does.**  On a consistent document a step gives the advanced document, unless one
of its sums passes its bound. -/
theorem step_eq (t : Tracker) {d : Document} (hd : d.Consistent) (token : Token)
    (indentation : Nat) :
    t.step d token indentation =
      if t.Fits d.level token indentation then .ok (t.advanced d token indentation)
      else .error .overflow := by
  have hl := consistent_leaveLine hd
  rw [← level_leaveLine d, advanced]
  show (t.note (leaveLine d) token indentation >>= fun d =>
    adopt d token.kind indentation >>= fun d => t.nest d token.kind indentation) = _
  generalize leaveLine d = d at hl
  rw [note]
  cases hk : token.kind with
  | blockOpen =>
    show (addBelow columnBound indentation t.indentUnit >>= fun column =>
      addBelow columnBound d.level 1 >>= fun level => pure _) = _
    rcases Nat.lt_or_ge (indentation + t.indentUnit) columnBound with hc | hc
    · rcases Nat.lt_or_ge (d.level + 1) columnBound with hv | hv
      · rw [addBelow_of_lt hc, addBelow_of_lt hv, if_pos ⟨by simp [hk], fun _ => ⟨hc, hv⟩⟩]
        rfl
      · rw [addBelow_of_lt hc, addBelow_of_le hv, if_neg fun h => ?_]
        · rfl
        · exact Nat.not_lt.2 hv (h.2 hk).2
    · rw [addBelow_of_le hc, if_neg fun h => ?_]
      · rfl
      · exact Nat.not_lt.2 hc (h.2 hk).1
  | function =>
    show ((addBelow columnBound (token.column - indentation) t.anchorOffset).map _ >>= fun d =>
      .ok d) = _
    rcases Nat.lt_or_ge (token.column - indentation + t.anchorOffset) columnBound with hc | hc
    · rw [addBelow_of_lt hc, if_pos ⟨fun _ => hc, by simp [hk]⟩]
      rfl
    · rw [addBelow_of_le hc, if_neg fun h => ?_]
      · rfl
      · exact Nat.not_lt.2 hc (h.1 hk)
  | blockClose =>
    rw [if_pos ⟨by simp [hk], by simp [hk]⟩]
    show (if d.level = 0 then Except.ok d else .ok _) = _
    split <;> rfl
  | endOfLine =>
    rw [if_pos ⟨by simp [hk], by simp [hk]⟩]
    show (adopt d .endOfLine indentation >>= fun d => t.nest d .endOfLine indentation) = _
    rw [adopt_eq_of_consistent hl, settles, Bool.not_not]
    rfl
  | lineContinuation =>
    rw [if_pos ⟨by simp [hk], by simp [hk]⟩]
    have hc : Document.Consistent { d with continued := true } := hl
    show (adopt { d with continued := true } .lineContinuation indentation >>= fun d => .ok d) = _
    rw [adopt_eq_of_consistent hc]
    rfl
  | error =>
    rw [if_pos ⟨by simp [hk], by simp [hk]⟩]
    rfl
  | named name =>
    rw [if_pos ⟨by simp [hk], by simp [hk]⟩]
    rfl

/-! ## What a step keeps -/

/-- The nesting level after a token of a kind: one more after the start of a block, and after the
end of one the level is one less, but never below zero. -/
def levelAfter (level : Nat) : Kind → Nat
  | .blockOpen => level + 1
  | .blockClose => level - 1
  | _ => level

theorem level_advanced (t : Tracker) (d : Document) (token : Token) (indentation : Nat) :
    (t.advanced d token indentation).level = levelAfter d.level token.kind := by
  rw [advanced, ← level_leaveLine d]
  cases token.kind with
  | blockClose =>
    show (if (leaveLine d).level = 0 then _ else _ : Document).level = (leaveLine d).level - 1
    split
    · rename_i h
      rw [h]
    · rfl
  | _ => rfl

section Flags

variable (t : Tracker) (d : Document) (token : Token) (indentation : Nat)

theorem openedBlock_advanced : (t.advanced d token indentation).openedBlock =
    ((leaveLine d).openedBlock || token.kind == .blockOpen) := by
  rw [advanced]
  cases token.kind <;> simp [apply_ite Document.openedBlock]

theorem atLineEnd_advanced :
    (t.advanced d token indentation).atLineEnd = (token.kind == .endOfLine) := by
  rw [advanced]
  cases token.kind <;> simp [apply_ite Document.atLineEnd]

theorem continued_advanced : (t.advanced d token indentation).continued =
    (token.kind != .endOfLine && (d.continued || token.kind == .lineContinuation)) := by
  rw [advanced, Bool.eq_iff_iff]
  cases token.kind <;> simp [apply_ite Document.continued]

end Flags

@[simp]
theorem length_settledColumns (d : Document) (kept : Bool) (indentation : Nat) :
    (settledColumns d kept indentation).length = d.columns.length := by
  rw [settledColumns]
  split
  · rfl
  · exact List.length_set

theorem consistent_advanced (t : Tracker) {d : Document} (hd : d.Consistent) (token : Token)
    (indentation : Nat) : (t.advanced d token indentation).Consistent := by
  have hl := consistent_leaveLine hd
  rw [advanced]
  generalize leaveLine d = d at hl
  rw [Document.Consistent] at hl ⊢
  cases token.kind with
  | blockOpen => simp [hl]
  | blockClose =>
    show (if d.level = 0 then _ else _ : Document).columns.length
      = (if d.level = 0 then _ else _ : Document).level + 1
    split
    · exact hl
    · show d.columns.dropLast.length = d.level - 1 + 1
      rw [List.length_dropLast, hl]
      omega
  | endOfLine => exact (length_settledColumns d _ indentation).trans hl
  | lineContinuation => exact (length_settledColumns d _ indentation).trans hl
  | function => exact hl
  | error => exact hl
  | named name => exact hl

/-- On a consistent document a step that succeeds gives the advanced document. -/
theorem eq_advanced_of_step (t : Tracker) {d e : Document} (hd : d.Consistent) {token : Token}
    {indentation : Nat} (h : t.step d token indentation = .ok e) :
    e = t.advanced d token indentation := by
  rw [step_eq t hd] at h
  split at h
  · exact (Except.ok.inj h).symm
  · cases h

theorem safe_step (t : Tracker) {d : Document} (hd : d.Consistent) (token : Token)
    (indentation : Nat) : Safe (t.step d token indentation) := by
  rw [step_eq t hd]
  split
  · exact consistent_advanced t hd token indentation
  · rfl

/-- A step never misses the column of a level. -/
theorem step_ne_missingLevel (t : Tracker) {d : Document} (hd : d.Consistent) (token : Token)
    (indentation : Nat) : t.step d token indentation ≠ .error .missingLevel := by
  rw [step_eq t hd]
  split
  · intro h
    cases h
  · intro h
    cases h

/-- Up to the current one every level has a column. -/
theorem exists_columnAt_eq_ok {d : Document} (hd : d.Consistent) {level : Nat}
    (h : level ≤ d.level) : ∃ column, d.columnAt level = .ok column := by
  have hlt : level < d.columns.length := by
    rw [hd]
    omega
  exact ⟨d.columns[level], by rw [Document.columnAt, List.getElem?_eq_getElem hlt]⟩

/-- A suggestion never misses the column of a level. -/
theorem suggest_ne_missingLevel (t : Tracker) {d : Document} (hd : d.Consistent)
    (text : List Char) : t.suggest d text ≠ .error .missingLevel := by
  rw [suggest]
  split
  · obtain ⟨column, hc⟩ := exists_columnAt_eq_ok hd (Nat.sub_le d.level 1)
    rw [hc]
    intro h
    cases h
  · obtain ⟨column, hc⟩ := exists_columnAt_eq_ok hd (Nat.le_refl d.level)
    rw [Document.column, hc]
    show (if d.continued = true then addBelow columnBound column d.anchor else pure column) ≠ _
    split
    · intro h
      cases addBelow_fault h
    · intro h
      cases h

/-! ## Runs -/

/-- Moves the state of a document along tokens, each on a line with its own indentation. -/
def trackRun (t : Tracker) (d : Document) : List (Token × Nat) → Logged Document
  | [] => pure d
  | (token, indentation) :: run => do
    let d ← t.track d token indentation
    t.trackRun d run

theorem trackRun_append (t : Tracker) (d : Document) (early late : List (Token × Nat)) :
    t.trackRun d (early ++ late) = t.trackRun d early >>= (t.trackRun · late) := by
  induction early generalizing d with
  | nil => rw [List.nil_append, trackRun, pure_bind]
  | cons x early ih => simp only [List.cons_append, trackRun, ih, bind_assoc]

theorem safe_trackRun (t : Tracker) {d : Document} (hd : d.Consistent)
    (run : List (Token × Nat)) : Safe (t.trackRun d run).outcome := by
  induction run generalizing d with
  | nil => exact hd
  | cons x run ih =>
    rw [trackRun, Logged.outcome_bind, outcome_track]
    exact (t.safe_step hd x.1 x.2).bind fun e he => ih he

/-- The last token of a run advances the document that the others lead to. -/
theorem exists_of_trackRun_concat (t : Tracker) {d e : Document} (hd : d.Consistent)
    {run : List (Token × Nat)} {x : Token × Nat}
    (h : (t.trackRun d (run ++ [x])).outcome = .ok e) :
    ∃ before, (t.trackRun d run).outcome = .ok before ∧ e = t.advanced before x.1 x.2 := by
  rw [trackRun_append, Logged.outcome_bind, bind_eq_ok_iff] at h
  obtain ⟨before, hbefore, hlast⟩ := h
  have hconsistent := (t.safe_trackRun hd run).consistent hbefore
  have hstep : t.step before x.1 x.2 = .ok e := by simpa [trackRun] using hlast
  exact ⟨before, hbefore, t.eq_advanced_of_step hconsistent hstep⟩

/-- A token whose sums fit is tracked, and leaves its events in the log. -/
theorem track_eq_of_fits (t : Tracker) {d : Document} (hd : d.Consistent) {token : Token}
    {indentation : Nat} (hf : t.Fits d.level token indentation) :
    t.track d token indentation =
      ⟨Tracker.events d (t.advanced d token indentation) token,
        .ok (t.advanced d token indentation)⟩ := by
  rw [track, step_eq t hd, if_pos hf]

/-- A run goes on from the document after its first token, with the events of that token first. -/
theorem trackRun_cons_of_fits (t : Tracker) {d : Document} (hd : d.Consistent) {token : Token}
    {indentation : Nat} (hf : t.Fits d.level token indentation) (run : List (Token × Nat)) :
    t.trackRun d ((token, indentation) :: run) =
      ⟨Tracker.events d (t.advanced d token indentation) token
          ++ (t.trackRun (t.advanced d token indentation) run).events,
        (t.trackRun (t.advanced d token indentation) run).outcome⟩ := by
  show Logged.bind (t.track d token indentation) _ = _
  rw [track_eq_of_fits t hd hf, Logged.bind]

/-- The sums of all steps of a run stay below their bounds. -/
def RunFits (t : Tracker) : Nat → List (Token × Nat) → Prop
  | _, [] => True
  | level, (token, indentation) :: run =>
    t.Fits level token indentation ∧ t.RunFits (levelAfter level token.kind) run

instance decidableRunFits (t : Tracker) :
    (level : Nat) → (run : List (Token × Nat)) → Decidable (t.RunFits level run)
  | _, [] => .isTrue trivial
  | level, (token, _) :: run =>
    have := decidableRunFits t (levelAfter level token.kind) run
    inferInstanceAs (Decidable (_ ∧ _))

theorem RunFits.of_append {t : Tracker} {level : Nat} {early late : List (Token × Nat)}
    (h : t.RunFits level (early ++ late)) : t.RunFits level early := by
  induction early generalizing level with
  | nil => trivial
  | cons x early ih =>
    obtain ⟨hx, hrun⟩ := h
    exact ⟨hx, ih hrun⟩

end Tracker

end EditorMode
