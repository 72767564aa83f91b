import EditorMode.Proofs.Tracking

/-!
# States that no token can tell apart

The flags that say whether a line has ended and whether it opened a block are reset late, by the
next token, whatever its kind is.  So two states may differ in these flags and still be the same
once a token has left the line (`Document.Alike`): a token makes them equal
(`Tracker.step_of_alike`), and a suggestion does not tell them apart (`Tracker.suggest_of_alike`).

The tokens of which this is all that they do are inert (`Kind.isInert`): error tokens, and tokens
that are known by their name only.  They must not be left out of a run without a second thought,
since the reset decides whether the end of a line finds a block that was opened.  But the token
after them would have done the same.  A run and the same run with inert tokens inserted into it
(`Tracker.Padded`) are out of step by a reset at most, and only until the next token of both
(`Tracker.trackRun_of_padded`).
-/

set_option autoImplicit false

namespace EditorMode

/-- The states are the same once the next token has left the line before it. -/
def Document.Alike (d e : Document) : Prop := Tracker.leaveLine d = Tracker.leaveLine e

/-- Whether a token of this kind does nothing but leave the line before it. -/
def Kind.isInert : Kind → Bool
  | .error | .named _ => true
  | _ => false

namespace Tracker

/-! ## Alike states -/

section Alike

variable (t : Tracker) {d e : Document}

theorem suggest_leaveLine (d : Document) (text : List Char) :
    t.suggest (leaveLine d) text = t.suggest d text := by
  simp only [suggest, Document.column, Document.columnAt, level_leaveLine, columns_leaveLine,
    continued_leaveLine, anchor_leaveLine]

theorem suggest_of_alike (h : d.Alike e) (text : List Char) :
    t.suggest d text = t.suggest e text := by
  rw [← t.suggest_leaveLine d, h, t.suggest_leaveLine]

theorem step_of_alike (h : d.Alike e) (token : Token) (indentation : Nat) :
    t.step d token indentation = t.step e token indentation := by
  rw [step, step, h]

/-- One token is enough. -/
theorem outcome_trackRun_of_alike (h : d.Alike e) {run : List (Token × Nat)} (hrun : run ≠ []) :
    (t.trackRun d run).outcome = (t.trackRun e run).outcome := by
  obtain ⟨⟨token, indentation⟩, run, rfl⟩ := List.exists_cons_of_ne_nil hrun
  simp only [trackRun, Logged.outcome_bind, outcome_track, t.step_of_alike h]

/-- Alike states differ in two flags at most. -/
theorem fields_of_alike (h : d.Alike e) :
    d.level = e.level ∧ d.columns = e.columns ∧ d.continued = e.continued ∧
      d.anchor = e.anchor := by
  refine ⟨?_, ?_, ?_, ?_⟩
  · simpa using congrArg Document.level h
  · simpa using congrArg Document.columns h
  · simpa using congrArg Document.continued h
  · simpa using congrArg Document.anchor h

theorem alike_leaveLine (d : Document) : d.Alike (leaveLine d) :=
  (leaveLine_of_atLineEnd (atLineEnd_leaveLine d)).symm

end Alike

/-! ## Inert tokens -/

/-- The second run is the first one with inert tokens inserted into it. -/
inductive Padded : List (Token × Nat) → List (Token × Nat) → Prop
  | nil : Padded [] []
  | keep (x : Token × Nat) {run padded : List (Token × Nat)} (h : Padded run padded) :
      Padded (x :: run) (x :: padded)
  | insert {x : Token × Nat} (hx : x.1.kind.isInert = true) {run padded : List (Token × Nat)}
      (h : Padded run padded) : Padded run (x :: padded)

variable (t : Tracker) {d e : Document} {run padded : List (Token × Nat)}

theorem step_of_isInert (d : Document) {token : Token} (h : token.kind.isInert = true)
    (indentation : Nat) : t.step d token indentation = .ok (leaveLine d) := by
  rw [step, note]
  cases hkind : token.kind with
  | error => rfl
  | named name => rfl
  | _ => simp [hkind, Kind.isInert] at h

/-- **Runs in step.**  From alike states, a run and a padded one come to alike states, or break off
with the same fault. -/
theorem alike_trackRun_of_padded (h : Padded run padded) (hd : d.Alike e) :
    (∃ fault, (t.trackRun d run).outcome = .error fault ∧
        (t.trackRun e padded).outcome = .error fault) ∨
      ∃ f g, (t.trackRun d run).outcome = .ok f ∧ (t.trackRun e padded).outcome = .ok g ∧
        f.Alike g := by
  induction h generalizing d e with
  | nil => exact .inr ⟨d, e, rfl, rfl, hd⟩
  | keep x _ ih =>
    -- the token of both runs makes the states equal
    simp only [trackRun, Logged.outcome_bind, outcome_track, t.step_of_alike hd]
    cases t.step e x.1 x.2 with
    | error fault => exact .inl ⟨fault, rfl, rfl⟩
    | ok f => exact ih rfl
  | insert hx _ ih =>
    simp only [trackRun, Logged.outcome_bind, outcome_track, t.step_of_isInert e hx, ok_bind]
    exact ih (hd.trans (alike_leaveLine e))

/-- A token that is not inert has not been inserted. -/
theorem Padded.exists_of_concat {x : Token × Nat} (h : Padded run (padded ++ [x]))
    (hx : x.1.kind.isInert = false) :
    ∃ early, run = early ++ [x] ∧ Padded early padded := by
  induction padded generalizing run with
  | nil =>
    cases h with
    | keep _ h =>
      cases h
      exact ⟨[], rfl, .nil⟩
    | insert hinert _ => exact absurd hinert (by simp [hx])
  | cons y padded ih =>
    cases h with
    | keep _ h =>
      obtain ⟨early, rfl, hearly⟩ := ih h
      exact ⟨y :: early, rfl, hearly.keep y⟩
    | insert hinert h =>
      obtain ⟨early, rfl, hearly⟩ := ih h
      exact ⟨early, rfl, hearly.insert hinert⟩

/-- After one more token the states are equal. -/
theorem outcome_trackRun_concat_of_padded (h : Padded run padded) (d : Document)
    (x : Token × Nat) :
    (t.trackRun d (run ++ [x])).outcome = (t.trackRun d (padded ++ [x])).outcome := by
  rw [trackRun_append, trackRun_append, Logged.outcome_bind, Logged.outcome_bind]
  rcases t.alike_trackRun_of_padded h (rfl : d.Alike d) with
    ⟨fault, hrun, hpadded⟩ | ⟨f, g, hrun, hpadded, halike⟩
  · rw [hrun, hpadded]
  · rw [hrun, hpadded, ok_bind, ok_bind]
    exact t.outcome_trackRun_of_alike halike (List.cons_ne_nil x [])

/-- **Inert tokens do not count.**  Insert error tokens and tokens that are known by their name only
into a run, as many as one likes, with any columns and in lines of any indentation.  Then both runs
break off because a sum passes its bound, or both come to their end.  There the level, the columns,
the continuation and the alignment column are the same, and so are all suggestions; and if both end
with the same token and it is not an inert one, the states are the same in every field. -/
theorem trackRun_of_padded (hd : d.Consistent) (h : Padded run padded) :
    ((t.trackRun d run).outcome = .error .overflow ∧
        (t.trackRun d padded).outcome = .error .overflow) ∨
      ∃ f g, (t.trackRun d run).outcome = .ok f ∧ (t.trackRun d padded).outcome = .ok g ∧
        (g.level = f.level ∧ g.columns = f.columns ∧ g.continued = f.continued ∧
          g.anchor = f.anchor) ∧
        (∀ text, t.suggest g text = t.suggest f text) ∧
        ∀ x : Token × Nat, run.getLast? = some x → padded.getLast? = some x →
          x.1.kind.isInert = false → g = f := by
  rcases t.alike_trackRun_of_padded h (rfl : d.Alike d) with
    ⟨fault, hrun, hpadded⟩ | ⟨f, g, hrun, hpadded, halike⟩
  · obtain rfl := (t.safe_trackRun hd run).eq_overflow hrun
    exact .inl ⟨hrun, hpadded⟩
  · refine .inr ⟨f, g, hrun, hpadded, fields_of_alike halike.symm, ?_, ?_⟩
    · intro text
      exact t.suggest_of_alike halike.symm text
    · intro x _ hlast hinert
      obtain ⟨early, rfl⟩ := List.getLast?_eq_some_iff.1 hlast
      obtain ⟨before, rfl, hbefore⟩ := h.exists_of_concat hinert
      rw [t.outcome_trackRun_concat_of_padded hbefore d x, hpadded] at hrun
      exact Except.ok.inj hrun

/-- A name after the end of a line resets the flags of the line that opened a block, and an error
token stands between two ends of lines; without them the states are the same. -/
theorem trackRun_of_padded_block :
    let d : Document := ⟨1, [0, 4], true, true, false, 0⟩
    let opening : Token × Nat := (.new .blockOpen ['\x7b'] 3, 4)
    let ends : Token × Nat := (.endOfLine 3 0 0, 6)
    let name : Token × Nat := (⟨.named "ID", ['x'], 3, 0, 40⟩, 9)
    let stray : Token × Nat := (⟨.error, ['$'], 3, 0, 2⟩, 0)
    d.Consistent ∧ Padded [opening, ends, ends] [name, opening, stray, ends, name, stray, ends] ∧
      ∃ f, (standard.trackRun d [opening, ends, ends]).outcome = .ok f ∧
        (standard.trackRun d [name, opening, stray, ends, name, stray, ends]).outcome = .ok f ∧
        f.columns = [0, 4, 6] := by
  intro d opening ends name stray
  have hpadded : Padded [opening, ends, ends] [name, opening, stray, ends, name, stray, ends] :=
    .insert rfl (.keep _ (.insert rfl (.keep _ (.insert rfl (.insert rfl (.keep _ .nil))))))
  have hrun : (standard.trackRun d [opening, ends, ends]).outcome =
      .ok ⟨2, [0, 4, 6], false, true, false, 0⟩ := rfl
  have hd : d.Consistent := rfl
  rcases trackRun_of_padded standard hd hpadded with ⟨hfault, -⟩ | ⟨f, g, hf, hg, -, -, heq⟩
  · rw [hrun] at hfault
    cases hfault
  · obtain rfl := heq ends rfl rfl rfl
    obtain rfl := Except.ok.inj (hrun.symm.trans hf)
    exact ⟨hd, hpadded, _, hf, hg, rfl⟩

end Tracker

end EditorMode
