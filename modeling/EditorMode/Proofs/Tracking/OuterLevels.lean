import EditorMode.Proofs.Tracking.Adoption
import Mathlib.Data.List.Infix

/-!
# What happens in a block stays in the block

A token writes to the columns of a document at their end only: it adds one, takes one away, or
replaces that of the current level.  So as long as the level does not fall below a given one
(`Tracker.StaysAbove`), the columns of all levels below the given one stay as they are, whatever
blocks are opened and closed in between and however their lines are indented.

In particular this holds of a run in which every block that is opened is closed, and no other block
is (`Balanced`): it comes back to the level from which it started.  What may have changed is the
column of this level itself.
-/

set_option autoImplicit false

namespace EditorMode

/-- Blocks are never closed before they are opened, and all are closed. -/
structure Balanced (kinds : List Kind) : Prop where
  closes_le : ∀ early, early <+: kinds → early.count .blockClose ≤ early.count .blockOpen
  total : kinds.count .blockClose = kinds.count .blockOpen

instance (kinds : List Kind) : Decidable (Balanced kinds) :=
  decidable_of_iff ((∀ early ∈ kinds.inits, early.count .blockClose ≤ early.count .blockOpen) ∧
      kinds.count .blockClose = kinds.count .blockOpen)
    ⟨fun h => ⟨fun early hearly => h.1 early ((List.mem_inits early kinds).2 hearly), h.2⟩,
      fun h => ⟨fun early hearly => h.closes_le early ((List.mem_inits early kinds).1 hearly),
        h.total⟩⟩

/-! ## Levels -/

/-- Where blocks are never closed before they are opened, the level counts them. -/
theorem Tracker.clampedLevel_add_count {level : Nat} {kinds : List Kind}
    (h : ∀ early, early <+: kinds → early.count .blockClose ≤ level + early.count .blockOpen) :
    clampedLevel level kinds + kinds.count .blockClose = level + kinds.count .blockOpen := by
  induction kinds using List.reverseRecOn with
  | nil => rfl
  | append_singleton kinds kind ih =>
    have hkinds := ih fun early hearly => h early (hearly.trans (List.prefix_append _ _))
    have hall := h _ List.prefix_rfl
    rw [clampedLevel_concat]
    rw [List.count_append, List.count_append] at hall ⊢
    cases kind with
    | blockOpen =>
      simp [levelAfter] at hall ⊢
      omega
    | blockClose =>
      simp [levelAfter] at hall ⊢
      omega
    | _ => simpa [levelAfter] using hkinds

namespace Balanced

variable {kinds : List Kind} (h : Balanced kinds) (level : Nat)

include h

/-- In the middle of balanced blocks the level is above the one at their start by the number of
blocks that are open. -/
theorem clampedLevel_add_count {early : List Kind} (hearly : early <+: kinds) :
    Tracker.clampedLevel level early + early.count .blockClose
      = level + early.count .blockOpen := by
  refine Tracker.clampedLevel_add_count fun first hfirst => ?_
  exact Nat.le_add_left_of_le (h.closes_le first (hfirst.trans hearly))

theorem le_clampedLevel {early : List Kind} (hearly : early <+: kinds) :
    level ≤ Tracker.clampedLevel level early := by
  have hcounts := h.clampedLevel_add_count level hearly
  have hcloses := h.closes_le early hearly
  omega

theorem clampedLevel_eq : Tracker.clampedLevel level kinds = level := by
  have hcounts := h.clampedLevel_add_count level List.prefix_rfl
  have htotal := h.total
  omega

end Balanced

/-! ## Columns -/

namespace Tracker

/-- The level does not fall below the given one during the run. -/
def StaysAbove (t : Tracker) (d : Document) (run : List (Token × Nat)) (level : Nat) : Prop :=
  ∀ early, early <+: run → ∀ e, (t.trackRun d early).outcome = .ok e → level ≤ e.level

variable (t : Tracker) {d e : Document} {level : Nat} {run : List (Token × Nat)}

/-- **One token and the outer levels.**  It leaves the columns below the current level alone. -/
theorem take_columns_advanced (hd : d.Consistent) (hlevel : level ≤ d.level) (token : Token)
    (indentation : Nat) :
    (t.advanced d token indentation).columns.take level = d.columns.take level := by
  have hlength : d.columns.length = d.level + 1 := hd
  rcases (midline_nil hd).columns_advanced t token indentation with
    ⟨-, h⟩ | ⟨-, h⟩ | ⟨-, h⟩ | ⟨-, h⟩
  · rw [h, List.take_append_of_le_length (by omega)]
  · rw [h]
    split
    · rfl
    · -- the column that is taken away is that of the current level
      rw [List.dropLast_eq_take, List.take_take, Nat.min_eq_left (by omega)]
  · rw [h, List.take_set_of_le hlevel]
  · rw [h]

/-- **A run and the outer levels.** -/
theorem take_columns_of_trackRun (hd : d.Consistent) (hlevel : t.StaysAbove d run level)
    (h : (t.trackRun d run).outcome = .ok e) : e.columns.take level = d.columns.take level := by
  induction run using List.reverseRecOn generalizing e with
  | nil =>
    obtain rfl := Except.ok.inj h
    rfl
  | append_singleton run x ih =>
    obtain ⟨before, hrun, rfl⟩ := t.exists_of_trackRun_concat hd h
    have hbefore : level ≤ before.level := hlevel run (List.prefix_append run [x]) before hrun
    have hconsistent := (t.safe_trackRun hd run).consistent hrun
    rw [t.take_columns_advanced hconsistent hbefore]
    refine ih ?_ hrun
    intro early hearly
    exact hlevel early (hearly.trans (List.prefix_append run [x]))

/-- A run whose blocks balance closes no block that was open before it. -/
theorem staysAbove_of_balanced (hd : d.Consistent) (h : Balanced (run.map (·.1.kind))) :
    t.StaysAbove d run d.level := by
  intro early hearly e he
  rw [t.level_of_trackRun hd he]
  exact h.le_clampedLevel d.level (hearly.map _)

/-- **Outer levels.**  Take a consistent document and tokens whose sums stay below their bounds.
After them the columns of all levels below a given one are what they were before, provided that the
level of the document has not fallen below the given one in between.  In particular, if the blocks
of the run balance, the level is the one before the run, and the columns of all levels outside of it
are untouched. -/
theorem trackRun_outerLevels (hd : d.Consistent)
    (hfits : (t.trackRun d run).outcome ≠ .error .overflow) :
    ∃ e, (t.trackRun d run).outcome = .ok e ∧
      (∀ level, t.StaysAbove d run level → e.columns.take level = d.columns.take level) ∧
      (Balanced (run.map (·.1.kind)) →
        e.level = d.level ∧ e.columns.take d.level = d.columns.take d.level) := by
  obtain ⟨e, he, -⟩ := (t.safe_trackRun hd run).exists_eq_ok hfits
  refine ⟨e, he, fun level hlevel => t.take_columns_of_trackRun hd hlevel he, ?_⟩
  intro hbalanced
  refine ⟨?_, t.take_columns_of_trackRun hd (t.staysAbove_of_balanced hd hbalanced) he⟩
  rw [t.level_of_trackRun hd he, hbalanced.clampedLevel_eq]

/-- Two blocks, one within the other, in lines of any indentation.  The line before them has moved
the column of the level from which they start, but not the columns outside of it. -/
theorem trackRun_outerLevels_nested :
    let d : Document := ⟨2, [3, 1, 7], false, true, false, 0⟩
    let opens : Token × Nat := (.new .blockOpen ['\x7b'] 4, 0)
    let closes : Token × Nat := (.new .blockClose ['\x7d'] 4, 0)
    let run := [(.endOfLine 3 0 0, 9), opens, (.endOfLine 4 0 0, 0), (.endOfLine 5 0 0, 12), opens,
      closes, (.new .lineContinuation [] 6, 5), closes]
    d.Consistent ∧ (standard.trackRun d run).outcome ≠ .error .overflow ∧
      Balanced (run.map (·.1.kind)) ∧ standard.StaysAbove d run 2 ∧
      ∃ e, (standard.trackRun d run).outcome = .ok e ∧ e.level = 2 ∧ e.columns.take 2 = [3, 1] ∧
        e.columns = [3, 1, 9] := by
  intro d opens closes run
  have hd : d.Consistent := rfl
  have hrun : (standard.trackRun d run).outcome = .ok ⟨2, [3, 1, 9], true, false, true, 0⟩ := rfl
  have hfits : (standard.trackRun d run).outcome ≠ .error .overflow := by
    rw [hrun]
    simp
  have hbalanced : Balanced (run.map (·.1.kind)) := by decide
  have habove := staysAbove_of_balanced standard hd hbalanced
  obtain ⟨e, he, houter, hinner⟩ := trackRun_outerLevels standard hd hfits
  have hcolumns := houter 2 habove
  obtain ⟨hlevel, -⟩ := hinner hbalanced
  obtain rfl := Except.ok.inj (hrun.symm.trans he)
  exact ⟨hd, hfits, hbalanced, habove, _, he, hlevel, hcolumns, rfl⟩

end Tracker

end EditorMode
