import EditorMode.Proofs.Tracking
import EditorMode.Stored.Document
import Mathlib.Data.List.Induction

/-!
# Nesting levels along a run

A run of tokens keeps a document consistent, whatever the tokens are: blocks may be closed that were
never opened, and may stay open.  `Tracker.trackRun_levels` says what the level is after any part of
the run, in two ways.  It is that of a counter which never goes below zero (`clampedLevel`), and it
balances: the blocks opened and the blocks closed differ by the change of level, once the closing
tokens that were ignored are taken into account.  The log tells which ones these are
(`ignoredCloses`).

The document at the start is a new one, or one that was stored and has passed the check on reading.
-/

set_option autoImplicit false

namespace EditorMode

/-- Whether the event reports a closing token that was ignored. -/
def Event.isCloseIgnored : Event → Bool
  | .closeIgnored _ => true
  | _ => false

namespace Tracker

/-- The level after tokens of the given kinds, by a counter that never goes below zero. -/
def clampedLevel (level : Nat) (kinds : List Kind) : Nat := kinds.foldl levelAfter level

/-- The number of tokens of a kind in a run. -/
def countKind (kind : Kind) (run : List (Token × Nat)) : Nat :=
  run.countP fun x => x.1.kind == kind

theorem countKind_cons (kind : Kind) (token : Token) (indentation : Nat)
    (run : List (Token × Nat)) :
    countKind kind ((token, indentation) :: run)
      = countKind kind run + if token.kind == kind then 1 else 0 :=
  List.countP_cons

/-- The number of closing tokens that a log reports as ignored. -/
def ignoredCloses (events : List Event) : Nat := events.countP Event.isCloseIgnored

theorem ignoredCloses_append (early late : List Event) :
    ignoredCloses (early ++ late) = ignoredCloses early + ignoredCloses late :=
  List.countP_append

/-- The log of a token reports an ignored close if there is no block to close, and only then. -/
theorem ignoredCloses_events (d e : Document) (token : Token) :
    ignoredCloses (Tracker.events d e token) = if ignoresClose d token then 1 else 0 := by
  rw [Tracker.events, ignoredCloses_append]
  cases ignoresClose d token <;> rfl

/-- **A step balances**: the level changes by the block that the token opens or closes, unless the
token is a close that is ignored. -/
theorem step_balance (d : Document) (token : Token) :
    d.level + (if token.kind == .blockOpen then 1 else 0)
        + (if ignoresClose d token then 1 else 0)
      = levelAfter d.level token.kind + (if token.kind == .blockClose then 1 else 0) := by
  rw [ignoresClose]
  cases token.kind with
  | blockClose =>
    rcases Nat.eq_zero_or_pos d.level with h | h
    · simp [levelAfter, h]
    · have hne : d.level ≠ 0 := by omega
      simp only [levelAfter, beq_self_eq_true, Bool.true_and, beq_iff_eq, hne, if_false, if_true,
        reduceCtorEq]
      omega
  | _ => rfl

/-- What a run of tokens does to the level of a consistent document. -/
theorem trackRun_of_runFits (t : Tracker) {d : Document} (hd : d.Consistent)
    {run : List (Token × Nat)} (hrun : t.RunFits d.level run) :
    ∃ e, (t.trackRun d run).outcome = .ok e ∧ e.Consistent ∧
      e.level = clampedLevel d.level (run.map (·.1.kind)) ∧
      d.level + countKind .blockOpen run + ignoredCloses (t.trackRun d run).events
        = e.level + countKind .blockClose run := by
  induction run generalizing d with
  | nil => exact ⟨d, rfl, hd, rfl, rfl⟩
  | cons x run ih =>
    obtain ⟨token, indentation⟩ := x
    obtain ⟨hf, hrest⟩ := hrun
    rw [← level_advanced t d token indentation] at hrest
    obtain ⟨e, hout, he, hlevel, hbalance⟩ := ih (consistent_advanced t hd token indentation) hrest
    rw [trackRun_cons_of_fits t hd hf]
    refine ⟨e, hout, he, ?_, ?_⟩
    · rw [hlevel, level_advanced]
      rfl
    · rw [level_advanced] at hbalance
      rw [ignoredCloses_append, ignoredCloses_events, countKind_cons, countKind_cons]
      have hstep := step_balance d token
      omega

/-- Where a run succeeds, the level after it is that of the clamped counter. -/
theorem level_of_trackRun (t : Tracker) {d e : Document} (hd : d.Consistent)
    {run : List (Token × Nat)} (h : (t.trackRun d run).outcome = .ok e) :
    e.level = clampedLevel d.level (run.map (·.1.kind)) := by
  induction run using List.reverseRecOn generalizing e with
  | nil =>
    obtain rfl := Except.ok.inj h
    rfl
  | append_singleton run x ih =>
    obtain ⟨before, hbefore, rfl⟩ := t.exists_of_trackRun_concat hd h
    rw [level_advanced, ih hbefore, List.map_append, clampedLevel, clampedLevel, List.foldl_append]
    rfl

/-- A stored document that passes the check is consistent. -/
theorem consistent_of_checked {fields d : Document} (h : fields.checked = .ok d) :
    d.Consistent := by
  rw [Document.checked, Document.isConsistent] at h
  rcases Nat.lt_or_ge (fields.level + 1) columnBound with hb | hb
  · rw [addBelow_of_lt hb] at h
    by_cases hc : fields.columns.length = fields.level + 1
    · simp only [Except.map, hc, beq_self_eq_true, Except.ok.injEq] at h
      exact h ▸ hc
    · simp only [Except.map, beq_eq_false_iff_ne.2 hc, reduceCtorEq] at h
  · rw [addBelow_of_le hb] at h
    cases h

/-- **Levels along a run.**  Take a new document, or one that has passed the check on reading, and
tokens whose sums stay below their bounds.  After any part of the run, from its start on, every
level up to the current one has a column, so that neither the next token nor a question for a column
misses one; the level is that of the clamped counter; and it balances with the numbers of blocks
opened, blocks closed and closes ignored. -/
theorem trackRun_levels (t : Tracker) {d : Document}
    (hd : d = .start ∨ ∃ fields : Document, fields.checked = .ok d) {run : List (Token × Nat)}
    (hrun : t.RunFits d.level run) {early : List (Token × Nat)} (hearly : early <+: run) :
    ∃ e, (t.trackRun d early).outcome = .ok e ∧
      e.columns.length = e.level + 1 ∧
      e.level = clampedLevel d.level (early.map (·.1.kind)) ∧
      d.level + countKind .blockOpen early + ignoredCloses (t.trackRun d early).events
        = e.level + countKind .blockClose early ∧
      (∃ column, e.column = .ok column) ∧
      (∀ token indentation, t.step e token indentation ≠ .error .missingLevel) ∧
      (∀ text, t.suggest e text ≠ .error .missingLevel) := by
  have hc : d.Consistent := by
    rcases hd with rfl | ⟨fields, h⟩
    · exact Document.consistent_start
    · exact consistent_of_checked h
  obtain ⟨late, rfl⟩ := hearly
  obtain ⟨e, hout, he, hlevel, hbalance⟩ := trackRun_of_runFits t hc hrun.of_append
  exact ⟨e, hout, he, hlevel, hbalance, exists_columnAt_eq_ok he (Nat.le_refl _),
    step_ne_missingLevel t he, suggest_ne_missingLevel t he⟩

/-- A restored document with one open block: of three closes two are ignored, and the block opened
after them is open at the end. -/
theorem trackRun_levels_restored :
    let d : Document := ⟨1, [0, 4], false, true, false, 0⟩
    let close : Token × Nat := (.new .blockClose ['\x7d'] 7, 4)
    let run := [close, close, (.new .function [] 7, 4), close, (.new .blockOpen ['\x7b'] 7, 4),
      (.new .endOfLine [] 7, 4)]
    d.checked = .ok d ∧ standard.RunFits d.level run ∧ ∃ e,
      (standard.trackRun d run).outcome = .ok e ∧ e.columns.length = e.level + 1 ∧
      e.level = 1 ∧ ignoredCloses (standard.trackRun d run).events = 2 := by
  intro d close run
  have hd : d.checked = .ok d := by rfl
  have hrun : standard.RunFits d.level run := by decide
  obtain ⟨e, hout, hlen, hlevel, hbalance, -⟩ :=
    trackRun_levels standard (.inr ⟨d, hd⟩) hrun (List.prefix_rfl)
  have h1 : e.level = 1 := hlevel
  have h2 : d.level + countKind .blockOpen run = 2 := by rfl
  have h3 : countKind .blockClose run = 3 := by rfl
  exact ⟨hd, hrun, e, hout, hlen, h1, by omega⟩

end Tracker

end EditorMode
