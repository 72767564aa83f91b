import Mathlib.Data.List.Basic

/-!
# Outcomes and runs

Small facts that many of the proofs share: when a computation that may break off gives a result, and
where a run of characters ends in a text that is put together of two.
-/

set_option autoImplicit false

namespace EditorMode

/-! ## Outcomes -/

section Outcome

variable {ε α β : Type} {x : Except ε α} {f : α → Except ε β}

@[simp]
theorem ok_bind (a : α) (f : α → Except ε β) : (.ok a >>= f : Except ε β) = f a := rfl

theorem bind_eq_ok_iff {b : β} : x >>= f = .ok b ↔ ∃ a, x = .ok a ∧ f a = .ok b := by
  cases x with
  | error fault => simp [Bind.bind, Except.bind]
  | ok a => simp

theorem bind_eq_error_iff {fault : ε} :
    x >>= f = .error fault ↔ x = .error fault ∨ ∃ a, x = .ok a ∧ f a = .error fault := by
  cases x with
  | error other => simp [Bind.bind, Except.bind]
  | ok a => simp

theorem map_eq_ok_iff {g : α → β} {b : β} : x.map g = .ok b ↔ ∃ a, x = .ok a ∧ g a = b := by
  cases x with
  | error fault => simp [Except.map]
  | ok a => simp [Except.map]

end Outcome

/-! ## Runs of characters -/

section Runs

variable {p : Char → Bool} {tail : List Char} (htail : ∀ c ∈ tail.head?, p c = false)

include htail

/-- A run ends where the text does, if what follows does not go on with it. -/
theorem Text.takeWhile_append_left (text : List Char) :
    (text ++ tail).takeWhile p = text.takeWhile p := by
  induction text with
  | nil =>
    cases tail with
    | nil => rfl
    | cons c tail => simp [htail c rfl]
  | cons c text ih => cases hc : p c <;> simp [hc, ih]

theorem Text.dropWhile_append_left (text : List Char) :
    (text ++ tail).dropWhile p = text.dropWhile p ++ tail := by
  induction text with
  | nil =>
    cases tail with
    | nil => rfl
    | cons c tail => simp [htail c rfl]
  | cons c text ih => cases hc : p c <;> simp [hc, ih]

omit htail

variable {text rest : List Char} {c : Char} (hstop : text.dropWhile p = c :: rest)

include hstop

/-- A run that ends before the end of the text does not depend on what follows the text. -/
theorem Text.takeWhile_append_of_stop (tail : List Char) :
    (text ++ tail).takeWhile p = text.takeWhile p := by
  have hlength := congrArg List.length (List.takeWhile_append_dropWhile (p := p) (l := text))
  rw [hstop, List.length_append, List.length_cons] at hlength
  rw [List.takeWhile_append, if_neg (by omega)]

theorem Text.dropWhile_append_of_stop (tail : List Char) :
    (text ++ tail).dropWhile p = c :: (rest ++ tail) := by
  rw [List.dropWhile_append, hstop]
  rfl

end Runs

end EditorMode
