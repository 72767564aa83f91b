import EditorMode.Event

/-!
# Computations with a log

`Logged α` is a computation that yields a value or breaks off with a fault, and writes events to a
log on its way.  A fault ends the computation; the events before it are kept.

The lemmas say what each operation does to the outcome: there a log makes no difference.  Rows of
computations can be regrouped, with their logs (`LawfulMonad`).
-/

set_option autoImplicit false

namespace EditorMode

/-- A computation with a log. -/
structure Logged (α : Type) where
  events : List Event
  outcome : Except Fault α

namespace Logged

variable {α β : Type}

/-- The computation that does nothing. -/
def pure (a : α) : Logged α := ⟨[], .ok a⟩

/-- Two computations in a row; the second one is not reached after a fault. -/
def bind (x : Logged α) (f : α → Logged β) : Logged β :=
  match x.outcome with
  | .error e => ⟨x.events, .error e⟩
  | .ok a => ⟨x.events ++ (f a).events, (f a).outcome⟩

instance : Monad Logged where
  pure := pure
  bind := bind

instance : LawfulMonad Logged := LawfulMonad.mk' Logged
  (by
    rintro α ⟨events, outcome⟩
    show bind _ (fun a => pure a) = _
    cases outcome with
    | error e => rfl
    | ok a => exact congrArg (Logged.mk · _) (List.append_nil events))
  (fun _ _ => rfl)
  (by
    rintro α β γ ⟨events, outcome⟩ f g
    show bind (bind _ f) g = bind _ fun a => bind (f a) g
    cases outcome with
    | error e => rfl
    | ok a =>
      simp only [bind]
      cases (f a).outcome with
      | error e => rfl
      | ok b => simp only [List.append_assoc])

/-- A computation without events. -/
def ofExcept (x : Except Fault α) : Logged α := ⟨[], x⟩

/-- The computation that only writes to the log. -/
def emit (events : List Event) : Logged Unit := ⟨events, .ok ()⟩

@[simp]
theorem outcome_pure (a : α) : (Pure.pure a : Logged α).outcome = .ok a := rfl

@[simp]
theorem outcome_bind (x : Logged α) (f : α → Logged β) :
    (x >>= f).outcome = x.outcome >>= fun a => (f a).outcome := by
  show (bind x f).outcome = _
  unfold bind
  cases x.outcome with
  | error e => rfl
  | ok a => rfl

@[simp]
theorem outcome_ofExcept (x : Except Fault α) : (ofExcept x).outcome = x := rfl

@[simp]
theorem outcome_emit (events : List Event) : (emit events).outcome = .ok () := rfl

end Logged

/-- Moves the state of a document along one token. -/
def Tracker.track (t : Tracker) (d : Document) (token : Token) (indentation : Nat) :
    Logged Document :=
  match t.step d token indentation with
  | .error f => ⟨[], .error f⟩
  | .ok e => ⟨Tracker.events d e token, .ok e⟩

@[simp]
theorem Tracker.outcome_track (t : Tracker) (d : Document) (token : Token) (indentation : Nat) :
    (t.track d token indentation).outcome = t.step d token indentation := by
  unfold track
  cases t.step d token indentation with
  | error f => rfl
  | ok e => rfl

end EditorMode
