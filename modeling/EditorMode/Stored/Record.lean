import EditorMode.Fault
import EditorMode.Stored.Value

/-!
# Reading records

The rules common to all stored records.  Fields that a record does not know are ignored.  A field
that is there has to have the right form; only if all of them have is the first missing one
reported.
-/

set_option autoImplicit false

namespace EditorMode

/-- Why a stored value could not be read. -/
inductive ReadError where
  /-- The value, or a part of it, has the wrong form. -/
  | malformed
  | missingField (name : String)
  /-- A document state whose columns do not fit its level. -/
  | inconsistent (level entries : Nat)
  /-- The check of a document state broke off. -/
  | fault (f : Fault)
  deriving DecidableEq, Repr

namespace ReadError

/-- The wording of an error, for those that have one. -/
def message? : ReadError → Option String
  | .malformed => none
  | .missingField name => some ("missing field \x60" ++ name ++ "\x60")
  | .inconsistent level entries =>
    some ("inconsistent document state: block level " ++ toString level ++ " with "
      ++ toString entries ++ " indent entries")
  | .fault _ => none

end ReadError

namespace Value

/-- A natural number below a bound. -/
def natBelow? (bound : Nat) : Value → Option Nat
  | .nat n => if n < bound then some n else none
  | _ => none

/-- A line number or an offset. -/
def offset? : Value → Option Nat := natBelow? offsetBound

/-- A column, a level or another count of columns. -/
def column? : Value → Option Nat := natBelow? columnBound

def bool? : Value → Option Bool
  | .bool b => some b
  | _ => none

def string? : Value → Option String
  | .string s => some s
  | _ => none

/-- A list of columns. -/
def columns? : Value → Option (List Nat)
  | .array items => items.mapM column?
  | _ => none

end Value

/-- The fields of a record. -/
abbrev Fields := List (String × Value)

namespace Fields

variable {α : Type}

/-- The field with the given name, if there is one; it has to have the right form. -/
def get? (fields : Fields) (name : String) (form : Value → Option α) :
    Except ReadError (Option α) :=
  match fields.lookup name with
  | none => .ok none
  | some v =>
    match form v with
    | none => .error .malformed
    | some a => .ok (some a)

/-- A field that has to be there. -/
def require (name : String) : Option α → Except ReadError α
  | none => .error (.missingField name)
  | some a => .ok a

end Fields

/-- An item of a record that is written as a list. -/
def Value.item {α : Type} (form : Value → Option α) (v : Value) : Except ReadError α :=
  match form v with
  | none => .error .malformed
  | some a => .ok a

end EditorMode
