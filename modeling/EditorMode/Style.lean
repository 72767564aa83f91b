import EditorMode.Token

/-!
# Styles

A style table gives kinds of tokens their display classes.  A kind without an entry is its own
class, by its name.
-/

set_option autoImplicit false

namespace EditorMode

/-- The display classes of kinds; no kind occurs twice. -/
structure StyleTable where
  entries : List (Kind × String)
  deriving DecidableEq, Repr, Inhabited

namespace StyleTable

/-- The table without entries. -/
def empty : StyleTable := ⟨[]⟩

/-- The entries with the class of `kind` set to `cls`. -/
def put (kind : Kind) (cls : String) : List (Kind × String) → List (Kind × String)
  | [] => [(kind, cls)]
  | (k, c) :: rest => if k = kind then (kind, cls) :: rest else (k, c) :: put kind cls rest

/-- The table with the class of `kind` set to `cls`. -/
def insert (table : StyleTable) (kind : Kind) (cls : String) : StyleTable :=
  ⟨put kind cls table.entries⟩

/-- The table with the class of all kinds of these names set to `cls`. -/
def insertAll (table : StyleTable) (names : List String) (cls : String) : StyleTable :=
  names.foldl (fun table name => table.insert (Kind.ofName name) cls) table

/-- The number of kinds with an entry. -/
def size (table : StyleTable) : Nat := table.entries.length

/-- Whether no kind has an entry. -/
def isEmpty (table : StyleTable) : Bool := table.entries.isEmpty

/-- The display class of a kind. -/
def classOf (table : StyleTable) (kind : Kind) : String :=
  (table.entries.lookup kind).getD kind.name

theorem lookup_put_self (kind : Kind) (cls : String) (entries : List (Kind × String)) :
    (put kind cls entries).lookup kind = some cls := by
  induction entries with
  | nil => simp [put]
  | cons e rest ih =>
    obtain ⟨k, c⟩ := e
    rw [put]
    split
    · simp
    · rename_i h
      have hne : (kind == k) = false := by simp [Ne.symm h]
      rw [List.lookup_cons, ih, hne]

theorem lookup_put_of_ne {kind other : Kind} (h : other ≠ kind) (cls : String)
    (entries : List (Kind × String)) :
    (put kind cls entries).lookup other = entries.lookup other := by
  induction entries with
  | nil => simp [put, h]
  | cons e rest ih =>
    obtain ⟨k, c⟩ := e
    rw [put]
    split
    · rename_i hk
      subst hk
      have hne : (other == k) = false := by simp [h]
      rw [List.lookup_cons, List.lookup_cons, hne]
    · rw [List.lookup_cons, List.lookup_cons, ih]

/-- The class that a kind was given last is its class. -/
theorem classOf_insert_self (table : StyleTable) (kind : Kind) (cls : String) :
    (table.insert kind cls).classOf kind = cls := by
  simp [classOf, insert, lookup_put_self]

/-- Other kinds keep their classes. -/
theorem classOf_insert_of_ne (table : StyleTable) {kind other : Kind} (h : other ≠ kind)
    (cls : String) : (table.insert kind cls).classOf other = table.classOf other := by
  simp [classOf, insert, lookup_put_of_ne h]

end StyleTable

/-- A token with its display class. -/
structure StyledToken where
  token : Token
  cls : String
  deriving DecidableEq, Repr, Inhabited

end EditorMode
