/-!
# Kinds of tokens

Six kinds have a meaning for indentation: the two that open and close a block, the function marker,
the two that end a physical line, and the kind of text that no rule matches.  Every other kind is
known by its name only.

Each kind has a name.  `Kind.ofName` gives the name its kind back, except that a `named` kind whose
name belongs to one of the six becomes that one.
-/

set_option autoImplicit false

namespace EditorMode

/-- The kind of a token. -/
inductive Kind where
  | blockOpen
  | blockClose
  /-- A function marker; continuation lines align after it. -/
  | function
  /-- The end of a physical line. -/
  | endOfLine
  /-- A mark that continues the logical line on the next physical line. -/
  | lineContinuation
  /-- Text that no rule matches. -/
  | error
  /-- Any other kind, known by its name. -/
  | named (name : String)
  deriving DecidableEq, Repr, Inhabited

namespace Kind

/-- The name of a kind. -/
def name : Kind → String
  | .blockOpen => "\x7b"
  | .blockClose => "\x7d"
  | .function => "FUNCTION"
  | .endOfLine => "EOL"
  | .lineContinuation => "LINECONT"
  | .error => "error"
  | .named name => name

/-- The kind with a given name. -/
def ofName (name : String) : Kind :=
  if name = Kind.blockOpen.name then .blockOpen
  else if name = Kind.blockClose.name then .blockClose
  else if name = Kind.function.name then .function
  else if name = Kind.endOfLine.name then .endOfLine
  else if name = Kind.lineContinuation.name then .lineContinuation
  else if name = Kind.error.name then .error
  else .named name

theorem name_ofName (name : String) : (ofName name).name = name := by
  unfold ofName
  split
  · rename_i h; exact h.symm
  · split
    · rename_i h; exact h.symm
    · split
      · rename_i h; exact h.symm
      · split
        · rename_i h; exact h.symm
        · split
          · rename_i h; exact h.symm
          · split
            · rename_i h; exact h.symm
            · rfl

/-- Whether a token of this kind ends the tokens of a physical line. -/
def endsLine : Kind → Bool
  | .endOfLine => true
  | .lineContinuation => true
  | _ => false

end Kind

end EditorMode
