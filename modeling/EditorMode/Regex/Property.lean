import EditorMode.Regex.CharSet

/-!
# Classes by Unicode property

A pattern can name a class of characters by a property that Unicode gives them: by one letter, as in
`\pL`, by a name in braces, or by a property and its value with one of the marks `=`, `:` and `!=`
between them, of which the last one negates the class.

Which classes there are is a matter of tables that are no part of this library, so whatever reads a
pattern is handed a function that looks a class up.  `Property.find?` is such a function; it knows
the classes for which the library happens to have a table.
-/

set_option autoImplicit false

namespace EditorMode.Regex

/-- A class of characters as a pattern names it. -/
inductive Property where
  | letter (c : Char)
  | named (name : List Char)
  | valued (name value : List Char)
  deriving DecidableEq, Repr

/-- What stands before and after the first `mark` in a text. -/
def cutAt? (mark : List Char) : List Char → Option (List Char × List Char)
  | [] => none
  | c :: text =>
    if mark.isPrefixOf (c :: text) then some ([], (c :: text).drop mark.length)
    else (cutAt? mark text).map fun (before, after) => (c :: before, after)

namespace Property

/-- The class that is named in braces, and whether its mark negates it. -/
def ofBraces (text : List Char) : Property × Bool :=
  match cutAt? ['!', '='] text with
  | some (name, value) => (.valued name value, true)
  | none =>
    match (cutAt? [':'] text).or (cutAt? ['='] text) with
    | some (name, value) => (.valued name value, false)
    | none => (.named text, false)

/-! ## Known classes -/

/-- A name without what does not count in it: the case of its letters, blanks, dashes, underscores
and the word `is` at its start. -/
def looseName (name : List Char) : String :=
  let lower := name.map Char.toLower
  let name := if ['i', 's'].isPrefixOf lower then lower.drop 2 else lower
  String.ofList (name.filter fun c => c != ' ' && c != '-' && c != '_')

/-- The characters of a general category. -/
def category? (name : List Char) : Option CharSet :=
  match looseName name with
  | "any" => some .all
  | "ascii" => some .ascii
  | "nd" | "decimalnumber" | "digit" => some .digits
  | _ => none

/-- The characters of a class. -/
def find? : Property → Option CharSet
  | .letter c => category? [c]
  | .named name =>
    match looseName name with
    | "whitespace" | "wspace" | "space" => some .blanks
    | _ => category? name
  | .valued name value =>
    match looseName name with
    | "generalcategory" | "gc" => category? value
    | _ => none

end Property

end EditorMode.Regex
