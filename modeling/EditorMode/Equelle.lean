import EditorMode.Mode

/-!
# The Equelle mode

Rules and styles for the Equelle language.  The keywords stand before the rule for capitalised
names, so that they win when both match the same text.
-/

set_option autoImplicit false

namespace EditorMode.Equelle

/-- The keywords with the names of their kinds. -/
def keywords : List (String × String) :=
  [("Collection", "COLLECTION"), ("Sequence", "SEQUENCE"), ("Array", "ARRAY"), ("Of", "OF"),
   ("On", "ON"), ("Extend", "EXTEND"), ("Subset", "SUBSET"), ("Mutable", "MUTABLE"),
   ("Scalar", "SCALAR"), ("Vector", "VECTOR"), ("Bool", "BOOL"), ("String", "STRING_KW"),
   ("Cell", "CELL"), ("Face", "FACE"), ("Edge", "EDGE"), ("Vertex", "VERTEX"),
   ("Stencil", "STENCIL"), ("And", "AND"), ("Or", "OR"), ("Not", "NOT"), ("Xor", "XOR"),
   ("True", "TRUE"), ("False", "FALSE"), ("For", "FOR"), ("In", "IN")]

/-- The operators of two characters with the names of their kinds. -/
def operators : List (String × String) :=
  [("<=", "LEQ"), (">=", "GEQ"), ("==", "EQ"), ("!=", "NEQ"), ("->", "RET")]

/-- The punctuation marks; each is the name of its kind. -/
def punctuation : List String :=
  ["\x7b", "\x7d", "(", ")", "[", "]", ",", ":", "=", "+", "-", "*", "/", "^", "<", ">", "?", "|",
   "."]

/-- The rules that are regular expressions, apart from that of the line continuation. -/
def expressions : List (String × Kind) :=
  [("[A-Z][0-9A-Za-z_]*", .named "BUILTIN"),
   ("[a-z_][0-9A-Za-z_]*", .named "ID"),
   ("[0-9]+\\.[0-9]+([eE][+-]?[0-9]+)?", .named "FLOAT"),
   ("[0-9]+", .named "INT"),
   ("\"(\\\\.|[^\"\\\\])*\"", .named "STRING"),
   ("#.*", .named "COMMENT"),
   ("[ \\t]+", .named "WS"),
   ("$", .endOfLine)]

/-- The grammar of Equelle. -/
def rules : Except InvalidPattern (List Rule) := do
  let continuation ← Rule.regex "\\.\\.\\.[ \\t]*(#.*)?" .lineContinuation
  let expressions ← expressions.mapM fun (source, kind) => Rule.regex source kind
  return keywords.map (fun (text, kind) => Rule.literal text (.ofName kind))
    ++ [Rule.literal "Function" .function]
    ++ operators.map (fun (text, kind) => Rule.literal text (.ofName kind))
    ++ [continuation]
    ++ punctuation.map (fun text => Rule.literal text (.ofName text))
    ++ expressions

/-- The display classes of Equelle. -/
def styles : StyleTable :=
  StyleTable.empty
    |>.insertAll (keywords.map Prod.snd) "keyword"
    |>.insert .function "keyword"
    |>.insertAll (operators.map Prod.snd) "operator"
    |>.insertAll ["=", "+", "-", "*", "/", "^", "<", ">", "?", "|", ".", ":"] "operator"
    |>.insertAll ["\x7b", "\x7d", "(", ")", "[", "]"] "bracket"
    |>.insert (.named "BUILTIN") "builtin"
    |>.insert (.named "ID") "variable"
    |>.insertAll ["INT", "FLOAT"] "number"
    |>.insert (.named "STRING") "string"
    |>.insertAll ["COMMENT", Kind.lineContinuation.name] "comment"
    |>.insert .error "error"

/-- The Equelle mode with the given settings. -/
def modeWith (config : Config) : Except ModeError Mode := do
  let rules ← rules.mapError .pattern
  (Mode.create rules styles config).mapError .config

/-- The Equelle mode. -/
def mode : Except ModeError Mode := modeWith .standard

end EditorMode.Equelle
