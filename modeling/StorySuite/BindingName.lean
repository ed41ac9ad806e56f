import StorySuite.Path.Basic
import StorySuite.Text.Alphanumeric

/-!
# Binding names

Which names can be declared in generated code, and the name under which a module's default export is
declared there.
-/

namespace StorySuite.BindingName

open StorySuite.Text

/-- The words that cannot name a binding in strict code. -/
def reservedWords : List String := [
  "arguments", "await", "break", "case", "catch", "class", "const", "continue", "debugger",
  "default", "delete", "do", "else", "enum", "eval", "export", "extends", "false", "finally",
  "for", "function", "if", "implements", "import", "in", "instanceof", "interface", "let",
  "new", "null", "package", "private", "protected", "public", "return", "static", "super",
  "switch", "this", "throw", "true", "try", "typeof", "var", "void", "while", "with", "yield"]

/-- `c` may stand in a name. -/
def isNameChar (c : Char) : Bool :=
  isAlphanumeric c || c == '_' || c == '$'

/-- `c` is an ASCII digit. -/
def isAsciiDigit (c : Char) : Bool :=
  '0' ≤ c && c ≤ '9'

/-- `s` is a non-empty run of name characters that does not start with an ASCII digit. -/
def isWellFormed (s : String) : Bool :=
  match s.toList with
  | [] => false
  | c :: cs => isNameChar c && !isAsciiDigit c && cs.all isNameChar

/-- `s` can be declared. -/
def isIdentifier (s : String) : Bool :=
  isWellFormed s && !reservedWords.contains s

/-- The name under which the default export of the module at `p` is declared: the file's stem with
`_` for every character that cannot stand in a name, and `_default` after it. -/
def ofDefaultExport (p : Path) : String :=
  let cs := ((p.stem?.getD "module").toList).map fun c => if isNameChar c then c else '_'
  let cs := if cs.isEmpty || cs.head?.any isAsciiDigit then '_' :: cs else cs
  String.ofList cs ++ "_default"

end StorySuite.BindingName
