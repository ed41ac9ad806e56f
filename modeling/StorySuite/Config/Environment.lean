import StorySuite.Config.Assignments
import StorySuite.Config.Basic

/-!
# Config — settings from the environment

A variable that begins with the prefix names a setting by the words of its name.  Of all settings
only `cwd`, whose name is one word, can be set so: a variable that names another one is a wrong
setting.

A variable's text is read as a value.  What reads as a truth value, a number, a list or a table is
none that `cwd` can take; a quoted text stands for what is quoted, any other text for itself without
blanks around it, and a text that does not read as one value as a whole for itself as it is.
-/

namespace StorySuite.Environment

/-- What the names of variables begin with, in either case. -/
def variablePrefix : String := "STORYTEST_"

/-- The word with a capital in front. -/
def capitalized : List Char → List Char
  | [] => []
  | c :: cs => c.toUpper :: cs

/-- The words of a name, joined without their separators: the first word in lower case, the others
with a capital. -/
def camelCase (name : List Char) : String :=
  let words := ((Text.splitChars '_' name).filter (!·.isEmpty)).map (·.map Char.toLower)
  String.ofList <| match words with
    | [] => []
    | first :: rest => first ++ rest.flatMap capitalized

/-- The setting that a variable names, if it names one. -/
def settingOf? (name : String) : Option String := do
  let cs := Text.trimChars name.toList
  let rest ← Text.dropStart? (variablePrefix.toList.map Char.toLower)
    ((cs.take variablePrefix.length).map Char.toLower)
  let setting := camelCase (rest ++ cs.drop variablePrefix.length)
  if Config.fieldNames.contains setting then some setting else none

/-- What a variable's text reads as. -/
inductive Reading where
  | text (s : List Char)
  /-- A truth value, a number, a list or a table. -/
  | other

/-- Blanks around values. -/
def isSpace (c : Char) : Bool :=
  c == ' ' || c == '\t' || c == '\n' || c == '\r' || c == '\x0c'

/-- `cs` after blanks. -/
def skipSpace (cs : List Char) : List Char :=
  cs.dropWhile isSpace

/-- `c` ends a bare value. -/
def isSeparator (c : Char) : Bool :=
  [',', '\x7b', '\x7d', '[', ']'].contains c

/-- `cs` are decimal digits, one at least. -/
def isDigits (cs : List Char) : Bool :=
  !cs.isEmpty && cs.all Char.isDigit

/-- `cs` without a sign. -/
def unsigned : List Char → Bool × List Char
  | '+' :: rest => (false, rest)
  | '-' :: rest => (true, rest)
  | cs => (false, cs)

/-- `cs` are an exponent's sign and digits. -/
def isPower (cs : List Char) : Bool :=
  isDigits (unsigned cs).2

/-- `cs`, which hold a point, are a number. -/
def isFraction (cs : List Char) : Bool :=
  let cs := (unsigned cs).2
  let mantissa := cs.takeWhile fun c => c != 'e' && c != 'E'
  let digits := mantissa.filter (· != '.')
  let points := mantissa.length - digits.length
  points == 1 && isDigits digits &&
    match cs.drop mantissa.length with
    | [] => true
    | _ :: power => isPower power

/-- The number that decimal digits write. -/
def numberOf (ds : List Char) : Nat :=
  ds.foldl (fun n c => n * 10 + (c.toNat - 48)) 0

/-- `cs` are a whole number of 64 bits, signed or unsigned. -/
def isWhole (cs : List Char) : Bool :=
  let (negative, ds) := unsigned cs
  isDigits ds && numberOf ds < (if negative then Nat.pow 2 63 + 1 else Nat.pow 2 64)

/-- What a value without quotes or brackets reads as. -/
def bare (cs : List Char) : Reading :=
  if (cs.contains '.' && isFraction cs) || isWhole cs then .other else .text cs

/-- What follows the key at the front of `cs`. -/
def skipKey? (cs : List Char) : Option (List Char) :=
  match cs with
  | '"' :: rest => (Assignments.basicTail? (cs.length + 1) [] rest).map (·.2)
  | cs =>
    if cs.head?.any Assignments.isKeyChar then some (cs.dropWhile Assignments.isKeyChar) else none

mutual

/-- The value at the front of `cs` between blanks, and what follows it. -/
def value? : Nat → List Char → Option (Reading × List Char)
  | 0, _ => none
  | fuel + 1, cs => do
    let (v, rest) ← match skipSpace cs with
      | 't' :: 'r' :: 'u' :: 'e' :: rest => some (.other, rest)
      | 'f' :: 'a' :: 'l' :: 's' :: 'e' :: rest => some (.other, rest)
      | '\x7b' :: rest => do pure (.other, ← skipItems? fuel true '\x7d' rest)
      | '[' :: rest => do pure (.other, ← skipItems? fuel false ']' rest)
      | '"' :: rest => do
        let (s, rest) ← Assignments.basicTail? (rest.length + 1) [] rest
        pure (.text s, rest)
      | '\'' :: c :: '\'' :: rest => some (.text [c], rest)
      | '\'' :: _ => none
      | cs =>
        let s := cs.takeWhile (!isSeparator ·)
        some (bare (Text.trimChars s), cs.drop s.length)
    pure (v, skipSpace rest)

/-- What follows the items up to the closing bracket, each with a key in front if `keyed`. -/
def skipItems? : Nat → Bool → Char → List Char → Option (List Char)
  | 0, _, _, _ => none
  | fuel + 1, keyed, close, cs => do
    let cs := skipSpace cs
    if cs.head? == some close then pure (cs.drop 1)
    else
      let cs ← if keyed then do
          let '=' :: rest := skipSpace (← skipKey? cs) | none
          pure rest
        else pure cs
      let (_, rest) ← value? fuel cs
      match rest with
      | c :: rest =>
        if c == ',' then skipItems? fuel keyed close rest
        else if c == close then pure rest
        else none
      | [] => none

end

/-- What a variable's text reads as. -/
def read (s : String) : Reading :=
  match value? (2 * s.length + 2) s.toList with
  | some (v, []) => v
  | _ => .text s.toList

/-- The settings of later variables, with what a variable says of `setting`; what a later one says
stands.  None where the variable is a wrong setting. -/
def addSetting? (setting text : String) (later : DataMap) : Option DataMap :=
  match setting, read text with
  | "cwd", .text s =>
    some (if (later.get? "cwd").isSome then later else [("cwd", .string (String.ofList s))])
  | _, _ => none

/-- The settings of the variables; none where one of them is a wrong setting. -/
def settings? : List (String × String) → Option DataMap
  | [] => some []
  | (name, text) :: rest => do
    let later ← settings? rest
    match settingOf? name with
    | none => pure later
    | some setting => addSetting? setting text later

end StorySuite.Environment
