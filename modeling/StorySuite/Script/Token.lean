import StorySuite.Script.Syntax
import StorySuite.Text.IdentifierChars

/-!
# Script — tokens and character classes

The words of a program, and the classes of characters that they are made of.
-/

namespace StorySuite.Script

/-- A token.  Keywords are names; a name that is written with an escape is never one. -/
inductive Token where
  | name (s : String) (escaped : Bool)
  | privateName (s : String)
  | number (x : Numeral)
  | bigint (digits : Nat)
  | string (t : StringValue) (raw : String)
  /-- A piece of a template; `closed` when the template ends with it. -/
  | chunk (c : Chunk) (closed : Bool)
  /-- A sign.  All signs that begin with `>` are read as `>` at first. -/
  | sign (s : String)
  | finish
  /-- What is no token. -/
  | bad
  deriving DecidableEq, Repr, Inhabited

/-- The character ends a line. -/
def isLineEnd (c : Char) : Bool :=
  c == '\n' || c == '\r' || c == '\u2028' || c == '\u2029'

/-- Blanks beyond the space and the tab, as closed ranges. -/
def spaceRanges : List (Nat × Nat) := [
  (0xb, 0xc), (0x85, 0x85), (0xa0, 0xa0), (0x1680, 0x1680), (0x2000, 0x200b), (0x202f, 0x202f),
  (0x205f, 0x205f), (0x3000, 0x3000), (0xfeff, 0xfeff)]

/-- The character is a blank within a line. -/
def isSpace (c : Char) : Bool :=
  c == ' ' || c == '\t' || Text.inRanges spaceRanges c.toNat

/-- The character may begin a name. -/
def isNameStart (c : Char) : Bool :=
  c == '$' || c == '_' || Text.isIdStart c

/-- The character may continue a name. -/
def isNamePart (c : Char) : Bool :=
  c == '$' || c == '\u200c' || c == '\u200d' || Text.isIdContinue c

/-- The signs, longer ones before their beginnings. -/
def signs : List (List Char) :=
  ["...", "===", "!==", "**=", "<<=", "&&=", "||=", "??=", "=>", "==", "!=", "<=", "<<", "&&", "||",
    "??", "?.", "++", "--", "+=", "-=", "*=", "/=", "%=", "&=", "|=", "^=", "**", "\x7b", "\x7d",
    "(", ")", "[", "]", ";", ",", "<", ">", "+", "-", "*", "/", "%", "&", "|", "^", "!", "~", "?",
    ":", "=", ".", "@"].map String.toList

/-- The signs that begin with `>`, longer ones before their beginnings. -/
def angleSigns : List (List Char) :=
  [">>>=", ">>>", ">>=", ">>", ">=", ">"].map String.toList

/-- The words that are never names of variables. -/
def reservedWords : List String := [
  "break", "case", "catch", "class", "const", "continue", "debugger", "default", "delete", "do",
  "else", "enum", "export", "extends", "false", "finally", "for", "function", "if", "import", "in",
  "instanceof", "new", "null", "return", "super", "switch", "this", "throw", "true", "try",
  "typeof", "var", "void", "while", "with"]

/-- The word is never the name of a variable. -/
def isReserved (s : String) : Bool :=
  reservedWords.contains s

end StorySuite.Script
