import StorySuite.Text.Hex
import StorySuite.Text.Visible

/-!
# Text — quoted for display

A text between double quotes in which every character can be seen: quotes and backslashes are
escaped, the usual controls have their letters, and what cannot be told apart is spelled by its
code.
-/

namespace StorySuite.Text

/-- How `c` is written between the quotes. -/
def displayChar (c : Char) : List Char :=
  if c = '"' then ['\\', '"']
  else if c = '\\' then ['\\', '\\']
  else if c = '\n' then ['\\', 'n']
  else if c = '\r' then ['\\', 'r']
  else if c = '\t' then ['\\', 't']
  else if c.toNat = 0 then ['\\', '0']
  else if isVisible c then [c]
  else ['\\', 'u', '\x7b'] ++ hexDigits c.toNat ++ ['\x7d']

/-- `s` quoted for display. -/
def displayQuoted (s : String) : String :=
  String.ofList ('"' :: (s.toList.flatMap displayChar ++ ['"']))

/-- The texts of `ss` quoted for display, as a bracketed list. -/
def displayList (ss : List String) : String :=
  "[" ++ ", ".intercalate (ss.map displayQuoted) ++ "]"

end StorySuite.Text
