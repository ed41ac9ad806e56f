import StorySuite.Decimal.Shortest
import StorySuite.Json.Basic
import StorySuite.Text.Hex

/-!
# Json — compact text

The compact text of a value: no blanks, fields in order, and in strings only the quote, the
backslash and the controls escaped.
-/

namespace StorySuite.Json

open StorySuite.Text StorySuite.Decimal

/-- How `c` is written in a string. -/
def escapeChar (c : Char) : List Char :=
  if c = '"' then ['\\', '"']
  else if c = '\\' then ['\\', '\\']
  else if 0x20 ≤ c.toNat then [c]
  else if c.toNat = 0x8 then ['\\', 'b']
  else if c.toNat = 0x9 then ['\\', 't']
  else if c.toNat = 0xa then ['\\', 'n']
  else if c.toNat = 0xc then ['\\', 'f']
  else if c.toNat = 0xd then ['\\', 'r']
  else ['\\', 'u'] ++ hex4 c.toNat

/-- The characters of `cs` as they are written between quotes. -/
def escape (cs : List Char) : List Char :=
  cs.flatMap escapeChar

/-- `s` as a string. -/
def quote (s : String) : String :=
  String.ofList ('"' :: (escape s.toList ++ ['"']))

/-- The text of a number. -/
def Number.text : Number → String
  | .whole n => toString n
  | .real x => Layout.data.write x

mutual

/-- The compact text of a value. -/
def Value.text : Value → String
  | .null => "null"
  | .bool true => "true"
  | .bool false => "false"
  | .number n => n.text
  | .string s => quote s
  | .array items => "[" ++ itemsText items ++ "]"
  | .object fields => "\x7b" ++ fieldsText fields ++ "\x7d"

/-- The texts of items, with commas between them. -/
def itemsText : List Value → String
  | [] => ""
  | [v] => v.text
  | v :: w :: rest => v.text ++ "," ++ itemsText (w :: rest)

/-- The texts of fields, with commas between them. -/
def fieldsText : List (String × Value) → String
  | [] => ""
  | [(k, v)] => quote k ++ ":" ++ v.text
  | (k, v) :: f :: rest => quote k ++ ":" ++ v.text ++ "," ++ fieldsText (f :: rest)

end

end StorySuite.Json
