import StorySuite.Decimal.Shortest
import StorySuite.Script.Operator
import StorySuite.Script.Syntax
import StorySuite.Text.Hex
import StorySuite.Text.Pieces

/-!
# Script — how the smallest parts are written

Numbers in the shortest of a few forms, texts between double quotes, comments line by line.  Nothing
that is written holds the mark that ends a script in a page.
-/

namespace StorySuite.Script

open Decimal

/-! ### Numbers -/

namespace Numeral

/-- The candidate, where it is shorter than `best`. -/
def shorter (best candidate : List Char) : List Char :=
  if candidate.length < best.length then candidate else best

/-- A fraction with zeros behind the point, with a power of ten instead where that is shorter. -/
def withoutLeadingZeros (s : List Char) : List Char :=
  match s with
  | '.' :: '0' :: more =>
    let digits := more.dropWhile (· == '0')
    if digits.isEmpty then s
    else shorter s (digits ++ 'e' :: '-' :: Nat.toDigits 10 (s.length - 1))
  | _ => s

/-- A number that ends in zeros, with a power of ten instead where that is shorter. -/
def withoutTrailingZeros (s : List Char) : List Char :=
  let zeros := (s.reverse.takeWhile (· == '0')).length
  if zeros = 0 then s
  else shorter s (s.take (s.length - zeros) ++ 'e' :: Nat.toDigits 10 zeros)

/-- The whole number that `cs` write, with a sign where it is negative. -/
def power (cs : List Char) : Int :=
  match cs with
  | '-' :: ds => -((Text.ofDigits? 10 ds).getD 0 : Nat)
  | ds => ((Text.ofDigits? 10 ds).getD 0 : Nat)

/-- A fraction with a power of ten, without its point where that is shorter. -/
def withoutPoint (s : List Char) : List Char :=
  let whole := s.takeWhile (· != '.')
  let fraction := ((s.drop whole.length).drop 1).takeWhile (· != 'e')
  match s.drop (whole.length + 1 + fraction.length) with
  | 'e' :: ds =>
    shorter s (whole ++ fraction ++ 'e' :: (toString (power ds - fraction.length)).toList)
  | _ => s

/-- The number without a sign. -/
def magnitude (x : Binary64) : List Char :=
  let s := (Layout.script.write { x with negative := false }).toList
  match x.toInt? with
  | some n =>
    if n.natAbs < 1000 then s
    else
      let best := s.filter (· != '+')
      let hex := '0' :: 'x' :: Text.hexDigits n.natAbs
      if hex.length < best.length then hex
      else withoutPoint (withoutTrailingZeros best)
  | none =>
    let best := (if s.head? == some '0' then s.drop 1 else s).filter (· != '+')
    withoutPoint (withoutTrailingZeros (withoutLeadingZeros best))

/-- The number as it is written: the shortest form, if it is not a small whole number. -/
def text (x : Numeral) : String :=
  match x with
  | none => "Infinity"
  | some x => String.ofList ((if x.negative then ['-'] else []) ++ magnitude x)

end Numeral

/-! ### Texts -/

/-- `cs` goes on with the end of a script in a page. -/
def endsScript (cs : List Char) : Bool :=
  "/script".toList == (cs.take 7).map Char.toLower

/-- `cs` without the mark that ends a script in a page. -/
def guarded : List Char → List Char
  | [] => []
  | '<' :: cs => if endsScript cs then '<' :: '\\' :: guarded cs else '<' :: guarded cs
  | c :: cs => c :: guarded cs

/-- A character of a text between double quotes; `rest` follows it. -/
def escaped (c : Char) (rest : List Char) : List Char :=
  match c.toNat with
  | 0x00 => if rest.head?.any Char.isDigit then ['\\', 'x', '0', '0'] else ['\\', '0']
  | 0x07 => ['\\', 'x', '0', '7']
  | 0x08 => ['\\', 'b']
  | 0x0A => ['\\', 'n']
  | 0x0B => ['\\', 'v']
  | 0x0C => ['\\', 'f']
  | 0x0D => ['\\', 'r']
  | 0x1B => ['\\', 'x', '1', 'B']
  | 0x22 => ['\\', '"']
  | 0x5C => ['\\', '\\']
  | 0xA0 => ['\\', 'x', 'A', '0']
  | 0x2028 => "\\u2028".toList
  | 0x2029 => "\\u2029".toList
  | _ => if c == '<' && endsScript rest then ['<', '\\'] else [c]

/-- The characters of a text between double quotes; where `lone` is set, halves of surrogate pairs
are written out. -/
def escapedAll (lone : Bool) : List Char → List Char
  | [] => []
  | c :: rest@(h1 :: h2 :: h3 :: h4 :: more) =>
    if lone && c.toNat == 0xFFFD then
      if [h1, h2, h3, h4] == "fffd".toList then c :: escapedAll lone more
      else '\\' :: 'u' :: h1 :: h2 :: h3 :: h4 :: escapedAll lone more
    else escaped c rest ++ escapedAll lone rest
  | c :: rest => escaped c rest ++ escapedAll lone rest

namespace StringValue

/-- The text between double quotes. -/
def text (t : StringValue) : String :=
  String.ofList ('"' :: escapedAll t.lone t.value.toList ++ ['"'])

end StringValue

/-- The text of a directive, which stays as it is. -/
def directiveText (raw : String) : String :=
  let quote := if raw.toList.contains '"' then "'" else "\""
  quote ++ raw ++ quote

/-- The text of a regular expression. -/
def regexText (body flags : String) : String :=
  "/" ++ String.ofList (guarded body.toList) ++ "/" ++
    String.ofList (flags.toList.mergeSort (· ≤ ·))

namespace Literal

/-- The literal as it is written. -/
def text : Literal → String
  | .null => "null"
  | .bool b => if b then "true" else "false"
  | .number x => Numeral.text x
  | .bigint n => toString n ++ "n"
  | .string t => t.text
  | .regex body flags => regexText body flags

end Literal

namespace ModuleName

/-- The name as it is written. -/
def written (n : ModuleName) : String :=
  if n.quoted then StringValue.text { value := n.text } else n.text

end ModuleName

/-! ### Lines -/

/-- The marks in front of a line that is `n` levels deep. -/
def tabs (n : Nat) : String :=
  String.ofList (List.replicate n '\t')

/-- Parts with commas between them. -/
def commas (parts : List String) : String :=
  String.intercalate ", " parts

/-- Lines, each with `n` tabs in front. -/
def indented (n : Nat) (lines : List String) : String :=
  String.join (lines.map fun s => tabs n ++ s ++ "\n")

/-- Parts on lines of their own, with commas between them. -/
def onLines (n : Nat) (parts : List String) : String :=
  "\n" ++ String.intercalate ",\n" (parts.map (tabs (n + 1) ++ ·)) ++ "\n" ++ tabs n

/-- `s` in round brackets, if it has to be. -/
def bracketed (needed : Bool) (s : String) : String :=
  if needed then "(" ++ s ++ ")" else s

/-- `s` in braces. -/
def braced (s : String) : String :=
  "\x7b" ++ s ++ "\x7d"

/-- Statements in braces, `n` levels deep; a comment at the end may leave the last line open. -/
def blockText (n : Nat) (inner : String) : String :=
  if inner.isEmpty then braced ""
  else braced ("\n" ++ inner ++ if inner.toList.getLast? == some '\n' then tabs n else " ")

/-! ### Comments -/

/-- The lines of a comment. -/
def commentLines : List Char → List (List Char)
  | [] => [[]]
  | '\r' :: '\n' :: cs => [] :: commentLines cs
  | c :: cs =>
    if isLineEnd c then [] :: commentLines cs
    else match commentLines cs with
      | [] => [[c]]
      | line :: lines => (c :: line) :: lines

namespace Comment

/-- The comment, `n` levels deep. -/
def written (n : Nat) (c : Comment) : String :=
  match commentLines c.text.toList with
  | [] => ""
  | first :: more =>
    let rest := more.map fun line => "\n" ++ tabs n ++ String.ofList (line.dropWhile isSpace)
    String.ofList (guarded (first ++ (String.join rest).toList))

/-- The comment is kept wherever a program goes. -/
def isLegal (c : Comment) : Bool :=
  "/*!".toList.isPrefixOf c.text.toList || "//!".toList.isPrefixOf c.text.toList ||
    Text.occursIn "@license".toList c.text.toList || Text.occursIn "@preserve".toList c.text.toList

end Comment

/-- How the statement behind something begins. -/
inductive Lead where
  /-- On a line of its own. -/
  | line
  /-- On the same line, as the body of a statement. -/
  | body
  /-- At once. -/
  | none
  deriving DecidableEq

namespace Lead

/-- What stands in front of the statement. -/
def text (l : Lead) (n : Nat) : String :=
  match l with
  | .line => tabs n
  | .body => " "
  | .none => ""

end Lead

/-- Comments behind the first one. -/
def moreComments (n : Nat) : List Comment → String
  | [] => ""
  | c :: cs =>
    (if c.afterNewline then "\n" ++ tabs n else if c.isLegal then "\n" else "") ++ c.written n ++
      moreComments n cs

/-- Comments in front of a statement that is `n` levels deep, and how it begins behind them. -/
def commentsText (n : Nat) (lead : Lead) : List Comment → String × Lead
  | [] => ("", lead)
  | c :: cs =>
    let front := if c.afterNewline && lead == .body then "\n" else ""
    let last := (c :: cs).getLast?
    let ends := last.any fun c => c.isLine || c.beforeNewline
    (front ++ lead.text n ++ c.written n ++ moreComments n cs ++ (if ends then "\n" else ""),
      if ends then .line else .body)

end StorySuite.Script
