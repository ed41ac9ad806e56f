import StorySuite.Json.Basic
import StorySuite.Text.Hex
import StorySuite.Text.Pieces

/-!
# Config — settings files in TOML

A settings file assigns texts, truth values and lists of texts to keys, one assignment a line.
These are all the forms of TOML that a setting can take, so a file that uses another one, a table, a
number or a date, is refused as a whole like one that is no TOML.
-/

namespace StorySuite.Assignments

open Json

/-- `cs` after blanks within a line. -/
def skipSpace (cs : List Char) : List Char :=
  cs.dropWhile fun c => c == ' ' || c == '\t'

/-- A line's end in front of the rest. -/
def newline? : List Char → Option (List Char)
  | '\n' :: rest => some rest
  | '\r' :: '\n' :: rest => some rest
  | _ => none

/-- `c` may stand in a comment or a literal text. -/
def isPlain (c : Char) : Bool :=
  c == '\t' || (0x20 ≤ c.toNat && c.toNat != 0x7f)

/-- What follows a comment, if one begins here. -/
def skipComment : List Char → List Char
  | '#' :: rest => rest.dropWhile isPlain
  | cs => cs

/-- `cs` after blanks, comments and ends of lines, at most `fuel` of them. -/
def skipLines : Nat → List Char → List Char
  | 0, cs => cs
  | fuel + 1, cs =>
    let rest := skipComment (skipSpace cs)
    match newline? rest with
    | some rest => skipLines fuel rest
    | none => rest

/-- The character of a code, unless no character has it. -/
def charOf? (n : Nat) : Option Char :=
  if n < 0xd800 || (0xdfff < n && n < 0x110000) then some (Char.ofNat n) else none

/-- The character after a backslash, and what follows it. -/
def escape? : List Char → Option (Char × List Char)
  | 'b' :: rest => some ('\x08', rest)
  | 't' :: rest => some ('\t', rest)
  | 'n' :: rest => some ('\n', rest)
  | 'f' :: rest => some ('\x0c', rest)
  | 'r' :: rest => some ('\r', rest)
  | '"' :: rest => some ('"', rest)
  | '\\' :: rest => some ('\\', rest)
  | 'u' :: rest => hexChar? 4 rest
  | 'U' :: rest => hexChar? 8 rest
  | _ => none
where
  /-- The character that `n` hexadecimal digits write. -/
  hexChar? (n : Nat) (cs : List Char) : Option (Char × List Char) := do
    if cs.length < n then none
    let code ← Text.ofDigits? 16 (cs.take n)
    pure (← charOf? code, cs.drop n)

/-- The characters up to the closing quote, and what follows it; `acc` holds those already read. -/
def basicTail? : Nat → List Char → List Char → Option (List Char × List Char)
  | 0, _, _ => none
  | fuel + 1, acc, cs => do
    match cs with
    | '"' :: rest => pure (acc.reverse, rest)
    | '\\' :: rest =>
      let (c, rest) ← escape? rest
      basicTail? fuel (c :: acc) rest
    | c :: rest => if isPlain c then basicTail? fuel (c :: acc) rest else none
    | [] => none

/-- The characters up to the closing apostrophe, and what follows it. -/
def literalTail? (cs : List Char) : Option (List Char × List Char) :=
  match cs.dropWhile fun c => isPlain c && c != '\'' with
  | '\'' :: rest => some (cs.takeWhile fun c => isPlain c && c != '\'', rest)
  | _ => none

/-- `cs` without the line's end at its front. -/
def dropNewline (cs : List Char) : List Char :=
  (newline? cs).getD cs

/-- `cs` after all blanks and ends of lines, at most `fuel` of them. -/
def skipMargin : Nat → List Char → List Char
  | 0, cs => cs
  | fuel + 1, cs =>
    match newline? (skipSpace cs) with
    | some rest => skipMargin fuel rest
    | none => skipSpace cs

/-- The characters up to three closing `quote`s, and what follows them; one or two quotes right
before the closing ones belong to the text.  With `escapes`, a backslash begins an escape, or at the
end of a line takes away all blanks up to the next character. -/
def multilineTail? (quote : Char) (escapes : Bool) :
    Nat → List Char → List Char → Option (List Char × List Char)
  | 0, _, _ => none
  | fuel + 1, acc, cs => do
    match newline? cs with
    | some rest => multilineTail? quote escapes fuel ('\n' :: acc) rest
    | none =>
      match cs with
      | [] => none
      | c :: rest =>
        if c == quote then
          let run := (cs.takeWhile (· == quote)).length
          if run < 3 then multilineTail? quote escapes fuel (c :: acc) rest
          else
            let extra := min (run - 3) 2
            pure ((List.replicate extra quote ++ acc).reverse, cs.drop (extra + 3))
        else if escapes && c == '\\' then
          match newline? (skipSpace rest) with
          | some more => multilineTail? quote escapes fuel acc (skipMargin more.length more)
          | none =>
            let (c, rest) ← escape? rest
            multilineTail? quote escapes fuel (c :: acc) rest
        else if isPlain c then multilineTail? quote escapes fuel (c :: acc) rest
        else none

/-- The text at the front of `cs`, in any of the four ways to quote it, and what follows it. -/
def text? (cs : List Char) : Option (String × List Char) :=
  let fuel := cs.length + 1
  let found := match cs with
    | '"' :: '"' :: '"' :: rest => multilineTail? '"' true fuel [] (dropNewline rest)
    | '\'' :: '\'' :: '\'' :: rest => multilineTail? '\'' false fuel [] (dropNewline rest)
    | '"' :: rest => basicTail? fuel [] rest
    | '\'' :: rest => literalTail? rest
    | _ => none
  found.map fun (r : List Char × List Char) => (String.ofList r.1, r.2)

/-- The texts of a list up to the closing bracket, and what follows it. -/
def items? : Nat → List Value → List Char → Option (List Value × List Char)
  | 0, _, _ => none
  | fuel + 1, acc, cs => do
    match skipLines cs.length cs with
    | ']' :: rest => pure (acc.reverse, rest)
    | cs =>
      let (s, rest) ← text? cs
      match skipLines rest.length rest with
      | ',' :: rest => items? fuel (.string s :: acc) rest
      | ']' :: rest => pure ((Value.string s :: acc).reverse, rest)
      | _ => none

/-- The value at the front of `cs`, and what follows it. -/
def value? (cs : List Char) : Option (Value × List Char) :=
  match cs with
  | 't' :: 'r' :: 'u' :: 'e' :: rest => some (.bool true, rest)
  | 'f' :: 'a' :: 'l' :: 's' :: 'e' :: rest => some (.bool false, rest)
  | '[' :: rest => (items? (rest.length + 1) [] rest).map fun r => (.array r.1, r.2)
  | cs => (text? cs).map fun r => (.string r.1, r.2)

/-- `c` may stand in a key that is not quoted. -/
def isKeyChar (c : Char) : Bool :=
  c.isAlphanum || c == '_' || c == '-'

/-- The key at the front of `cs`, and what follows it; a key is quoted on one line or not at all. -/
def key? (cs : List Char) : Option (String × List Char) :=
  match cs with
  | '"' :: rest => (basicTail? (cs.length + 1) [] rest).map fun r => (String.ofList r.1, r.2)
  | '\'' :: rest => (literalTail? rest).map fun r => (String.ofList r.1, r.2)
  | cs =>
    let ks := cs.takeWhile isKeyChar
    if ks.isEmpty then none else some (String.ofList ks, cs.drop ks.length)

/-- The assignment at the front of `cs`, and what follows it on its line. -/
def assignment? (cs : List Char) : Option ((String × Value) × List Char) := do
  let (key, rest) ← key? cs
  let '=' :: rest := skipSpace rest | none
  let (v, rest) ← value? (skipSpace rest)
  pure ((key, v), rest)

/-- The assignments of a text, each key being assigned once; `acc` holds those already read. -/
def lines? : Nat → DataMap → List Char → Option DataMap
  | 0, _, _ => none
  | fuel + 1, acc, cs => do
    match skipLines cs.length cs with
    | [] => pure acc
    | cs =>
      let ((key, v), rest) ← assignment? cs
      if (acc.get? key).isSome then none
      else
        let acc := acc ++ [(key, v)]
        let rest := skipComment (skipSpace rest)
        match newline? rest with
        | some rest => lines? fuel acc rest
        | none => if rest.isEmpty then pure acc else none

/-- The assignments that `s` writes; a mark of byte order at the front is passed over. -/
def parse? (s : String) : Option DataMap :=
  let cs := match s.toList with
    | '\ufeff' :: rest => rest
    | cs => cs
  lines? (cs.length + 1) [] cs

end StorySuite.Assignments
