import StorySuite.Json.Parser
import StorySuite.Script.Token
import StorySuite.Text.Blank
import StorySuite.Text.Pieces

/-!
# Script — from characters to tokens

Every function takes what is left of a program and gives what it reads together with what is left
after it.  Fuel bounds the steps; the length of the program is always enough.
-/

namespace StorySuite.Script.Lexer

open Decimal

/-! ### Gaps between tokens -/

/-- What stands before a token. -/
structure Gap where
  /-- The comments that belong to the token, last first. -/
  comments : List Comment := []
  newline : Bool
  /-- There is a mark that the call that begins here has no effect. -/
  pure : Bool := false

/-- The characters of a comment up to its end, and what follows it; none if it has no end. -/
def blockComment? : List Char → List Char → Option (List Char × List Char)
  | _, [] => none
  | acc, '*' :: '/' :: rest => some (acc.reverse, rest)
  | acc, c :: rest => blockComment? (c :: acc) rest

/-- The text of a comment is the mark that a call has no effect. -/
def isPureMark (body : List Char) : Bool :=
  let body := Text.trimChars body
  body == "@__PURE__".toList || body == "#__PURE__".toList

/-- The end of a line: the last comment is followed by it, and comments that began behind a token on
that line belong to that token, unless it opens something. -/
def Gap.endLine (g : Gap) (opens : Bool) : Gap :=
  let comments := match g.comments with
    | c :: rest => { c with beforeNewline := true } :: rest
    | [] => []
  { g with comments := if g.newline || opens then comments else [], newline := true }

/-- A line that is a comment. -/
def Gap.addLine (g : Gap) (text : List Char) (opens : Bool) : Gap :=
  let c : Comment :=
    { text := String.ofList text, isLine := true, afterNewline := g.newline, beforeNewline := true }
  { g with comments := if g.newline || opens then c :: g.comments else [], newline := true }

/-- A comment between marks. -/
def Gap.addBlock (g : Gap) (body : List Char) : Gap :=
  if isPureMark body then { g with pure := true }
  else
    let c : Comment :=
      { text := "/*" ++ String.ofList body ++ "*/", isLine := false, afterNewline := g.newline,
        beforeNewline := false }
    { g with comments := c :: g.comments }

/-- Passes over blanks and comments.  `opens` when the token before opens something; `script` admits
the comments of markup; `broken` when a comment between marks runs over a line. -/
def skipGap? :
    Nat → (script opens broken : Bool) → Gap → List Char → Option (Gap × Bool × List Char)
  | 0, _, _, _, _, _ => none
  | fuel + 1, script, opens, broken, g, cs =>
    let line (cs : List Char) :=
      let text := cs.takeWhile (!isLineEnd ·)
      skipGap? fuel script opens broken (g.addLine text opens) (cs.drop text.length)
    match cs with
    | '/' :: '/' :: _ => line cs
    | '/' :: '*' :: rest => do
      let (body, rest) ← blockComment? [] rest
      skipGap? fuel script opens (broken || body.any isLineEnd) (g.addBlock body) rest
    | '<' :: '!' :: '-' :: '-' :: _ => if script then line cs else some (g, broken, cs)
    | '-' :: '-' :: '>' :: _ =>
      if script && (g.newline || broken) then line cs else some (g, broken, cs)
    | c :: rest =>
      if isLineEnd c then skipGap? fuel script opens broken (g.endLine opens) rest
      else if isSpace c then skipGap? fuel script opens broken g rest
      else some (g, broken, cs)
    | [] => some (g, broken, [])

/-! ### Escapes -/

/-- What the character after a backslash in a text stands for. -/
inductive Escaped where
  /-- A character, or a half of a surrogate pair. -/
  | unit (n : Nat)
  /-- Nothing: the line goes on. -/
  | nothing
  /-- An octal number, which a template may not hold. -/
  | octal (n : Nat)

/-- The number in braces, and what follows it. -/
def braced? (cs : List Char) : Option (Nat × List Char) := do
  let ds := cs.takeWhile (· != '\x7d')
  let n ← Text.ofDigits? 16 ds
  if 0x10ffff < n then none
  match cs.drop ds.length with
  | _ :: rest => pure (n, rest)
  | [] => none

/-- The number after `u`, and what follows it. -/
def unicodeEscape? : List Char → Option (Nat × List Char)
  | '\x7b' :: rest => braced? rest
  | cs => Json.hexUnit? cs

/-- The octal number at the front of `cs`, at most 255, and what follows it. -/
def octal (cs : List Char) : Nat × List Char :=
  let isOctal (c : Char) : Bool := '0' ≤ c && c ≤ '7'
  let most := if cs.head?.any (· ≤ '3') then 3 else 2
  let ds := (cs.take most).takeWhile isOctal
  (ds.foldl (fun n c => n * 8 + (c.toNat - 48)) 0, cs.drop ds.length)

/-- What is escaped at the front of `cs`, and what follows it. -/
def escape? : List Char → Option (Escaped × List Char)
  | [] => none
  | 'n' :: rest => some (.unit 0xa, rest)
  | 't' :: rest => some (.unit 0x9, rest)
  | 'r' :: rest => some (.unit 0xd, rest)
  | 'b' :: rest => some (.unit 0x8, rest)
  | 'v' :: rest => some (.unit 0xb, rest)
  | 'f' :: rest => some (.unit 0xc, rest)
  | '\r' :: '\n' :: rest => some (.nothing, rest)
  | 'u' :: rest => (unicodeEscape? rest).map fun r => (.unit r.1, r.2)
  | 'x' :: a :: b :: rest => (Text.ofDigits? 16 [a, b]).map fun n => (.unit n, rest)
  | 'x' :: _ => none
  | c :: rest =>
    if isLineEnd c then some (.nothing, rest)
    else if c == '0' && !(rest.head?.any Char.isDigit) then some (.unit 0, rest)
    else if '0' ≤ c && c ≤ '7' then
      let (n, rest) := octal (c :: rest)
      some (.octal n, rest)
    else if c == '8' || c == '9' then some (.octal c.toNat, rest)
    else some (.unit c.toNat, rest)

/-- The text that units write: pairs of surrogates are joined, and where half of one stands alone it
and all U+FFFD are kept with their digits. -/
def textOf (units : List Nat) : StringValue :=
  let joined := join units
  let lone := joined.any isSurrogate
  { value := String.ofList (joined.flatMap fun n =>
      if isSurrogate n || (lone && n == 0xfffd) then '\ufffd' :: Text.hex4 n
      else [Char.ofNat n])
    lone }
where
  /-- The unit is half of a pair. -/
  isSurrogate (n : Nat) : Bool := 0xd800 ≤ n && n ≤ 0xdfff
  /-- Pairs of surrogates made one. -/
  join : List Nat → List Nat
    | [] => []
    | [n] => [n]
    | a :: b :: rest =>
      if 0xd800 ≤ a && a ≤ 0xdbff && 0xdc00 ≤ b && b ≤ 0xdfff then
        (0x10000 + (a - 0xd800) * 0x400 + (b - 0xdc00)) :: join rest
      else a :: join (b :: rest)

/-! ### Texts and templates -/

/-- The units up to the closing quote, and what follows it. -/
def stringTail? (quote : Char) : Nat → List Nat → List Char → Option (List Nat × List Char)
  | 0, _, _ => none
  | _, _, [] => none
  | fuel + 1, acc, c :: rest =>
    if c == quote then some (acc.reverse, rest)
    else if c == '\\' then do
      match ← escape? rest with
      | (.unit n, rest) | (.octal n, rest) => stringTail? quote fuel (n :: acc) rest
      | (.nothing, rest) => stringTail? quote fuel acc rest
    else if c == '\n' || c == '\r' then none
    else stringTail? quote fuel (c.toNat :: acc) rest

/-- The characters that `rest`, an end of `cs`, leaves of it. -/
def consumed (cs rest : List Char) : String :=
  String.ofList (cs.take (cs.length - rest.length))

/-- How a piece of a template ends. -/
structure ChunkEnd where
  /-- The units of the text, last first; none after a broken escape. -/
  units : Option (List Nat)
  /-- The characters as they are written, last first, with plain ends of lines. -/
  raw : List Char
  closed : Bool
  rest : List Char

/-- The piece of a template up to its end or up to a value. -/
def chunkTail? : Nat → Option (List Nat) → List Char → List Char → Option ChunkEnd
  | 0, _, _, _ => none
  | fuel + 1, units, raw, cs =>
    match cs with
    | [] => none
    | '\x60' :: rest => some ⟨units, raw, true, rest⟩
    | '$' :: '\x7b' :: rest => some ⟨units, raw, false, rest⟩
    | '\r' :: '\n' :: rest => chunkTail? fuel (units.map (0xa :: ·)) ('\n' :: raw) rest
    | '\r' :: rest => chunkTail? fuel (units.map (0xa :: ·)) ('\n' :: raw) rest
    | '\\' :: rest =>
      match escape? rest with
      | some (.unit n, rest') =>
        chunkTail? fuel (units.map (n :: ·)) (written rest rest' ++ '\\' :: raw) rest'
      | some (.nothing, rest') => chunkTail? fuel units (written rest rest' ++ '\\' :: raw) rest'
      | some (.octal _, rest') => chunkTail? fuel none (written rest rest' ++ '\\' :: raw) rest'
      | none =>
        match rest with
        | c :: rest' => chunkTail? fuel none (c :: '\\' :: raw) rest'
        | [] => none
    | c :: rest => chunkTail? fuel (units.map (c.toNat :: ·)) (c :: raw) rest
where
  /-- The characters of `cs` before `rest`, last first, with plain ends of lines. -/
  written (cs rest : List Char) : List Char :=
    match cs.take (cs.length - rest.length) with
    | ['\r', '\n'] => ['\n']
    | ['\r'] => ['\n']
    | ds => ds.reverse

/-- The piece of a template at the front of `cs`. -/
def chunk (fuel : Nat) (cs : List Char) : Token × List Char :=
  match chunkTail? fuel (some []) [] cs with
  | some e =>
    (.chunk { text := e.units.map fun us => textOf us.reverse, raw := String.ofList e.raw.reverse }
      e.closed, e.rest)
  | none => (.bad, cs)

/-! ### Names and numbers -/

/-- The characters of a name, with escapes, and what follows it. -/
def nameTail? : Nat → List Char → List Char → Option (List Char × List Char)
  | 0, _, _ => none
  | fuel + 1, acc, cs =>
    match cs with
    | '\\' :: 'u' :: rest => do
      let (n, rest) ← unicodeEscape? rest
      let c := Char.ofNat n
      if (if acc.isEmpty then isNameStart c else isNamePart c) then nameTail? fuel (c :: acc) rest
      else none
    | '\\' :: _ => none
    | c :: rest =>
      if (if acc.isEmpty then isNameStart c else isNamePart c) then nameTail? fuel (c :: acc) rest
      else some (acc.reverse, cs)
    | [] => some (acc.reverse, [])

/-- The name at the front of `cs`, whether it has escapes, and what follows it. -/
def name? (fuel : Nat) (cs : List Char) : Option (String × Bool × List Char) :=
  let plain := cs.takeWhile isNamePart
  match cs.drop plain.length with
  | '\\' :: _ => do
    let (s, rest) ← nameTail? fuel [] cs
    pure (String.ofList s, true, rest)
  | rest => if plain.isEmpty then none else some (String.ofList plain, false, rest)

/-- Digits with single underscores between them, and what follows them; none where an underscore has
no digit on one side.  `acc` holds the digits already read, last first. -/
def digits? (isDigit : Char → Bool) : List Char → List Char → Option (List Char × List Char)
  | acc, '_' :: c :: rest =>
    if acc.isEmpty || !isDigit c then none else digits? isDigit (c :: acc) rest
  | acc, c :: rest =>
    if c == '_' then none
    else if isDigit c then digits? isDigit (c :: acc) rest
    else some (acc.reverse, c :: rest)
  | acc, [] => some (acc.reverse, [])

/-- A number must not run into a name. -/
def endsNumber (rest : List Char) : Bool :=
  !rest.head?.any fun c => isNameStart c || c.isDigit || c == '\\'

/-- The digits of a number in another base than ten, after its mark. -/
def based? (base : Nat) (cs : List Char) : Option (Token × List Char) := do
  let (ds, rest) ← digits? (fun c => (Text.digitValue? base c).isSome) [] cs
  let n ← Text.ofDigits? base ds
  match rest with
  | 'n' :: rest => if endsNumber rest then pure (.bigint n, rest) else none
  | rest => if endsNumber rest then pure (.number (Binary64.ofRatio? false n 1), rest) else none

/-- The power of ten at the front of `cs`, if there is one. -/
def power? : List Char → Option (Int × List Char)
  | [] => some (0, [])
  | c :: rest =>
    if c == 'e' || c == 'E' then do
      let (negative, rest) := match rest with
        | '-' :: r => (true, r)
        | '+' :: r => (false, r)
        | r => (false, r)
      let (ds, rest) ← digits? Char.isDigit [] rest
      if ds.isEmpty then none
      let n : Int := Json.decimalOf ds
      pure (if negative then -n else n, rest)
    else some (0, c :: rest)

/-- The number in base ten at the front of `cs`; `whole` are its digits before `cs`. -/
def decimalTail? (whole : List Char) (big : Bool) (cs : List Char) :
    Option (Token × List Char) := do
  match cs with
  | 'n' :: rest =>
    if big && endsNumber rest then pure (.bigint (Json.decimalOf whole), rest) else none
  | _ =>
    let (fraction, rest) ← match cs with
      | '.' :: '_' :: _ => none
      | '.' :: rest => digits? Char.isDigit [] rest
      | rest => some ([], rest)
    let (power, rest) ← power? rest
    if !endsNumber rest then none
    let x :=
      Binary64.ofDecimal? false (Json.decimalOf (whole ++ fraction)) (power - fraction.length)
    pure (.number x, rest)

/-- The number at the front of `cs`, which begins with a digit or with a point and a digit. -/
def number? (cs : List Char) : Option (Token × List Char) :=
  match cs with
  | '0' :: c :: rest =>
    if c == 'x' || c == 'X' then based? 16 rest
    else if c == 'o' || c == 'O' then based? 8 rest
    else if c == 'b' || c == 'B' then based? 2 rest
    else if c == '_' then none
    else if c.isDigit then
      let ds := (c :: rest).takeWhile Char.isDigit
      let rest := (c :: rest).drop ds.length
      if ds.all (· < '8') then
        match Text.ofDigits? 8 ds with
        | some n =>
          if endsNumber rest && rest.head? != some '_' then
            some (.number (Binary64.ofRatio? false n 1), rest) else none
        | none => none
      else if rest.head? == some '_' then none
      else decimalTail? ds false rest
    else decimalTail? ['0'] true (c :: rest)
  | '.' :: _ => decimalTail? [] false cs
  | _ => do
    let (ds, rest) ← digits? Char.isDigit [] cs
    decimalTail? ds true rest

/-! ### Tokens -/

/-- The first of `candidates` that `cs` begins with, and what follows it. -/
def sign? (candidates : List (List Char)) (cs : List Char) : Option (String × List Char) :=
  candidates.findSome? fun s => (Text.dropStart? s cs).map fun rest => (String.ofList s, rest)

/-- The token at the front of `cs`, before which there is no gap. -/
def token (fuel : Nat) (cs : List Char) : Token × List Char :=
  match cs with
  | [] => (.finish, [])
  | c :: rest =>
    if c == '"' || c == '\'' then
      match stringTail? c fuel [] rest with
      | some (units, rest') => (.string (textOf units) (consumed cs rest'), rest')
      | none => (.bad, rest)
    else if c == '\x60' then chunk fuel rest
    else if isNameStart c || c == '\\' then
      match name? fuel cs with
      | some (s, escaped, rest) => (.name s escaped, rest)
      | none => (.bad, rest)
    else if c == '#' then
      match rest with
      | d :: _ =>
        if isNameStart d || d == '\\' then
          match name? fuel rest with
          | some (s, _, rest) => (.privateName s, rest)
          | none => (.bad, rest)
        else (.bad, rest)
      | [] => (.bad, rest)
    else if c.isDigit || (c == '.' && rest.head?.any Char.isDigit) then
      (number? cs).getD (.bad, rest)
    else
      match sign? signs cs with
      | some ("?.", after) =>
        if after.head?.any Char.isDigit then (.sign "?", rest) else (.sign "?.", after)
      | some (s, after) => (.sign s, after)
      | none => (.bad, rest)

/-- The body of a regular expression up to the closing mark, and what follows it; within a class the
mark does not count.  `acc` holds the characters already read, last first. -/
def regexBody? : Bool → List Char → List Char → Option (List Char × List Char)
  | _, _, [] => none
  | inClass, acc, '\\' :: c :: rest =>
    if isLineEnd c then none else regexBody? inClass (c :: '\\' :: acc) rest
  | inClass, acc, c :: rest =>
    if isLineEnd c then none
    else if c == '/' && !inClass then some (acc.reverse, rest)
    else regexBody? (if c == '[' then true else if c == ']' then false else inClass) (c :: acc) rest

/-- The regular expression at the front of `cs`, which begins with its mark; each flag is one of the
known ones and stands once. -/
def regex? (cs : List Char) : Option (Literal × List Char) := do
  let (body, rest) ← regexBody? false [] (cs.drop 1)
  let flags := rest.takeWhile isNamePart
  if flags.any (!"dgimsuvy".toList.contains ·) || !distinct flags then none
  let rest := rest.drop flags.length
  if rest.head? == some '\\' then none
  pure (.regex (String.ofList body) (String.ofList flags), rest)
where
  /-- No two characters are the same. -/
  distinct : List Char → Bool
    | [] => true
    | c :: cs => !cs.contains c && distinct cs

end StorySuite.Script.Lexer
