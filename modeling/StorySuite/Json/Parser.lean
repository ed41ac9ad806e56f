import StorySuite.Json.Basic
import StorySuite.Text.Hex

/-!
# Json — reading

Reading the text of a value.  The standard grammar is accepted and nothing else: no comments, no
trailing commas, no control characters in strings, no unpaired surrogate escapes, no number beyond
the greatest one, and no nesting deeper than a given bound.  `parseFields?` keeps repeated keys as
they stand; `parse?` gives a repeated key its first place and its last value.
-/

namespace StorySuite.Json

open StorySuite.Text StorySuite.Decimal

/-- `cs` after blanks. -/
def skipBlanks (cs : List Char) : List Char :=
  cs.dropWhile fun c => c == ' ' || c == '\n' || c == '\t' || c == '\r'

/-- The number that four hexadecimal digits write, and what follows them. -/
def hexUnit? : List Char → Option (Nat × List Char)
  | a :: b :: c :: d :: rest => do
    let n ← ofDigits? 16 [a, b, c, d]
    pure (n, rest)
  | _ => none

/-- The character after a backslash, and what follows it. -/
def escaped? : List Char → Option (Char × List Char)
  | '"' :: rest => some ('"', rest)
  | '\\' :: rest => some ('\\', rest)
  | '/' :: rest => some ('/', rest)
  | 'b' :: rest => some ('\x08', rest)
  | 'f' :: rest => some ('\x0c', rest)
  | 'n' :: rest => some ('\n', rest)
  | 'r' :: rest => some ('\r', rest)
  | 't' :: rest => some ('\t', rest)
  | 'u' :: rest => do
    let (high, rest) ← hexUnit? rest
    if 0xdc00 ≤ high && high ≤ 0xdfff then none
    else if 0xd800 ≤ high && high ≤ 0xdbff then
      match rest with
      | '\\' :: 'u' :: rest =>
        let (low, rest) ← hexUnit? rest
        if 0xdc00 ≤ low && low ≤ 0xdfff then
          pure (Char.ofNat (0x10000 + (high - 0xd800) * 0x400 + (low - 0xdc00)), rest)
        else none
      | _ => none
    else pure (Char.ofNat high, rest)
  | _ => none

/-- The characters up to the closing quote, and what follows it, read in at most `fuel` steps;
`acc` holds those already read, last first. -/
def stringTail? : Nat → List Char → List Char → Option (String × List Char)
  | 0, _, _ => none
  | _, _, [] => none
  | _ + 1, acc, '"' :: rest => some (String.ofList acc.reverse, rest)
  | fuel + 1, acc, '\\' :: rest => do
    let (c, rest) ← escaped? rest
    stringTail? fuel (c :: acc) rest
  | fuel + 1, acc, c :: rest => if c.toNat < 0x20 then none else stringTail? fuel (c :: acc) rest

/-- The digits at the front of `cs`, and what follows them. -/
def digitRun (cs : List Char) : List Char × List Char :=
  (cs.takeWhile Char.isDigit, cs.dropWhile Char.isDigit)

/-- The number that decimal digits write. -/
def decimalOf (ds : List Char) : Nat :=
  ds.foldl (fun n c => n * 10 + (c.toNat - 48)) 0

/-- The digits after a point, if there is one; a point needs a digit. -/
def fraction? : List Char → Option (Option (List Char) × List Char)
  | '.' :: rest =>
    let (ds, rest) := digitRun rest
    if ds.isEmpty then none else some (some ds, rest)
  | cs => some (none, cs)

/-- The power of ten after a mark, if there is one; a mark needs a digit. -/
def powerOfTen? : List Char → Option (Option Int × List Char)
  | [] => some (none, [])
  | c :: rest =>
    if c == 'e' || c == 'E' then
      let (negative, rest) := match rest with
        | '-' :: r => (true, r)
        | '+' :: r => (false, r)
        | r => (false, r)
      let (ds, rest) := digitRun rest
      if ds.isEmpty then none
      else
        let n : Int := decimalOf ds
        some (some (if negative then -n else n), rest)
    else some (none, c :: rest)

/-- `± n` as a whole number where it fits 64 bits. -/
def wholeNumber? (negative : Bool) (n : Nat) : Option Number :=
  if negative then
    if n = 0 then none else if n ≤ Nat.pow 2 63 then some (.whole (-n)) else none
  else if n < Nat.pow 2 64 then some (.whole n) else none

/-- The number that stands at the front of `cs` after its sign, and what follows it. -/
def magnitude? (negative : Bool) (cs : List Char) : Option (Number × List Char) := do
  let (ds, rest) := digitRun cs
  if ds.isEmpty || (ds.length > 1 && ds.head? == some '0') then none
  let (frac, rest) ← fraction? rest
  let (power, rest) ← powerOfTen? rest
  let real (digits : List Char) (e : Int) : Option Number :=
    (Binary64.ofDecimal? negative (decimalOf digits) e).map .real
  let n ← match frac, power with
    | none, none => (wholeNumber? negative (decimalOf ds)).or (real ds 0)
    | frac, power =>
      let fs := frac.getD []
      real (ds ++ fs) (power.getD 0 - fs.length)
  pure (n, rest)

/-- The number at the front, and what follows it. -/
def number? : List Char → Option (Number × List Char)
  | '-' :: rest => magnitude? true rest
  | rest => magnitude? false rest

/-- `cs` after `word`, when it begins with it. -/
def afterWord? (word : String) (cs : List Char) : Option (List Char) :=
  if word.toList.isPrefixOf cs then some (cs.drop word.length) else none

mutual

/-- The value at the front of `cs`, and what follows it, with at most `depth` arrays and objects
around each other, read in at most `fuel` steps. -/
def value? : Nat → Nat → List Char → Option (Value × List Char)
  | 0, _, _ => none
  | fuel + 1, depth, cs =>
    match skipBlanks cs with
    | '"' :: rest => do
      let (s, rest) ← stringTail? (rest.length + 1) [] rest
      pure (.string s, rest)
    | '[' :: rest =>
      match depth with
      | 0 => none
      | depth + 1 =>
        match skipBlanks rest with
        | ']' :: rest => some (.array [], rest)
        | rest => do
          let (items, rest) ← items? fuel depth [] rest
          pure (.array items, rest)
    | '\x7b' :: rest =>
      match depth with
      | 0 => none
      | depth + 1 =>
        match skipBlanks rest with
        | '\x7d' :: rest => some (.object [], rest)
        | rest => do
          let (fields, rest) ← fields? fuel depth [] rest
          pure (.object fields, rest)
    | 't' :: rest => (afterWord? "rue" rest).map (.bool true, ·)
    | 'f' :: rest => (afterWord? "alse" rest).map (.bool false, ·)
    | 'n' :: rest => (afterWord? "ull" rest).map (.null, ·)
    | rest => do
      let (n, rest) ← number? rest
      pure (.number n, rest)

/-- The items up to the closing bracket; `acc` holds those already read, last first. -/
def items? : Nat → Nat → List Value → List Char → Option (List Value × List Char)
  | 0, _, _, _ => none
  | fuel + 1, depth, acc, cs => do
    let (v, rest) ← value? fuel depth cs
    match skipBlanks rest with
    | ',' :: rest => items? fuel depth (v :: acc) rest
    | ']' :: rest => pure ((v :: acc).reverse, rest)
    | _ => none

/-- The fields up to the closing brace; `acc` holds those already read, last first. -/
def fields? : Nat → Nat → List (String × Value) → List Char →
    Option (List (String × Value) × List Char)
  | 0, _, _, _ => none
  | fuel + 1, depth, acc, cs => do
    match skipBlanks cs with
    | '"' :: rest =>
      let (key, rest) ← stringTail? (rest.length + 1) [] rest
      match skipBlanks rest with
      | ':' :: rest =>
        let (v, rest) ← value? fuel depth rest
        match skipBlanks rest with
        | ',' :: rest => fields? fuel depth ((key, v) :: acc) rest
        | '\x7d' :: rest => pure (((key, v) :: acc).reverse, rest)
        | _ => none
      | _ => none
    | _ => none

end

mutual

/-- The value with repeated keys merged: a key keeps its first place and its last value. -/
def Value.merged : Value → Value
  | .array items => .array (mergedItems items)
  | .object fields => .object (mergedFields [] fields)
  | v => v

/-- The items, each merged. -/
def mergedItems : List Value → List Value
  | [] => []
  | v :: rest => v.merged :: mergedItems rest

/-- The fields of `acc` with those of the list, each merged, put in. -/
def mergedFields (acc : DataMap) : List (String × Value) → DataMap
  | [] => acc
  | (k, v) :: rest => mergedFields (acc.insert k v.merged) rest

end

/-- How deep arrays and objects may be nested in a text that is not trusted. -/
def nestingBound : Nat := 127

/-- The value that `s` writes, nested at most `depth` deep, with repeated keys as they stand. -/
def parseFields? (s : String) (depth : Nat) : Option Value := do
  let cs := s.toList
  let (v, rest) ← value? (2 * cs.length + 2) depth cs
  if (skipBlanks rest).isEmpty then pure v else none

/-- The value that `s` writes, nested at most `depth` deep. -/
def parse? (s : String) (depth : Nat) : Option Value :=
  (parseFields? s depth).map Value.merged

end StorySuite.Json
