import StorySuite.Json.Parser

/-!
# Json — passing over a value

A value that nobody asked for only has to be well formed: its numbers may be beyond all bounds, its
escapes may be halves of a pair, and it may be nested without a bound.
-/

namespace StorySuite.Json

/-- What follows a backslash and its escape. -/
def skipEscape? : List Char → Option (List Char)
  | 'u' :: rest => (hexUnit? rest).map (·.2)
  | c :: rest => if ['"', '\\', '/', 'b', 'f', 'n', 'r', 't'].contains c then some rest else none
  | [] => none

/-- What follows the closing quote, found in at most `fuel` steps. -/
def skipString? : Nat → List Char → Option (List Char)
  | 0, _ => none
  | _, [] => none
  | _ + 1, '"' :: rest => some rest
  | fuel + 1, '\\' :: rest => (skipEscape? rest).bind (skipString? fuel)
  | fuel + 1, c :: rest => if c.toNat < 0x20 then none else skipString? fuel rest

/-- What follows a number that stands at the front of `cs` after its sign. -/
def skipMagnitude? (cs : List Char) : Option (List Char) := do
  let (ds, rest) := digitRun cs
  if ds.isEmpty || (ds.length > 1 && ds.head? == some '0') then none
  let (_, rest) ← fraction? rest
  let (_, rest) ← powerOfTen? rest
  pure rest

/-- What follows a number. -/
def skipNumber? : List Char → Option (List Char)
  | '-' :: rest => skipMagnitude? rest
  | rest => skipMagnitude? rest

mutual

/-- What follows a value, found in at most `fuel` steps. -/
def skipValue? : Nat → List Char → Option (List Char)
  | 0, _ => none
  | fuel + 1, cs =>
    match skipBlanks cs with
    | '"' :: rest => skipString? (rest.length + 1) rest
    | '[' :: rest =>
      match skipBlanks rest with
      | ']' :: rest => some rest
      | rest => skipItems? fuel rest
    | '\x7b' :: rest =>
      match skipBlanks rest with
      | '\x7d' :: rest => some rest
      | rest => skipFields? fuel rest
    | 't' :: rest => afterWord? "rue" rest
    | 'f' :: rest => afterWord? "alse" rest
    | 'n' :: rest => afterWord? "ull" rest
    | rest => skipNumber? rest

/-- What follows the items up to the closing bracket. -/
def skipItems? : Nat → List Char → Option (List Char)
  | 0, _ => none
  | fuel + 1, cs => do
    match skipBlanks (← skipValue? fuel cs) with
    | ',' :: rest => skipItems? fuel rest
    | ']' :: rest => some rest
    | _ => none

/-- What follows the fields up to the closing brace. -/
def skipFields? : Nat → List Char → Option (List Char)
  | 0, _ => none
  | fuel + 1, cs => do
    match skipBlanks cs with
    | '"' :: rest =>
      match skipBlanks (← skipString? (rest.length + 1) rest) with
      | ':' :: rest =>
        match skipBlanks (← skipValue? fuel rest) with
        | ',' :: rest => skipFields? fuel rest
        | '\x7d' :: rest => some rest
        | _ => none
      | _ => none
    | _ => none

end

end StorySuite.Json
