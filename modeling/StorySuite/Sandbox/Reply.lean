import StorySuite.Json.Skip
import StorySuite.Sandbox.Error
import StorySuite.Text.Pieces
import StorySuite.Text.Utf8

/-!
# Sandbox — a host's reply

A host prints its reply on a line that begins with a marker; what the module itself prints stands on
other lines, and of several marked lines the last one counts.  A reply is an object or a list of its
parts in order.
-/

namespace StorySuite

/-- What a module in the sandbox exports. -/
inductive Outcome where
  /-- The default export's value. -/
  | default (value : Json.Value)
  /-- All exports, where there is no default export. -/
  | exports (value : Json.Value)

namespace Outcome

/-- The value. -/
def value : Outcome → Json.Value
  | .default v | .exports v => v

/-- The value is the default export's. -/
def isDefault : Outcome → Bool
  | .default _ => true
  | .exports _ => false

end Outcome

/-- How a host ended, and what it left on its streams. -/
structure HostExit where
  /-- None when a signal ended it. -/
  status : Option Int
  stdout : List UInt8
  stderr : List UInt8

/-- A host's reply. -/
structure HostReply where
  ok : Bool
  /-- The value is the default export's. -/
  isDefault : Bool := false
  value : Json.Value := .null
  message : Option String := none
  stack : Option String := none

namespace HostReply

open Json

/-- What stands before a reply on its line. -/
def marker : String := "__STORYTEST_RESULT__"

/-- The parts of a reply, in the order in which a list gives them. -/
def partNames : List String := ["ok", "kind", "value", "message", "stack"]

/-- Whether a kind is the default export's; nothing said means that it is not. -/
def kind? : Value → Option Bool
  | .null => some false
  | .string "default" => some true
  | .string "exports" => some false
  | .object [("default", .null)] => some true
  | .object [("exports", .null)] => some false
  | _ => none

/-- A text that may be missing. -/
def optionalText? : Value → Option (Option String)
  | .null => some none
  | .string s => some (some s)
  | _ => none

/-- The reply that has the given parts. -/
def ofParts? (parts : DataMap) : Option HostReply := do
  let .bool ok ← parts.get? "ok" | none
  let part (name : String) : Value := (parts.get? name).getD .null
  pure {
    ok
    isDefault := ← kind? (part "kind")
    value := part "value"
    message := ← optionalText? (part "message")
    stack := ← optionalText? (part "stack") }

/-- `acc` with the part whose name is `key` and whose value stands at the front of `cs`, and what
follows it; a known part may be there once, all others are passed over. -/
def part? (acc : DataMap) (key : String) (cs : List Char) : Option (DataMap × List Char) :=
  if partNames.contains key then
    if (acc.get? key).isSome then none
    else (value? (2 * cs.length + 2) (nestingBound - 1) cs).map fun (v, rest) =>
      (acc.insert key v.merged, rest)
  else (skipValue? (2 * cs.length + 2) cs).map (acc, ·)

/-- The known parts among the fields up to the closing brace, and what follows it; `acc` holds those
already read. -/
def fieldParts? : Nat → DataMap → List Char → Option (DataMap × List Char)
  | 0, _, _ => none
  | fuel + 1, acc, cs => do
    match skipBlanks cs with
    | '"' :: rest =>
      let (key, rest) ← stringTail? (rest.length + 1) [] rest
      match skipBlanks rest with
      | ':' :: rest =>
        let (acc, rest) ← part? acc key rest
        match skipBlanks rest with
        | ',' :: rest => fieldParts? fuel acc rest
        | '\x7d' :: rest => pure (acc, rest)
        | _ => none
      | _ => none
    | _ => none

/-- The known parts up to the closing brace, where there may be no fields at all, and what follows
it. -/
def objectParts? (cs : List Char) : Option (DataMap × List Char) :=
  match skipBlanks cs with
  | '\x7d' :: rest => some ([], rest)
  | rest => fieldParts? (rest.length + 1) [] rest

/-- The reply that `line` writes as a list of its parts. -/
def parseList? (line : String) : Option HostReply := do
  let .array items ← Json.parse? line nestingBound | none
  if partNames.length < items.length then none else ofParts? (partNames.zip items)

/-- The reply that `line` writes. -/
def parse? (line : String) : Option HostReply :=
  match skipBlanks line.toList with
  | '\x7b' :: rest => do
    let (parts, rest) ← objectParts? rest
    if (skipBlanks rest).isEmpty then ofParts? parts else none
  | _ => parseList? line

/-- What a reply says. -/
def outcome (r : HostReply) : Except SandboxError Outcome :=
  if r.ok then .ok (if r.isDefault then .default r.value else .exports r.value)
  else .error (.execution (r.message.getD "unknown error") r.stack)

/-- A line without the carriage return at its end. -/
def withoutReturn (line : List Char) : List Char :=
  if line.getLast? == some '\r' then line.dropLast else line

/-- The lines whose texts are cut at newlines.  A carriage return in front of a newline belongs to
the line's end; the end of the last line may be missing. -/
def linesOf : List (List Char) → List (List Char)
  | [] => []
  | [last] => if last.isEmpty then [] else [last]
  | line :: next :: more => withoutReturn line :: linesOf (next :: more)

/-- The lines of a text. -/
def lines (s : String) : List (List Char) :=
  linesOf (Text.splitChars '\n' s.toList)

/-- What follows the marker on the last marked line. -/
def find? (stdout : String) : Option String :=
  ((lines stdout).reverse.findSome? (Text.dropStart? marker.toList)).map String.ofList

/-- What a host says by the texts on its streams and by its status. -/
def ofOutput (stdout : String) (status : Option Int) (stderr : String) :
    Except SandboxError Outcome :=
  match find? stdout with
  | none => .error (.hostFailed status stderr)
  | some line =>
    match parse? line with
    | none => .error .badReply
    | some r => r.outcome

/-- What a host's end says. -/
def ofExit (e : HostExit) : Except SandboxError Outcome :=
  ofOutput (Text.Utf8.decodeLossy e.stdout) e.status (Text.Utf8.decodeLossy e.stderr)

end HostReply

end StorySuite
