import StorySuite.Dialect
import StorySuite.Script.Exports
import StorySuite.Script.Parser.Statement

/-!
# Script — reading a program

The productions of the grammar, tied together with a bound on how deep they call each other, and the
programs that they read.
-/

namespace StorySuite.Script

/-- The grammar whose productions call each other at most so deep. -/
def grammar : Nat → Grammar
  | 0 => .empty
  | n + 1 =>
    { expression := fun c => Parser.expressionProduction (grammar n) c
      assignment := fun c => Parser.assignmentProduction (grammar n) c
      binary := fun least c => Parser.binaryProduction (grammar n) least c
      unary := fun c => Parser.unaryProduction (grammar n) c
      pattern := fun c => Parser.patternProduction (grammar n) c
      statement := fun c => Parser.statementProduction (grammar n) c
      type := fun c => Parser.typeProduction (grammar n) c
      element := fun c => Parser.elementProduction (grammar n) c }

/-- What a program may be. -/
structure Goal where
  dialect : Dialect
  isModule : Bool
  /-- The program may await in its functions only. -/
  barsAwait : Bool := false
  deriving DecidableEq, Repr

namespace Program

/-- The statements of a whole program. -/
def wholeText (depth : Nat) : Parser (List Item) := do
  let items ← Parser.body (grammar depth) (return (← Parser.token) == .finish)
  Parser.ensure !(← get).owesPattern
  return items

/-- The line that names what runs a program, if there is one, and what follows it. -/
def splitRunner (cs : List Char) : Option String × List Char :=
  match cs with
  | '#' :: '!' :: _ =>
    let line := cs.takeWhile (!isLineEnd ·)
    (some (String.ofList line), cs.drop line.length)
  | _ => (none, cs)

/-- The program that `s` writes. -/
def parse? (goal : Goal) (s : String) : Option Program := do
  let (runner, cs) := splitRunner s.toList
  let fuel := cs.length + 2
  let c : Context :=
    { fuel
      hasTypes := goal.dialect.hasTypes
      hasElements := goal.dialect.hasElements
      isModule := goal.isModule
      isAsync := goal.isModule
      barsAwait := goal.barsAwait }
  let start := State.start fuel (!goal.isModule) false true false cs
  let (items, _) ← wholeText (8 * fuel) c start
  let program : Program := { runner, items }
  if c.hasTypes || program.exportsOnce then pure program else none

end Program

end StorySuite.Script
