import StorySuite.Script.Parser

/-!
# Proofs — Script — programs by their characters

A program is read from the characters of its text, so texts that are put together from lists of
characters can be read without being put together first.

* `parse?_eq_read?`, `parse?_ofList`: what a text writes is what its characters write.
-/

namespace StorySuite.Script

/-- What holds throughout a program of `length` characters. -/
def Goal.context (goal : Goal) (length : Nat) : Context where
  fuel := length + 2
  hasTypes := goal.dialect.hasTypes
  hasElements := goal.dialect.hasElements
  isModule := goal.isModule
  isAsync := goal.isModule
  barsAwait := goal.barsAwait

/-- The place at the front of a program. -/
def Goal.front (goal : Goal) (cs : List Char) : State :=
  State.start (cs.length + 2) (!goal.isModule) false true false cs

namespace Program

/-- The program that characters write, behind the line that names what runs it. -/
def readFrom? (goal : Goal) (runner : Option String) (cs : List Char) : Option Program := do
  let (items, _) ← wholeText (8 * (cs.length + 2)) (goal.context cs.length) (goal.front cs)
  let program : Program := { runner, items }
  if goal.dialect.hasTypes || program.exportsOnce then pure program else none

/-- The program that characters write. -/
def read? (goal : Goal) (cs : List Char) : Option Program :=
  readFrom? goal (splitRunner cs).1 (splitRunner cs).2

/-- What a text writes is what its characters write. -/
theorem parse?_eq_read? (goal : Goal) (s : String) : parse? goal s = read? goal s.toList :=
  rfl

@[simp]
theorem parse?_ofList (goal : Goal) (cs : List Char) :
    parse? goal (String.ofList cs) = read? goal cs := by
  rw [parse?_eq_read?, String.toList_ofList]

end Program

end StorySuite.Script
