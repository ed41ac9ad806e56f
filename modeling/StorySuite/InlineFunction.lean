import StorySuite.Script.Inspection
import StorySuite.Script.Parser
import StorySuite.Synthesis.Error
import StorySuite.TestBody

/-!
# Test body — functions given as text

The text of a function is read in parentheses, where it can be nothing but an expression, and has to
be one function.
-/

namespace StorySuite.InlineFunction

open Script

/-- The text as a statement of its own. -/
def wrapped (source : String) : String :=
  "(" ++ source ++ ");"

/-- How the function that an expression is runs; none if it is no function. -/
def style? (e : Expr) : Option Suspension :=
  match e.inner with
  | .function (.mk _ isAsync ..) | .arrow (.mk _ isAsync ..) =>
    some (if isAsync then .async else .sync)
  | _ => none

/-- How the function that the whole program is runs. -/
def styleOf (p : Program) : Except BodyFault Suspension :=
  match p.items with
  | [.mk _ (.expr e)] =>
    match style? e with
    | some style => .ok style
    | none => .error .notFunction
  | _ => .error .notOneExpression

/-- The function that `source` writes. -/
def parse (source : String) : Except BodyFault InlineFunction :=
  let trimmed := Text.trim source
  if trimmed.isEmpty then .error .empty
  else
    match Program.parse? { dialect := .js, isModule := true } (wrapped trimmed) with
    | none => .error .unparsable
    | some p => (styleOf p).map fun style => { source, style }

end StorySuite.InlineFunction
