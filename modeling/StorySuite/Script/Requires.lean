import StorySuite.Script.Mentions
import StorySuite.Script.Parser

/-!
# Script — required names

The names that a script requires in plain sight: as the one argument of a call of `require`, written
out.  What is required under a name made at run time is looked up when the script runs.
-/

namespace StorySuite.Script

/-- The text that an expression writes out. -/
def Expr.writtenText? : Expr → Option String
  | .literal (.string t) => some t.value
  | .template [c] [] => c.text.map (·.value)
  | _ => none

namespace Mention

/-- The name that a call requires. -/
def required? : Mention → Option String
  | .call (.name "require") [e] => e.writtenText?
  | _ => none

end Mention

/-- The list without what stands in it before. -/
def distinct (names : List String) : List String :=
  (names.foldl (fun acc s => if acc.contains s then acc else s :: acc) []).reverse

namespace Program

/-- The names that a program requires, each once, in the order in which they first stand there. -/
def requires (p : Program) : List String :=
  distinct (p.mentions.filterMap Mention.required?)

end Program

/-- The names that the script `code` requires; none if it is no script. -/
def requires? (code : String) : Option (List String) :=
  (Program.parse? { dialect := .js, isModule := false } code).map Program.requires

end StorySuite.Script
