import StorySuite.Json.Printer
import StorySuite.Text.Blank

/-!
# Test body — the function that makes a test

A test is made by a function that a caller gives as source text or names as another module's export.
Whether the steps of a test are awaited follows from that function.
-/

namespace StorySuite

/-- Whether the steps of a test are run one after the other or each awaited. -/
inductive Suspension where
  | sync
  | async
  deriving DecidableEq, Repr, Inhabited

namespace Suspension

/-- The style's name. -/
def name : Suspension → String
  | .sync => "sync"
  | .async => "async"

end Suspension

/-- The source text of a function, and whether the function is asynchronous. -/
structure InlineFunction where
  source : String
  style : Suspension
  deriving DecidableEq, Repr

/-- The function that makes tests. -/
inductive TestBody where
  /-- A function given as text. -/
  | inline (f : InlineFunction)
  /-- The function that a module exports under a name. -/
  | reference (module name : String) (style : Suspension)
  deriving DecidableEq, Repr

namespace TestBody

/-- The style of the tests made. -/
def style : TestBody → Suspension
  | .inline f => f.style
  | .reference _ _ style => style

/-- The expression that stands for the function in generated code. -/
def expression : TestBody → String
  | .inline f => "(" ++ Text.trim f.source ++ ")"
  | .reference module name _ =>
    "require(" ++ Json.quote module ++ ")[" ++ Json.quote name ++ "]"

end TestBody

end StorySuite
