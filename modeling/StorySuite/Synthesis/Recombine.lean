import StorySuite.Build.Service
import StorySuite.Synthesis.Error

/-!
# Synthesis — one text of two

The compiled module and its suite become one text, which the build service puts into one form and
the caller may change at the end.
-/

namespace StorySuite.Synthesis

/-- The compiled text and the suite, each on lines of its own. -/
def joinTexts (compiled suite : String) : String :=
  compiled ++ "\n" ++ suite ++ "\n"

/-- The caller's change of the finished text, if there is one. -/
def applyTransform (transform : Option (String → String)) (code : String) :
    Run SynthesisError String :=
  match transform with
  | none => pure code
  | some f => do
    Run.call .transform
    pure (f code)

/-- The finished text of a module and its suite. -/
def recombine (build : BuildService) (module : ModuleReference) (compiled suite : String)
    (transform : Option (String → String)) : Run SynthesisError String := do
  Run.call (.normalize module.virtualPath module.dialect)
  let code ← Run.ofReport .build
    (build.normalize (joinTexts compiled suite) module.virtualPath module.dialect)
  applyTransform transform code

end StorySuite.Synthesis
