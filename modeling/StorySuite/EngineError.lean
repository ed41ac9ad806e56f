import StorySuite.Config.Basic
import StorySuite.Sandbox.Error
import StorySuite.Synthesis.Error

/-!
# Engine — who has to act on an error

An error is the request's, the build service's, the synthesis', the sandbox' or the configuration's.
-/

namespace StorySuite

/-- An error, by who has to act on it. -/
inductive EngineError where
  /-- The request itself is no good. -/
  | precondition (error : SynthesisError)
  /-- The module cannot be built. -/
  | resolution (error : BuildError)
  | synthesis (error : SynthesisError)
  | execution (error : SandboxError)
  | config (error : ConfigError)
  deriving DecidableEq, Repr

namespace EngineError

/-- An error of a synthesis: a build error is told as one, and what is the request's own fault is
kept apart from the rest. -/
def ofSynthesis (e : SynthesisError) : EngineError :=
  match e with
  | .build b => .resolution b
  | e => if e.isPrecondition then .precondition e else .synthesis e

/-- The name of the class of an error. -/
def className : EngineError → String
  | .precondition _ => "Precondition"
  | .resolution _ => "Resolution"
  | .synthesis _ => "Synthesis"
  | .execution _ => "Execution"
  | .config _ => "Config"

end EngineError

end StorySuite
