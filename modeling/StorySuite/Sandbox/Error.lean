import StorySuite.Path.Basic
import StorySuite.Text.Blank

/-!
# Sandbox — why a run in the sandbox gives no exports
-/

namespace StorySuite

/-- Why a run in the sandbox gives no exports. -/
inductive SandboxError where
  /-- The module threw. -/
  | execution (message : String) (stack : Option String)
  /-- The host ended without an answer; it has no status when a signal ended it. -/
  | hostFailed (status : Option Int) (stderr : String)
  /-- The host could not be started. -/
  | spawn (binary : Path)
  /-- The system failed between library and host. -/
  | io
  /-- The host's answer is none. -/
  | badReply
  /-- The text to run is no program; a caller can say what is wrong with it. -/
  | parse (path : Path) (messages : Option (List String))
  deriving DecidableEq, Repr

namespace SandboxError

/-- What the host left on its error stream, as the end of a message. -/
def stderrEnding (stderr : String) : String :=
  let s := Text.trim stderr
  if s.isEmpty then "" else ": " ++ s

/-- A host's status in words. -/
def statusText : Option Int → String
  | none => "signal"
  | some n => toString n

/-- What is told of the error, where the words are the library's own. -/
def message? : SandboxError → Option String
  | .execution message _ => some ("Sandboxed module threw: " ++ message)
  | .hostFailed status stderr =>
    some ("Script host produced no result (exit status: " ++ statusText status ++ ")" ++
      stderrEnding stderr)
  | .spawn _ | .io | .badReply => none
  | .parse p messages =>
    messages.map fun ms => "Failed to parse " ++ p.text ++ ": " ++ ", ".intercalate ms

/-- The error's code. -/
def code : SandboxError → String
  | .execution .. => "storytest::runner::execution_failed"
  | .hostFailed .. => "storytest::runner::host_failed"
  | .spawn _ => "storytest::runner::spawn_failed"
  | .io => "storytest::runner::io"
  | .badReply => "storytest::runner::json"
  | .parse .. => "storytest::runner::parse_failed"

/-- What may help. -/
def help? : SandboxError → Option String
  | .hostFailed .. => some "check that the configured Node.js binary runs and can read from stdin"
  | .spawn _ => some "set `nodeBinary` to a Node.js executable on this machine"
  | _ => none

end SandboxError

end StorySuite
