import StorySuite.Json.Printer
import StorySuite.Sandbox.Request

/-!
# Sandbox — the script a host runs

A module's text is wrapped in a function that takes the module's scope, and handed over with the
names it requires and what they stand for.
-/

namespace StorySuite

/-- All that a host needs to run a module. -/
structure SandboxScript where
  /-- The name under which the text is compiled. -/
  filename : Path
  /-- The file the module takes itself for. -/
  realPath : Path
  /-- The directory of that file. -/
  dirname : Path
  /-- The wrapped text. -/
  source : String
  /-- Where packages lie. -/
  sharedDir : Path
  /-- The required names, each with what the loader is asked for. -/
  requires : List (String × String)
  /-- Functions that do nothing stand in for the test framework's. -/
  suiteStubs : Bool
  deriving DecidableEq, Repr

namespace SandboxScript

/-- The parameters of the wrapping function. -/
def wrapperParameters : List String :=
  ["module", "require", "__filename", "__dirname"]

/-- `code` as the body of a function that takes the module's scope. -/
def wrap (code : String) : String :=
  "(function (" ++ ", ".intercalate wrapperParameters ++
    ") \x7b\nvar exports = module.exports;\n" ++ code ++ "\n\x7d)"

/-- The script as data. -/
def toFields (s : SandboxScript) : DataMap := [
  ("filename", .string s.filename.text),
  ("realPath", .string s.realPath.text),
  ("dirname", .string s.dirname.text),
  ("source", .string s.source),
  ("sharedDir", .string s.sharedDir.text),
  ("requires", .object (s.requires.map fun r => (r.1, .string r.2))),
  ("suiteStubs", .bool s.suiteStubs)]

/-- The text handed to a host. -/
def payload (s : SandboxScript) : String :=
  Json.Value.text (.object s.toFields)

end SandboxScript

end StorySuite
