import StorySuite.Journal
import StorySuite.Sandbox.Reply
import StorySuite.Script.Requires

/-!
# Sandbox — running a module by itself

A module's text is made a script, every name it requires in plain sight being looked up beforehand,
and the script is handed to a host once.  A text that is no program never reaches the host.
-/

namespace StorySuite

/-- Whatever runs scripts. -/
structure ScriptHost where
  run : SandboxScript → Report SandboxError Outcome

/-- A host, and how scripts for it are made. -/
structure Sandbox where
  host : ScriptHost
  /-- Where packages lie. -/
  sharedDir : Path
  suiteStubs : Bool := true

namespace Sandbox

/-- Where the names that a module requires are looked up. -/
def resolverFor (s : Sandbox) (module : ModuleReference) : Resolver :=
  { moduleDir := module.directory, sharedDir := s.sharedDir }

/-- The required names of a text, each with what the loader is asked for. -/
def requests (s : Sandbox) (module : ModuleReference) (names : List String) :
    List (String × String) :=
  names.map fun name => (name, ((s.resolverFor module).resolve name).text)

/-- The script that runs `code` as the module. -/
def prepare (s : Sandbox) (module : ModuleReference) (code : String) :
    Except SandboxError SandboxScript :=
  match Script.requires? code with
  | none => .error (.parse module.virtualPath none)
  | some names => .ok
    { filename := module.virtualPath
      realPath := module.realPath
      dirname := module.directory
      source := SandboxScript.wrap code
      sharedDir := s.sharedDir
      requires := s.requests module names
      suiteStubs := s.suiteStubs }

/-- Runs `code` as the module. -/
def run (s : Sandbox) (module : ModuleReference) (code : String) : Run SandboxError Outcome := do
  let script ← Run.ofExcept id (s.prepare module code)
  Run.event (.sandboxRunning module.realPath (script.requires.map (·.1)))
  Run.call (.run script)
  Run.ofReport id (s.host.run script)

end Sandbox

namespace ScriptHost

/-- A program that runs scripts: it is started, unless nothing has its name, reads the script and
prints a reply. -/
def process (binary : Path) (exitOf? : SandboxScript → Option HostExit) : ScriptHost where
  run script :=
    { events := [.hostSpawning binary script.realPath script.requires.length]
      result := match exitOf? script with
        | none => .error (.spawn binary)
        | some e => HostReply.ofExit e }

end ScriptHost

end StorySuite
