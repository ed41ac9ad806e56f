import StorySuite.EngineError
import StorySuite.Sandbox.Basic
import StorySuite.Synthesis.Basic

/-!
# Engine — suites made and run

An engine makes suites with a build service and runs them in a sandbox, both under one
configuration.
-/

namespace StorySuite

/-- A configuration at work. -/
structure Engine where
  config : Config
  /-- The directory that paths and URLs are relative to. -/
  cwd : Path
  synthesizer : Synthesizer
  sandbox : Sandbox

namespace Engine

/-- The engine of a configuration, if that makes sense; `workingDir` is the directory where none is
configured. -/
def new (config : Config) (build : BuildService) (host : ScriptHost) (workingDir : Path) :
    Run EngineError Engine := do
  if let some fault := config.fault? then throw (.config fault)
  let cwd := config.cwd.getD workingDir
  Run.event (.engineReady cwd)
  pure
    { config
      cwd
      synthesizer :=
        { build
          options :=
            { cwd
              hookNamespaces := config.hookNamespaces
              titleFromDefault := config.titleFromDefault } }
      sandbox :=
        { host
          sharedDir := config.dependencyDirFrom cwd
          suiteStubs := config.suiteStubs } }

/-- An error of a part, told as one of the engine. -/
def lift {ε α : Type} (wrap : ε → EngineError) (r : Run ε α) : Run EngineError α :=
  ExceptT.adapt wrap r

/-- The suite of the module at `path`. -/
def synthesize (e : Engine) (path : Path) (d : Descriptor) (exec : ExecContext) :
    Run EngineError String :=
  lift .ofSynthesis (e.synthesizer.synthesize path d exec)

/-- Makes the suite of the module at `path` and runs it. -/
def execute (e : Engine) (path : Path) (d : Descriptor) (exec : ExecContext) :
    Run EngineError Outcome := do
  if d.body.isNone then throw (.precondition .missingTestBody)
  let module ← Run.ofExcept .ofSynthesis (e.synthesizer.moduleReference path)
  let code ← lift .ofSynthesis (e.synthesizer.synthesizeModule module d exec)
  lift .execution (e.sandbox.run module code)

/-- The suite of the module at `path`, made by a process with the given arguments, which stand in
for the surroundings where none are given. -/
def synthesizeIn (e : Engine) (arguments : List String) (path : Path) (d : Descriptor)
    (exec : Option ExecContext) : Run EngineError String :=
  e.synthesize path d (exec.getD (.ofProcess arguments))

/-- Makes the suite of the module at `path` and runs it, in a process with the given arguments. -/
def executeIn (e : Engine) (arguments : List String) (path : Path) (d : Descriptor) :
    Run EngineError Outcome :=
  e.execute path d (.ofProcess arguments)

end Engine

end StorySuite
