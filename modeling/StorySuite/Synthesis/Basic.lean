import StorySuite.Suite.Assembly
import StorySuite.Synthesis.Recombine

/-!
# Synthesis — from a module to its suite

A run looks up the module's exports, makes a plan, compiles the module, looks at its default export,
makes the tests and the suite, and puts all into one text.  The first step that fails ends the run;
a default export that cannot be looked at is reported and costs the suite its hooks.
-/

namespace StorySuite

/-- What is the same for all runs. -/
structure SynthesisOptions where
  /-- The directory that paths and URLs are relative to. -/
  cwd : Path
  /-- The properties of a default export that may hold hooks too. -/
  hookNamespaces : List String
  /-- A suite takes its title from the default export. -/
  titleFromDefault : Bool

/-- Whatever makes suites: a build service, and what is the same for all runs. -/
structure Synthesizer where
  build : BuildService
  options : SynthesisOptions

namespace Synthesizer

/-- The properties of a default export that may hold hooks, where nothing else is said. -/
def defaultHookNamespaces : List String := ["parameters", "test"]

/-- The reference of the module at `path`. -/
def moduleReference (s : Synthesizer) (path : Path) : Except SynthesisError ModuleReference :=
  (ModuleReference.new path s.options.cwd).mapError .build

/-- What is known of the default export; none, and a report, when it cannot be looked at. -/
def inspect (s : Synthesizer) (module : ModuleReference) :
    Run SynthesisError (Option DefaultShape) := do
  Run.call (.inspect module.realPath s.options.hookNamespaces)
  let report := s.build.inspectDefault module.realPath s.options.hookNamespaces
  modify (·.addEvents report.events)
  match report.result with
  | .ok shape => pure (some shape)
  | .error e =>
    Run.event (.inspectionFailed module.realPath e)
    pure none

/-- The suite of a module that is already named, put together by a renderer. -/
def synthesizeModuleWith (s : Synthesizer) (renderer : Renderer) (module : ModuleReference)
    (d : Descriptor) (exec : ExecContext) : Run SynthesisError String := do
  let some body := d.body | throw .missingTestBody
  let path := module.realPath
  Run.call (.analyze path)
  let exports ← Run.ofReport .build (s.build.analyzeExports path)
  Run.event (.catalogResolved path exports.length)
  let plan ← Plan.resolve exports module d
  Run.call (.compile path module.dialect)
  let compiled ← Run.ofReport .build (s.build.compileModule path module.dialect)
  let shape ← s.inspect module
  let inputs : ItemInputs :=
    { module, body, activation := d.activation, arguments := exec.arguments,
      metadata := exec.metadata }
  let items ← plan.mapM (Item.synthesizeWith renderer inputs)
  let suite ← Suite.assembleWith renderer module (plan.map (·.story)) items shape
    { hookNamespaces := s.options.hookNamespaces
      titleFromDefault := s.options.titleFromDefault
      settings := exec.settings }
  let code ← Synthesis.recombine s.build module compiled.text suite d.transform
  Run.event (.suiteSynthesized path items.length body.style)
  pure code

/-- The suite of a module that is already named. -/
def synthesizeModule (s : Synthesizer) (module : ModuleReference) (d : Descriptor)
    (exec : ExecContext) : Run SynthesisError String :=
  s.synthesizeModuleWith .templates module d exec

/-- The suite of the module at `path`, put together by a renderer.  A request without a function
that makes tests fails before anything else is done. -/
def synthesizeWith (s : Synthesizer) (renderer : Renderer) (path : Path) (d : Descriptor)
    (exec : ExecContext) : Run SynthesisError String := do
  if d.body.isNone then throw .missingTestBody
  let module ← Run.ofExcept id (s.moduleReference path)
  s.synthesizeModuleWith renderer module d exec

/-- The suite of the module at `path`. -/
def synthesize (s : Synthesizer) (path : Path) (d : Descriptor) (exec : ExecContext) :
    Run SynthesisError String :=
  s.synthesizeWith .templates path d exec

end Synthesizer

end StorySuite
