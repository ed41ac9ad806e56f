import StorySuite.Build.Service
import StorySuite.Script.Bundle.Chunk
import StorySuite.Script.Inspection
import StorySuite.Script.Parser
import StorySuite.Script.PlainProgram
import StorySuite.Script.Printer
import StorySuite.Source.Files

/-!
# Build — modules from files

A build service that reads modules from files.  Nothing is kept from one question to the next.
-/

namespace StorySuite.ModuleBuild

open Script

/-- The text of a module and the dialect of its path. -/
def readSource (files : Files) (p : Path) : Except BuildError (String × Dialect) :=
  match Dialect.ofPath? p with
  | none => .error (.unsupportedDialect p)
  | some dialect =>
    let whole := files.absolute p
    if !files.holds whole then .error (.read p (.notFound whole))
    else (files.readText whole).mapError (.read p) |>.map (·, dialect)

/-- The program that a text writes. -/
def parse (p : Path) (goal : Goal) (text : String) : Except BuildError Program :=
  match Program.parse? goal text with
  | some program => .ok program
  | none => .error (.parse p none)

/-- The plain form of a program that is written in `dialect`. -/
def plain (p : Path) (dialect : Dialect) (program : Program) : Except BuildError Program :=
  match program.plain? dialect with
  | some plain => .ok plain
  | none => .error (.transform p none)

/-- The plain text of the script that a text writes. -/
def plainText (p : Path) (dialect : Dialect) (text : String) : Except BuildError String := do
  return (← plain p dialect (← parse p { dialect, isModule := false } text)).text

/-- The module at `p`, in the dialect of its path. -/
def readModule (files : Files) (p : Path) : Except BuildError Program := do
  let (text, dialect) ← readSource files p
  parse p { dialect, isModule := true } text

/-- The exports of a module, and the reports of those that cannot be named. -/
def exportsOf (program : Program) : List Event × List ExportName :=
  (program.starSources.map .starSkipped, program.exports.map ExportName.mk)

/-- The exports of the module at `p`. -/
def analyzeExports (files : Files) (p : Path) : Report BuildError (List ExportName) :=
  match readModule files p with
  | .error e => { result := .error e }
  | .ok program =>
    let (events, names) := exportsOf program
    { events := events ++ [.exportsAnalyzed p names.length], result := .ok names }

/-- What can be said of the default export of the module at `p`. -/
def inspectDefault (files : Files) (p : Path) (namespaces : List String) :
    Report BuildError DefaultShape :=
  { result := (readModule files p).map (·.defaultShape namespaces) }

/-- The plain form of a module at `p` as a script. -/
def bundle (files : Files) (p : Path) (program : Program) : Except BuildError String :=
  match program.bundle? (files.absolute p) with
  | some text => .ok text
  | none => .error (.bundle p none)

/-- A module that awaits outside its functions cannot be made a script. -/
def ensureRunsAtOnce (p : Path) (dialect : Dialect) (text : String) : Except BuildError Unit :=
  (parse p { dialect, isModule := true, barsAwait := true } text).map (fun _ => ())
    |>.mapError fun _ => .bundle p none

/-- The module at `p`, written in `dialect`, as a script that requires and assigns. -/
def compileModule (files : Files) (p : Path) (dialect : Dialect) :
    Report BuildError CompiledModule :=
  let source := do
    let (text, _) ← readSource files p
    return (text, ← parse p { dialect, isModule := true } text)
  match source with
  | .error e => { result := .error e }
  | .ok (text, program) =>
    let (events, exports) := exportsOf program
    let script := do
      let plain ← plain p dialect program
      ensureRunsAtOnce p dialect text
      bundle files p plain
    match script with
    | .error e => { events, result := .error e }
    | .ok text =>
      { events := events ++ [.moduleCompiled p exports.length], result := .ok { text, exports } }

end StorySuite.ModuleBuild

namespace StorySuite.BuildService

open ModuleBuild

/-- The build service of modules in files. -/
def ofFiles (files : Files) : BuildService where
  analyzeExports := ModuleBuild.analyzeExports files
  compileModule := ModuleBuild.compileModule files
  normalize text p dialect := { result := plainText p dialect text }
  inspectDefault := ModuleBuild.inspectDefault files

end StorySuite.BuildService
