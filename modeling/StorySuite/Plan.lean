import StorySuite.Journal
import StorySuite.Synthesis.Error

/-!
# Plan — which tests are made

The plan lists the exports to test in order, each with its title and its data.  Without a filter a
module's named exports are tested; its default export only when it is the only one.
-/

namespace StorySuite

/-- One test to make. -/
structure PlanEntry where
  story : ExportName
  title : String
  data : DataMap

namespace Plan

/-- The exports that are tested when the caller does not choose. -/
def defaultSelection (exports : List ExportName) : List ExportName :=
  if exports.length ≤ 1 then exports else exports.filter (!·.isDefault)

/-- The data of a test: the export's name and the module's path, then what was supplied; a supplied
value under one of the two keys takes the place of theirs. -/
def mergeData (story : ExportName) (modulePath : String) (supplied : DataMap) : DataMap :=
  DataMap.insertAll
    [("exportName", .string story.text), ("modulePath", .string modulePath)] supplied

/-- The title of a test. -/
def titleFor (rule : TitleRule) (story : ExportName) : Run SynthesisError String :=
  match rule with
  | .exportName => pure story.text
  | .literal title => pure title
  | .computed f => do
    Run.call (.title story)
    pure (f story)

/-- The selection that a filter makes. -/
def applyFilter (filter : ExportFilter) (exports : List ExportName) (module : ModuleReference) :
    Run SynthesisError (List ExportName) :=
  match filter with
  | .ofExports select => do
    Run.call (.filter exports none)
    pure (select exports)
  | .ofModule select => do
    Run.call (.filter exports (some module.realPath))
    Run.ofExcept (.supplier .exportFilter) (select exports module.realPath)

/-- The exports to test. -/
def selectExports (exports : List ExportName) (module : ModuleReference) (d : Descriptor) :
    Run SynthesisError (List ExportName) :=
  match d.filter with
  | none => pure (defaultSelection exports)
  | some filter => do
    let selected ← applyFilter filter exports module
    match selected.find? (!exports.contains ·) with
    | some unknown => throw (.unknownExport unknown module.realPath)
    | none => pure selected

/-- The data that all tests share; none where each export has its own. -/
def sharedData (source : DataSource) : Run SynthesisError (Option DataMap) :=
  match source with
  | .none => pure (some [])
  | .fixed data => pure (some data)
  | .perModule data => do
    Run.call .moduleData
    some <$> Run.ofExcept (.supplier .dataSupplier) data
  | .perExport _ => pure none

/-- The data supplied for one export. -/
def suppliedData (source : DataSource) (shared : Option DataMap) (story : ExportName) :
    Run SynthesisError DataMap :=
  match shared, source with
  | some data, _ => pure data
  | none, .perExport f => do
    Run.call (.exportData story)
    Run.ofExcept (.supplier .dataSupplier) (f story)
  | none, _ => pure []

/-- The entry of one export. -/
def entryFor (module : ModuleReference) (d : Descriptor) (shared : Option DataMap)
    (story : ExportName) : Run SynthesisError PlanEntry := do
  let supplied ← suppliedData d.data shared story
  let title ← titleFor d.title story
  pure { story, title, data := mergeData story module.realPath.text supplied }

/-- The plan for a module with the given exports. -/
def resolve (exports : List ExportName) (module : ModuleReference) (d : Descriptor) :
    Run SynthesisError (List PlanEntry) := do
  let selected ← selectExports exports module d
  Run.event (.exportsSelected module.realPath selected.length)
  let shared ← sharedData d.data
  selected.mapM (entryFor module d shared)

end Plan

end StorySuite
