import StorySuite.ExportName
import StorySuite.ModuleReference
import StorySuite.TestBody

/-!
# Descriptor — what a caller asks for

One request says how tests are titled, which exports are tested, which data the tests get, how a
test is made, which tests run alone, and what happens to the finished text.  The functions in it are
the caller's; those that can fail say why in words.
-/

namespace StorySuite

/-- How tests are titled. -/
inductive TitleRule where
  /-- By the export's name. -/
  | exportName
  /-- All alike. -/
  | literal (title : String)
  /-- By the caller's function. -/
  | computed (title : ExportName → String)

/-- Where the data of tests comes from, besides the export's name and the module's path. -/
inductive DataSource where
  | none
  /-- The same data for all. -/
  | fixed (data : DataMap)
  /-- Asked for once for the module. -/
  | perModule (data : Except String DataMap)
  /-- Asked for once for each export. -/
  | perExport (data : ExportName → Except String DataMap)

/-- Which exports are tested, and in which order. -/
inductive ExportFilter where
  /-- Chosen among the exports. -/
  | ofExports (select : List ExportName → List ExportName)
  /-- Chosen among the exports with a look at the module's path; can fail. -/
  | ofModule (select : List ExportName → Path → Except String (List ExportName))

/-- What is known of a test when it is decided whether it runs alone. -/
structure ActivationContext where
  title : String
  story : ExportName
  modulePath : Path
  publicUrl : String

/-- What a caller asks for. -/
structure Descriptor where
  title : TitleRule := .exportName
  data : DataSource := .none
  filter : Option ExportFilter := none
  body : Option TestBody := none
  transform : Option (String → String) := none
  /-- Which tests run alone, given the arguments of the process. -/
  activation : Option (ActivationContext → List String → Bool) := none

/-- The surroundings of a run. -/
structure ExecContext where
  arguments : List String := []
  /-- Assigned to the suite's context. -/
  settings : DataMap := []
  /-- Handed to the hooks around a rendering. -/
  metadata : DataMap := []

/-- The surroundings of a run that is given none: the arguments of the process. -/
def ExecContext.ofProcess (arguments : List String) : ExecContext :=
  { arguments }

end StorySuite
