import StorySuite.ExportName
import StorySuite.Json.Printer
import StorySuite.ModuleReference

/-!
# Suite — how generated code reaches the tested exports

A suite declares the exports it tests under their own names, as far as these can be declared and no
generated code uses them; the default export is declared under the module's default binding.  All
other exports are read off the module where they are needed.
-/

namespace StorySuite.StoryBinding

/-- The names that generated code declares or calls itself. -/
def suiteNames : List String := [
  "module", "exports", "require", "describe", "it", "before", "beforeEach", "afterEach", "after",
  "console", "Error", "String", "Promise", "undefined", "arguments", "storyHooks",
  "augmentHookError", "resolveStoryHook", "browser", "test", "result", "data", "component",
  "outcome"]

/-- The name under which an export is declared, if it is. -/
def bindingName? (module : ModuleReference) (story : ExportName) : Option String :=
  if story.isDefault then some module.defaultBinding
  else if BindingName.isIdentifier story.text && !suiteNames.contains story.text &&
      story.text != module.defaultBinding then
    some story.text
  else none

/-- The expression by which a test reaches an export. -/
def expression (module : ModuleReference) (story : ExportName) : String :=
  match bindingName? module story with
  | some name => name
  | none => "module.exports[" ++ Json.quote story.text ++ "]"

/-- A declared export: its name in the suite, and its name in the module as a literal. -/
structure Declaration where
  name : String
  exported : String
  deriving DecidableEq, Repr

/-- The declarations `acc` and those of further exports; a name is declared once. -/
def declareAll (module : ModuleReference) (acc : List Declaration) :
    List ExportName → List Declaration
  | [] => acc
  | story :: rest =>
    match bindingName? module story with
    | none => declareAll module acc rest
    | some name =>
      if acc.any (·.name == name) then declareAll module acc rest
      else declareAll module (acc ++ [⟨name, Json.quote story.text⟩]) rest

/-- What a suite declares for the exports it tests. -/
def declarations (module : ModuleReference) (stories : List ExportName) : List Declaration :=
  declareAll module [] stories

end StorySuite.StoryBinding
