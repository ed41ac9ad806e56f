import StorySuite.Hook
import StorySuite.Journal

/-!
# Build — the build service

What the library asks of whatever builds modules: their exports, their compiled text, the look of
their default export, and finished text put into one form.
-/

namespace StorySuite

/-- A compiled module. -/
structure CompiledModule where
  /-- The module's body, which assigns each export. -/
  text : String
  /-- The module's exports, in source order. -/
  exports : List ExportName

/-- Whatever builds modules. -/
structure BuildService where
  /-- The exports of a module, in source order. -/
  analyzeExports : Path → Report BuildError (List ExportName)
  /-- The module written in a dialect as text that assigns its exports. -/
  compileModule : Path → Dialect → Report BuildError CompiledModule
  /-- A finished text, named by a path that is not read, in one form. -/
  normalize : String → Path → Dialect → Report BuildError String
  /-- What is known of a module's default export, hooks being looked for in the named properties
  too. -/
  inspectDefault : Path → List String → Report BuildError DefaultShape

end StorySuite
