import StorySuite.Journal
import StorySuite.Synthesis.Error
import StorySuite.Template.Suite

/-!
# Template — renderers

Whatever makes the text of a template from its bindings.  The library has one of its own, and a
caller may bring another.
-/

namespace StorySuite

/-- The templates that are rendered. -/
inductive TemplateName where
  | testItem
  | suite
  deriving DecidableEq, Repr

/-- The pieces of the library's template of the name. -/
def TemplateName.pieces : TemplateName → List TemplatePiece
  | .testItem => Template.testItem
  | .suite => Template.suite

/-- Whatever renders templates. -/
structure Renderer where
  /-- The text of the template of a name with bindings. -/
  render : TemplateName → Template.Bindings → Report SynthesisError String

/-- The renderer of the library's templates. -/
def Renderer.templates : Renderer where
  render name b :=
    { result := match Template.renderPieces? b name.pieces with
        | some s => .ok s
        | none => .error .template }

end StorySuite
