import StorySuite.Hook
import StorySuite.Plan
import StorySuite.Suite.StoryBinding
import StorySuite.Template.Renderer

/-!
# Suite — one test

The text of one test, made from its entry in the plan and from what all tests of a run share.
-/

namespace StorySuite

/-- What all tests of a run share. -/
structure ItemInputs where
  module : ModuleReference
  body : TestBody
  activation : Option (ActivationContext → List String → Bool)
  arguments : List String
  metadata : DataMap

namespace Item

/-- What the caller's predicate is told of a test. -/
def activationContext (inputs : ItemInputs) (entry : PlanEntry) : ActivationContext :=
  { title := entry.title
    story := entry.story
    modulePath := inputs.module.realPath
    publicUrl := inputs.module.publicUrl }

/-- The test runs alone, as the caller's predicate decides. -/
def runsAlone (inputs : ItemInputs) (entry : PlanEntry) : Run SynthesisError Bool :=
  match inputs.activation with
  | none => pure false
  | some decides => do
    let context := activationContext inputs entry
    Run.call (.activation context inputs.arguments)
    pure (decides context inputs.arguments)

/-- What the function that makes the test is given. -/
def context (inputs : ItemInputs) (entry : PlanEntry) : DataMap := [
  ("data", .object entry.data),
  ("publicUrl", .string inputs.module.publicUrl),
  ("modulePath", .string inputs.module.realPath.text),
  ("exportName", .string entry.story.text)]

/-- What the hooks around a rendering are given. -/
def hookContext (inputs : ItemInputs) (entry : PlanEntry) : DataMap :=
  (inputs.metadata.insert "name" (.string entry.story.text)).insert "title" (.string entry.title)

/-- What a failing hook is reported with. -/
def hookMessage (slot : HookSlot) (title : String) : String :=
  slot.name ++ " test hook threw an error for \"" ++ title ++ "\" story:"

/-- The bindings of a test's text. -/
def bindings (inputs : ItemInputs) (entry : PlanEntry) (only : Bool) : Template.Bindings := [
  ("suspension", .string inputs.body.style.name),
  ("only", .bool only),
  ("title", .string (Json.quote entry.title)),
  ("create_test", .string inputs.body.expression),
  ("context", .string (Json.Value.text (.object (context inputs entry)))),
  ("component", .string (StoryBinding.expression inputs.module entry.story)),
  ("hook_context", .string (Json.Value.text (.object (hookContext inputs entry)))),
  ("pre_render_message", .string (Json.quote (hookMessage .preRender entry.title))),
  ("post_render_message", .string (Json.quote (hookMessage .postRender entry.title)))]

/-- The text of one test, put together by a renderer. -/
def synthesizeWith (renderer : Renderer) (inputs : ItemInputs) (entry : PlanEntry) :
    Run SynthesisError String := do
  let only ← runsAlone inputs entry
  Run.ofReport id (renderer.render .testItem (bindings inputs entry only))

/-- The text of one test. -/
def synthesize (inputs : ItemInputs) (entry : PlanEntry) : Run SynthesisError String :=
  synthesizeWith .templates inputs entry

end Item

end StorySuite
